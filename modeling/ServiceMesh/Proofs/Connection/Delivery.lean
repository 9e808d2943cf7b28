import ServiceMesh.Proofs.Connection.Opening
import ServiceMesh.Proofs.Connection.Streams

/-!
# What an inbound stream delivers

The arrivals of a call are a script for the consumer of its stream: the messages in their order up to
the first arrival that ends the call, then the error of that arrival or the regular end.  A consumer
sees a prefix of the script whatever else it does, and as long as it has not given up, what it has
seen and what is still to come make up the whole script (`StreamPart.shown_append_outlook`).

Grants are counted: what the consumer has pulled is what was granted and what was counted since
(`StreamPart.consumed_add_granted`).

`streamLaw_after` carries both over to the runs of a connection.
-/

namespace ServiceMesh

/-! ## The script of a stream -/

namespace Connection

theorem threshold_pos (connection : Connection) : 0 < connection.threshold :=
  Nat.lt_of_lt_of_le Nat.zero_lt_one (Nat.le_max_right _ _)

/-- What arrivals show to a consumer. -/
def script (connection : Connection) : List Arrival → List (Signal (Outcome Message))
  | [] => []
  | .message envelope :: arrivals =>
    match connection.codec.decode envelope with
    | .ok message => .item (.ok message) :: connection.script arrivals
    | .error error => [.item (.error error)]
  | .completed :: _ | .cancelled :: _ => [.ended]
  | .failed code text :: _ => [.item (.error (.remote code text))]
  | .closed :: _ => [.item (.error connection.closedError)]

/-- Whether nothing more can arrive for a call after an arrival. -/
def endsWith (connection : Connection) : Arrival → Bool
  | .message envelope =>
    match connection.codec.decode envelope with
    | .ok _ => false
    | .error _ => true
  | _ => true

end Connection

namespace StreamPart

/-- What a buffer shows, and what comes after it. -/
def upcoming (later : List (Signal (Outcome Message))) :
    List (Outcome Message) → List (Signal (Outcome Message))
  | [] => later
  | .ok message :: rest => .item (.ok message) :: upcoming later rest
  | .error error :: _ => [.item (.error error)]

/-- What a stream is still to show, with the arrivals that are to come. -/
def outlook (connection : Connection) (part : StreamPart) (arrivals : List Arrival) :
    List (Signal (Outcome Message)) :=
  if part.stream.isDone then []
  else upcoming (if part.isFed then connection.script arrivals else [.ended])
    part.stream.buffer

/-- The stream after some events. -/
def run (connection : Connection) (part : StreamPart) (events : List CallEvent) :
    StreamPart :=
  events.foldl (step connection) part

/-- What the consumer sees during some events. -/
def shown (connection : Connection) (part : StreamPart) (events : List CallEvent) :
    List (Signal (Outcome Message)) :=
  outputs (step connection) (fun part event => (part.shows event).toList) part events

/-- The feedback that the stream queues during some events. -/
def fedBack (connection : Connection) (part : StreamPart) (events : List CallEvent) :
    List Frame :=
  outputs (step connection) (posts connection) part events

end StreamPart

/-- The arrival that an event is, if it is one. -/
def CallEvent.arrival? : CallEvent → Option Arrival
  | .arrived arrival => some arrival
  | _ => none

/-- The arrivals among some events. -/
def arrivals (events : List CallEvent) : List Arrival := events.filterMap CallEvent.arrival?

theorem arrivals_cons (event : CallEvent) (events : List CallEvent) :
    arrivals (event :: events) = event.arrival?.toList ++ arrivals events := by
  cases event <;> rfl

theorem arrivals_append (first second : List CallEvent) :
    arrivals (first ++ second) = arrivals first ++ arrivals second :=
  List.filterMap_append

namespace StreamPart

variable {connection : Connection}

theorem upcoming_concat_ok (later : List (Signal (Outcome Message)))
    (buffer : List (Outcome Message)) (message : Message) :
    upcoming later (buffer ++ [.ok message]) =
      upcoming (.item (.ok message) :: later) buffer := by
  induction buffer with
  | nil => rfl
  | cons item rest induction =>
      cases item with
      | ok first => simp only [List.cons_append, upcoming, induction]
      | error error => rfl

theorem upcoming_concat_error (later : List (Signal (Outcome Message)))
    (buffer : List (Outcome Message)) (error : CallError) :
    upcoming later (buffer ++ [.error error]) = upcoming [.item (.error error)] buffer := by
  induction buffer with
  | nil => rfl
  | cons item rest induction =>
      cases item with
      | ok first => simp only [List.cons_append, upcoming, induction]
      | error error => rfl

/-- An arrival is the first line of the script. -/
theorem outlook_arrived (part : StreamPart) (arrival : Arrival) (later : List Arrival) :
    (part.step connection (.arrived arrival)).outlook connection later =
      part.outlook connection (arrival :: later) := by
  rcases part with ⟨⟨streamId, isRequester, buffer, consumed, isDone⟩, isFed⟩
  cases isFed with
  | false => rfl
  | true =>
      cases isDone with
      | true =>
          cases arrival with
          | message envelope =>
              simp only [step, take, if_true, outlook]
              split <;> rfl
          | _ => rfl
      | false =>
          cases arrival with
          | message envelope =>
              cases decodes : connection.codec.decode envelope with
              | ok message =>
                  simp [step, take, decodes, push, outlook, Connection.script,
                    upcoming_concat_ok]
              | error error =>
                  simp [step, take, decodes, push, cut, outlook, Connection.script,
                    upcoming_concat_error]
          | completed => simp [step, take, cut, outlook, Connection.script]
          | cancelled => simp [step, take, cut, outlook, Connection.script]
          | failed code text =>
              simp [step, take, push, cut, outlook, Connection.script, upcoming_concat_error]
          | closed =>
              simp [step, take, push, cut, outlook, Connection.script, upcoming_concat_error]

/-- A pull takes the first of what is to come, if it is there already. -/
theorem outlook_asked (part : StreamPart) (later : List Arrival) :
    (part.shows .asked).toList ++ (part.step connection .asked).outlook connection later =
      part.outlook connection later := by
  rcases part with ⟨⟨streamId, isRequester, buffer, consumed, isDone⟩, isFed⟩
  cases isDone with
  | true => simp [shows, step, outlook]
  | false =>
      rcases buffer with _ | ⟨_ | message, rest⟩
      · cases isFed <;> simp [shows, step, outlook, finish, upcoming]
      · simp [shows, step, outlook, upcoming]
      · simp [shows, step, outlook, pull, upcoming]

theorem outlook_left (part : StreamPart) (later : List Arrival) :
    (part.step connection .left).outlook connection later = [] := by
  simp only [step]
  split
  · rename_i done
    simp [outlook, done]
  · simp [outlook, finish, cut]

theorem outlook_step (part : StreamPart) (event : CallEvent) (later : List Arrival)
    (stays : event ≠ .left) :
    (part.shows event).toList ++ (part.step connection event).outlook connection later =
      part.outlook connection (event.arrival?.toList ++ later) := by
  cases event with
  | arrived arrival => exact outlook_arrived part arrival later
  | asked => exact outlook_asked part later
  | left => exact (stays rfl).elim

/-- What was shown and what is still to come make up the script. -/
theorem shown_append_outlook (connection : Connection) {events : List CallEvent} (stays : .left ∉ events)
    (part : StreamPart) (later : List Arrival) :
    part.shown connection events ++ (part.run connection events).outlook connection later =
      part.outlook connection (arrivals events ++ later) :=
  outputs_append_outlook (fun _ => True) (fun _ _ _ => trivial)
    (fun part event later _ stays => outlook_step part event later stays) trivial stays later

theorem run_cons (part : StreamPart) (event : CallEvent) (events : List CallEvent) :
    part.run connection (event :: events) =
      (part.step connection event).run connection events := rfl

theorem shown_cons (part : StreamPart) (event : CallEvent) (events : List CallEvent) :
    part.shown connection (event :: events) =
      (part.shows event).toList ++ (part.step connection event).shown connection events := rfl

theorem fedBack_cons (part : StreamPart) (event : CallEvent) (events : List CallEvent) :
    part.fedBack connection (event :: events) =
      part.posts connection event ++ (part.step connection event).fedBack connection events :=
  rfl

/-- What is shown stands in the script, also when the consumer gives up. -/
theorem shown_prefix_outlook (connection : Connection) (events : List CallEvent)
    (part : StreamPart) :
    part.shown connection events <+: part.outlook connection (arrivals events) :=
  outputs_prefix_outlook (fun _ => True) (fun _ _ _ => trivial)
    (fun part event later _ stays => outlook_step part event later stays)
    (fun part later _ => ⟨rfl, outlook_left part later⟩) trivial events

/-! ## What is counted towards the next grant -/

/-- The stream is fed only as long as its end is not in sight. -/
def Sound (part : StreamPart) : Prop :=
  part.isFed = true →
    part.stream.isDone = false ∧ ∀ item ∈ part.stream.buffer, ∃ message, item = .ok message

theorem Sound.step {part : StreamPart} (sound : part.Sound) (event : CallEvent) :
    (part.step connection event).Sound := by
  rcases part with ⟨⟨streamId, isRequester, buffer, consumed, isDone⟩, isFed⟩
  cases isFed with
  | false =>
      intro fed
      cases event with
      | arrived arrival => simp [StreamPart.step] at fed
      | asked =>
          simp only [StreamPart.step] at fed
          split at fed
          · simp at fed
          · split at fed <;> simp [pull, finish] at fed
      | left =>
          simp only [StreamPart.step] at fed
          split at fed <;> simp [finish, cut] at fed
  | true =>
      rcases sound rfl with ⟨notDone, clean⟩
      simp only at notDone clean
      subst notDone
      cases event with
      | arrived arrival =>
          cases arrival with
          | message envelope =>
              simp only [StreamPart.step, take, if_true]
              split
              · rename_i message _
                refine fun _ => ⟨rfl, ?_⟩
                intro item member
                rcases List.mem_append.mp member with earlier | last
                · exact clean item earlier
                · exact ⟨message, List.mem_singleton.mp last⟩
              · simp [Sound, cut]
          | _ => simp [Sound, StreamPart.step, take, cut]
      | asked =>
          rcases buffer with _ | ⟨_ | message, rest⟩
          · exact fun _ => ⟨rfl, clean⟩
          · rcases clean _ List.mem_cons_self with ⟨message, impossible⟩
            simp at impossible
          · exact fun _ => ⟨rfl, fun item member => clean item (List.mem_cons_of_mem _ member)⟩
      | left => simp [Sound, StreamPart.step, finish, cut]

theorem streamId_step (part : StreamPart) (event : CallEvent) :
    (part.step connection event).stream.streamId = part.stream.streamId := by
  cases event with
  | arrived arrival =>
      simp only [step]
      split
      · cases arrival with
        | message envelope =>
            simp only [take]
            split <;> rfl
        | _ => rfl
      · rfl
  | asked =>
      simp only [step]
      split
      · rfl
      · split
        · rfl
        · rfl
        · split <;> rfl
  | left =>
      simp only [step]
      split <;> rfl

end StreamPart

/-- Whether a frame grants credits. -/
def Frame.isGrant : Frame → Bool
  | .requestN _ _ => true
  | _ => false

/-- The messages that a consumer has pulled. -/
def pulled (signals : List (Signal (Outcome Message))) : List Message :=
  signals.filterMap fun
    | .item (.ok message) => some message
    | _ => none

theorem pulled_append (first second : List (Signal (Outcome Message))) :
    pulled (first ++ second) = pulled first ++ pulled second :=
  List.filterMap_append

namespace StreamPart

variable {connection : Connection}

/-- Only a pull of a message counts, and the grant is due as soon as enough are counted. -/
theorem consumed_step (part : StreamPart) (event : CallEvent)
    (below : part.stream.consumed < connection.threshold) :
    (part.step connection event).stream.consumed < connection.threshold ∧
      (part.step connection event).stream.consumed +
          connection.threshold * (part.posts connection event).countP Frame.isGrant =
        part.stream.consumed + (pulled (part.shows event).toList).length ∧
      ∀ frame ∈ part.posts connection event, frame.isGrant →
        frame = .requestN part.stream.streamId (UInt32.ofNat connection.threshold) := by
  rcases part with ⟨⟨streamId, isRequester, buffer, consumed, isDone⟩, isFed⟩
  simp only at below
  cases event with
  | arrived arrival =>
      cases isFed with
      | false => cases arrival <;> simp [step, posts, shows, pulled, below]
      | true =>
          cases arrival with
          | message envelope =>
              cases decodes : connection.codec.decode envelope <;>
                simp [step, take, posts, shows, pulled, push, cut, decodes, below,
                  Frame.isGrant]
          | _ => simp [step, take, posts, shows, pulled, push, cut, below]
  | asked =>
      cases isDone with
      | true => simp [step, posts, shows, pulled, below]
      | false =>
          rcases buffer with _ | ⟨_ | message, rest⟩
          · cases isFed <;> simp [step, posts, shows, pulled, finish, below]
          · simp [step, posts, shows, pulled, below]
          · by_cases enough : connection.threshold ≤ consumed + 1
            · have due : consumed + 1 = connection.threshold := by omega
              simp [step, posts, shows, pulled, pull, due, Frame.isGrant,
                connection.threshold_pos]
            · simp [step, posts, shows, pulled, pull, enough]
              omega
  | left =>
      cases isDone <;> cases isFed <;>
        simp [step, posts, shows, pulled, finish, cut, below, Frame.isGrant]

/-- What was pulled is what was granted and what is counted towards the next grant. -/
theorem consumed_add_granted (connection : Connection) (events : List CallEvent) (part : StreamPart)
    (below : part.stream.consumed < connection.threshold) :
    (part.run connection events).stream.consumed < connection.threshold ∧
      (part.run connection events).stream.consumed +
          connection.threshold * (part.fedBack connection events).countP Frame.isGrant =
        part.stream.consumed + (pulled (part.shown connection events)).length ∧
      ∀ frame ∈ part.fedBack connection events, frame.isGrant →
        frame = .requestN part.stream.streamId (UInt32.ofNat connection.threshold) := by
  induction events generalizing part with
  | nil => simp [run, fedBack, shown, pulled, below]
  | cons event events induction =>
      rcases consumed_step part event below with ⟨stays, counts, grants⟩
      rcases induction (part.step connection event) stays with ⟨last, total, others⟩
      rw [streamId_step] at others
      refine ⟨last, ?_, ?_⟩
      · rw [run_cons, fedBack_cons, shown_cons, List.countP_append, pulled_append,
          List.length_append, Nat.mul_add]
        omega
      · intro frame member
        rcases List.mem_append.mp member with now | later
        · exact grants frame now
        · exact others frame later

theorem Sound.run {part : StreamPart} (sound : part.Sound) (events : List CallEvent) :
    (part.run connection events).Sound := by
  induction events generalizing part with
  | nil => exact sound
  | cons event events induction => exact induction (sound.step event)

/-- A stream whose consumer stays is fed until the call ends. -/
theorem isFed_run (connection : Connection) {events : List CallEvent}
    (stays : .left ∉ events) (part : StreamPart) :
    (part.run connection events).isFed =
      (part.isFed && !(arrivals events).any connection.endsWith) := by
  induction events generalizing part with
  | nil => simp [run, arrivals]
  | cons event events induction =>
      have rest := induction (fun left => stays (List.mem_cons_of_mem _ left))
        (part.step connection event)
      rw [run_cons, rest, arrivals_cons]
      rcases part with ⟨⟨streamId, isRequester, buffer, consumed, isDone⟩, isFed⟩
      cases event with
      | arrived arrival =>
          cases isFed with
          | false => simp [step]
          | true =>
              cases arrival with
              | message envelope =>
                  cases decodes : connection.codec.decode envelope <;>
                    simp [step, take, push, cut, decodes, CallEvent.arrival?,
                      Connection.endsWith]
              | _ => simp [step, take, push, cut, CallEvent.arrival?, Connection.endsWith]
      | asked =>
          cases isDone with
          | true => simp [step, CallEvent.arrival?]
          | false =>
              rcases buffer with _ | ⟨_ | message, others⟩ <;> cases isFed <;>
                simp [step, pull, finish, CallEvent.arrival?]
      | left => exact (stays List.mem_cons_self).elim

/-- A pull gives the first of what is to come, and else the end, if nothing more can arrive. -/
theorem signal_eq (connection : Connection) {part : StreamPart} (sound : part.Sound) :
    part.signal =
      (part.outlook connection []).head?.getD (if part.isFed then .pending else .ended) := by
  rcases part with ⟨⟨streamId, isRequester, buffer, consumed, isDone⟩, isFed⟩
  cases isDone with
  | true =>
      cases isFed with
      | true => simpa using (sound rfl).1
      | false => rfl
  | false =>
      rcases buffer with _ | ⟨_ | message, others⟩ <;> cases isFed <;> rfl

theorem step_fed (connection : Connection) {part : StreamPart} (fed : part.isFed = true)
    (sound : part.Sound) (event : CallEvent)
    (keeps : ∀ frame ∈ part.posts connection event, frame.isGrant = true)
    (messages : ∀ arrival ∈ event.arrival?, ∃ envelope, arrival = .message envelope) :
    (part.step connection event).isFed = true ∧
      (pulled (part.shows event).toList).length +
          (part.step connection event).stream.buffer.length =
        part.stream.buffer.length + event.arrival?.toList.length := by
  rcases sound fed with ⟨notDone, clean⟩
  rcases part with ⟨⟨streamId, isRequester, buffer, consumed, isDone⟩, isFed⟩
  simp only at fed notDone clean
  subst fed notDone
  cases event with
  | arrived arrival =>
      rcases messages arrival rfl with ⟨envelope, rfl⟩
      cases decodes : connection.codec.decode envelope with
      | error error => simp [posts, decodes, Frame.isGrant] at keeps
      | ok message =>
          simp [step, take, push, decodes, shows, pulled, CallEvent.arrival?]
  | asked =>
      rcases buffer with _ | ⟨_ | message, rest⟩
      · simp [step, shows, pulled, CallEvent.arrival?]
      · rcases clean _ List.mem_cons_self with ⟨message, impossible⟩
        simp at impossible
      · simp [step, pull, shows, pulled, CallEvent.arrival?, Nat.add_comm]
  | left => simp [posts, Frame.isGrant] at keeps

/-- As long as it has sent no cancellation, and nothing has ended the call, a stream is fed; what has
arrived was pulled or is there to be pulled. -/
theorem run_fed (connection : Connection) {events : List CallEvent} (part : StreamPart)
    (fed : part.isFed = true) (sound : part.Sound)
    (keeps : ∀ frame ∈ part.fedBack connection events, frame.isGrant = true)
    (messages : ∀ arrival ∈ arrivals events, ∃ envelope, arrival = .message envelope) :
    (part.run connection events).isFed = true ∧
      (pulled (part.shown connection events)).length +
          (part.run connection events).stream.buffer.length =
        part.stream.buffer.length + (arrivals events).length := by
  induction events generalizing part with
  | nil => simp [run, shown, pulled, arrivals, fed]
  | cons event events induction =>
      have whole := arrivals_cons event events
      rcases step_fed connection fed sound event
        (fun frame member => keeps frame (List.mem_append_left _ member))
        (fun arrival member => messages arrival (by
          rw [whole]
          exact List.mem_append_left _ (Option.mem_toList.mpr member))) with ⟨fedNow, now⟩
      rcases induction (part.step connection event) fedNow
        (sound.step event)
        (fun frame member => keeps frame (List.mem_append_right _ member))
        (fun arrival member => messages arrival (by
          rw [whole]
          exact List.mem_append_right _ member)) with ⟨fedLater, later⟩
      refine ⟨fedLater, ?_⟩
      rw [run_cons, shown_cons, pulled_append, whole, List.length_append, List.length_append]
      omega

theorem fed_step {connection : Connection} (part : StreamPart) (event : CallEvent)
    (fed : (part.step connection event).isFed = true) :
    part.isFed = true ∧
      (∀ frame ∈ part.posts connection event, frame.isGrant = true) ∧
      ∀ arrival ∈ event.arrival?, connection.endsWith arrival = false := by
  cases event with
  | arrived arrival =>
      have before : part.isFed = true := by
        by_contra unfed
        simp [step, unfed] at fed
      refine ⟨before, ?_⟩
      cases arrival with
      | message envelope =>
          cases decodes : connection.codec.decode envelope <;>
            simp_all [step, take, push, cut, posts, CallEvent.arrival?, Connection.endsWith]
      | _ => simp_all [step, take, push, cut]
  | asked =>
      refine ⟨?_, ?_, by simp [CallEvent.arrival?]⟩
      · simp only [step] at fed
        split at fed
        · exact fed
        · split at fed
          · exact fed
          · exact fed
          · by_contra unfed
            simp [unfed, finish] at fed
      · intro frame member
        simp only [posts] at member
        split at member
        · split at member
          · rw [List.mem_singleton.mp member]
            rfl
          · cases member
        · cases member
  | left =>
      cases done : part.stream.isDone with
      | true =>
          simp only [step, done, if_true] at fed
          exact ⟨fed, by simp [posts, done], by simp [CallEvent.arrival?]⟩
      | false => simp [step, done, finish, cut] at fed

/-- A stream that is still fed has sent no cancellation, and nothing has ended the call. -/
theorem fed_run (connection : Connection) {events : List CallEvent} (part : StreamPart)
    (fed : (part.run connection events).isFed = true) :
    part.isFed = true ∧
      (∀ frame ∈ part.fedBack connection events, frame.isGrant = true) ∧
      ∀ arrival ∈ arrivals events, connection.endsWith arrival = false := by
  induction events generalizing part with
  | nil => exact ⟨fed, by simp [fedBack], by simp [arrivals]⟩
  | cons event events induction =>
      rw [run_cons] at fed
      rcases induction _ fed with ⟨later, grants, calm⟩
      rcases fed_step part event later with ⟨before, grant, quiet⟩
      refine ⟨before, ?_, ?_⟩
      · intro frame member
        rw [fedBack_cons, List.mem_append] at member
        exact member.elim (grant frame) (grants frame)
      · intro arrival member
        rw [arrivals_cons, List.mem_append, Option.mem_toList] at member
        exact member.elim (quiet arrival) (calm arrival)

end StreamPart

/-! ## The runs of a connection -/

namespace StreamPart

/-- A stream as it comes to be; one that the consumer has not got is done from the start. -/
def opening (streamId : UInt64) (isRequester isHanded : Bool) : StreamPart :=
  ⟨⟨streamId, isRequester, [], 0, !isHanded⟩, isHanded⟩

theorem sound_opening (streamId : UInt64) (isRequester isHanded : Bool) :
    (opening streamId isRequester isHanded).Sound := by
  rintro rfl
  exact ⟨rfl, by simp [opening]⟩

theorem outlook_opening (connection : Connection) (streamId : UInt64)
    (isRequester isHanded : Bool) (arrivals : List Arrival) :
    (opening streamId isRequester isHanded).outlook connection arrivals =
      if isHanded then connection.script arrivals else [] := by
  cases isHanded <;> rfl

theorem step_extends {first second : Connection} (grown : Connection.Extends first second)
    (part : StreamPart) (event : CallEvent) :
    part.step second event = part.step first event := by
  have closing : second.closedError = first.closedError := by
    simp [Connection.closedError, grown.peer]
  have threshold : second.threshold = first.threshold := by
    simp [Connection.threshold, grown.window]
  cases event with
  | arrived arrival => cases arrival <;> simp [step, take, grown.codec, closing]
  | asked => simp [step, threshold]
  | left => rfl

theorem posts_extends {first second : Connection} (grown : Connection.Extends first second)
    (part : StreamPart) (event : CallEvent) :
    part.posts second event = part.posts first event := by
  have threshold : second.threshold = first.threshold := by
    simp [Connection.threshold, grown.window]
  cases event with
  | arrived arrival => cases arrival <;> simp [posts, grown.codec]
  | asked => simp [posts, threshold]
  | left => rfl

variable {connection : Connection}

theorem run_append (part : StreamPart) (first second : List CallEvent) :
    part.run connection (first ++ second) =
      (part.run connection first).run connection second :=
  List.foldl_append

theorem shown_append (part : StreamPart) (first second : List CallEvent) :
    part.shown connection (first ++ second) =
      part.shown connection first ++ (part.run connection first).shown connection second :=
  outputs_append part first second

theorem fedBack_append (part : StreamPart) (first second : List CallEvent) :
    part.fedBack connection (first ++ second) =
      part.fedBack connection first ++
        (part.run connection first).fedBack connection second :=
  outputs_append part first second

end StreamPart

namespace Connection

/-- The frames that the actions of a history send, also those that the writer takes no more. -/
def sent (history : List Step) : List Frame :=
  history.flatMap (fun step => step.before.sends step.action)

/-- What has happened to an inbound stream. -/
def streamEvents (number : Nat) (history : List Step) : List CallEvent :=
  history.filterMap (fun step => step.before.streamEvent number step.action)

/-- Whether an inbound stream was handed to its consumer. -/
def handed (number : Nat) (history : List Step) : Bool := history.any (Step.hands number)

section

variable {connection : Connection} {number : Nat}

theorem streamPart_eq_none :
    connection.streamPart number = none ↔ connection.inbound.length ≤ number := by
  rw [streamPart, Option.map_eq_none_iff, List.getElem?_eq_none_iff]

theorem streamEvent_of_absent (absent : connection.streamPart number = none)
    (action : Action) :
    connection.streamEvent number action = none := by
  have missing := List.getElem?_eq_none_iff.mpr (streamPart_eq_none.mp absent)
  simp [streamEvent, missing]

theorem seen_of_absent (absent : connection.streamPart number = none) (action : Action) :
    Step.seen number ⟨connection, action⟩ = none := by
  have missing := List.getElem?_eq_none_iff.mpr (streamPart_eq_none.mp absent)
  simp only [Step.seen]
  split
  · rw [missing, Option.any_none]
    simp
  · rfl

theorem hands_of_present (wired : Wired connection) {part : StreamPart}
    (present : connection.streamPart number = some part) (action : Action) :
    Step.hands number ⟨connection, action⟩ = false := by
  have within := (List.getElem?_eq_some_iff.mp (streamPart_eq_some.mp present).1).1
  rcases inbound_perform wired action with ⟨_, hands⟩ | ⟨_, _, isHanded, opened⟩
  · exact hands number
  · rw [opened.hands, decide_eq_false (by omega), Bool.and_false]

theorem hands_of_absent (wired : Wired connection) {action : Action}
    (absent : (connection.perform action).2.streamPart number = none) :
    Step.hands number ⟨connection, action⟩ = false := by
  have beyond := streamPart_eq_none.mp absent
  rcases inbound_perform wired action with ⟨_, hands⟩ | ⟨_, _, isHanded, opened⟩
  · exact hands number
  · have length := congrArg List.length opened.inbound
    rw [List.length_append, List.length_singleton] at length
    rw [opened.hands, decide_eq_false (by omega), Bool.and_false]

/-- A stream comes to be as its opening. -/
theorem streamPart_opening (wired : Wired connection) {part : StreamPart}
    {action : Action} (absent : connection.streamPart number = none)
    (present : (connection.perform action).2.streamPart number = some part) :
    part = .opening part.stream.streamId part.stream.isRequester
      (Step.hands number ⟨connection, action⟩) := by
  have beyond := streamPart_eq_none.mp absent
  rcases streamPart_eq_some.mp present with ⟨atNumber, fed⟩
  have within := (List.getElem?_eq_some_iff.mp atNumber).1
  rcases inbound_perform wired action with ⟨same, _⟩ | ⟨streamId, isRequester, isHanded, opened⟩
  · omega
  · have length := congrArg List.length opened.inbound
    rw [List.length_append, List.length_singleton] at length
    have last : connection.inbound.length = number := by omega
    rw [opened.inbound, ← last, List.getElem?_concat_length, Option.some.injEq] at atNumber
    rw [← atNumber, opened.sink, ← last] at fed
    rw [opened.hands, decide_eq_true last, Bool.and_true]
    rcases part with ⟨stream, isFed⟩
    simp only at atNumber fed
    subst atNumber
    cases isHanded <;> simp [StreamPart.opening, fed]

end

/-- An inbound stream as it has come to be. -/
def streamOpening (number : Nat) (history : List Step) (stream : InboundStream) :
    StreamPart :=
  .opening stream.streamId stream.isRequester (handed number history)

/-- Nothing has happened to an inbound stream that is not there. -/
structure StreamAbsent (number : Nat) (history : List Step) (connection : Connection) :
    Prop where
  events : streamEvents number history = []
  seen : seen number history = []
  handed : handed number history = false
  feedback : ∀ streamId, SoleStream connection number streamId →
    (sent history).filter (Frame.isFeedback streamId) = []

/-- What a history says about an inbound stream is what its events make of it. -/
structure StreamLaw (start : Connection) (number : Nat) (history : List Step)
    (part : StreamPart) : Prop where
  state : part =
    (streamOpening number history part.stream).run start (streamEvents number history)
  seen : seen number history =
    (streamOpening number history part.stream).shown start (streamEvents number history)
  feedback : (sent history).filter (Frame.isFeedback part.stream.streamId) =
    (streamOpening number history part.stream).fedBack start (streamEvents number history)

theorem StreamLaw.sound {start : Connection} {number : Nat} {history : List Step}
    {part : StreamPart} (law : StreamLaw start number history part) :
    part.Sound := by
  rw [law.state]
  exact (StreamPart.sound_opening _ _ _).run _

theorem sent_concat (history : List Step) (step : Step) :
    sent (history ++ [step]) = sent history ++ step.before.sends step.action := by
  simp [sent]

theorem streamEvents_concat (number : Nat) (history : List Step) (step : Step) :
    streamEvents number (history ++ [step]) =
      streamEvents number history ++ (step.before.streamEvent number step.action).toList :=
  filterMap_concat _ _ _

theorem handed_concat (number : Nat) (history : List Step) (step : Step) :
    handed number (history ++ [step]) = (handed number history || step.hands number) := by
  simp [handed]

section

variable {start connection : Connection} {number : Nat} {history : List Step}

theorem streamAbsent_concat (wired : Wired connection) (action : Action)
    (earlier : connection.streamPart number = none →
      StreamAbsent number history connection)
    (absent : (connection.perform action).2.streamPart number = none) :
    StreamAbsent number (history ++ [⟨connection, action⟩])
      (connection.perform action).2 := by
  have grown := (extends_perform wired action).1
  have absentBefore : connection.streamPart number = none := by
    by_contra found
    rcases Option.ne_none_iff_exists'.mp found with ⟨part, present⟩
    rcases grown.inbound number _ (streamPart_eq_some.mp present).1 with ⟨later, atLater, _⟩
    simp [streamPart, atLater] at absent
  have before := earlier absentBefore
  have missing := List.getElem?_eq_none_iff.mpr (streamPart_eq_none.mp absentBefore)
  constructor
  · rw [streamEvents_concat, before.events, streamEvent_of_absent absentBefore]
    rfl
  · rw [seen_concat, before.seen, seen_of_absent absentBefore]
    rfl
  · rw [handed_concat, before.handed, hands_of_absent wired absent]
    rfl
  · intro streamId sole
    have soleBefore := sole.earlier grown
    rw [sent_concat, List.filter_append, before.feedback streamId soleBefore,
      feedback_sends_of_unused wired missing soleBefore]
    rfl

theorem streamLaw_opening {part : StreamPart} (wired : Wired connection) (action : Action)
    (absent : connection.streamPart number = none)
    (before : StreamAbsent number history connection)
    (present : (connection.perform action).2.streamPart number = some part)
    (sole : SoleStream (connection.perform action).2 number part.stream.streamId) :
    StreamLaw start number (history ++ [⟨connection, action⟩]) part := by
  have soleBefore := sole.earlier (extends_perform wired action).1
  have missing := List.getElem?_eq_none_iff.mpr (streamPart_eq_none.mp absent)
  have events : streamEvents number (history ++ [⟨connection, action⟩]) = [] := by
    rw [streamEvents_concat, before.events, streamEvent_of_absent absent]
    rfl
  constructor
  · rw [events, streamOpening, handed_concat, before.handed, Bool.false_or]
    exact streamPart_opening wired absent present
  · rw [events, seen_concat, before.seen, seen_of_absent absent]
    rfl
  · rw [events, sent_concat, List.filter_append, before.feedback _ soleBefore,
      feedback_sends_of_unused wired missing soleBefore]
    rfl

theorem streamLaw_step {part later : StreamPart} (wired : Wired connection)
    (grown : Extends start connection) (action : Action)
    (present : connection.streamPart number = some part)
    (before : StreamLaw start number history part)
    (sole : SoleStream (connection.perform action).2 number part.stream.streamId)
    (atLater : (connection.perform action).2.streamPart number = some later) :
    StreamLaw start number (history ++ [⟨connection, action⟩]) later := by
  have soleBefore := sole.earlier (extends_perform wired action).1
  have advanced := streamPart_perform wired present action sole
  rw [atLater, Option.some.injEq] at advanced
  have same := (extends_perform wired action).1.inboundId
    (streamPart_eq_some.mp present).1 (streamPart_eq_some.mp atLater).1
  have opening : streamOpening number (history ++ [⟨connection, action⟩]) later.stream =
      streamOpening number history part.stream := by
    rw [streamOpening, streamOpening, handed_concat, hands_of_present wired present,
      Bool.or_false, same.1, same.2]
  constructor
  · rw [opening, streamEvents_concat, StreamPart.run_append, ← before.state, advanced]
    cases connection.streamEvent number action with
    | none => rfl
    | some event => exact StreamPart.step_extends grown part event
  · rw [opening, streamEvents_concat, StreamPart.shown_append, ← before.state, ← before.seen,
      seen_concat, seen_eq_shows present]
    cases connection.streamEvent number action with
    | none => rfl
    | some event => exact (congrArg _ (List.append_nil _)).symm
  · rw [opening, streamEvents_concat, StreamPart.fedBack_append, ← before.state,
      ← before.feedback, sent_concat, List.filter_append, same.1,
      feedback_sends wired present soleBefore]
    cases connection.streamEvent number action with
    | none => rfl
    | some event =>
        refine congrArg _ ((StreamPart.posts_extends grown part event).trans ?_)
        exact (List.append_nil _).symm

end

/-- In every run the stream of a call is what its own events have made of it. -/
theorem streamLaw_after {start : Connection} (wired : Wired start)
    (blank : start.inbound = []) (actions : List Action) (number : Nat) :
    ((start.after actions).streamPart number = none →
        StreamAbsent number (start.history actions) (start.after actions)) ∧
      ∀ part, (start.after actions).streamPart number = some part →
        SoleStream (start.after actions) number part.stream.streamId →
          StreamLaw start number (start.history actions) part := by
  induction actions using List.reverseRecOn with
  | nil =>
      refine ⟨fun _ => ⟨rfl, rfl, rfl, fun _ _ => rfl⟩, ?_⟩
      intro part present
      simp [streamPart, blank] at present
  | append_singleton actions action induction =>
      have wiredNow := wired_after wired actions
      have grown := extends_after wired actions
      rw [after_concat, history_concat]
      refine ⟨streamAbsent_concat wiredNow action induction.1, ?_⟩
      intro later atLater sole
      cases before : (start.after actions).streamPart number with
      | none => exact streamLaw_opening wiredNow action before (induction.1 before) atLater sole
      | some part =>
          have same := (extends_perform wiredNow action).1.inboundId
            (streamPart_eq_some.mp before).1 (streamPart_eq_some.mp atLater).1
          rw [same.1] at sole
          exact streamLaw_step wiredNow grown action before
            (induction.2 part before (sole.earlier (extends_perform wiredNow action).1))
            sole atLater

end Connection

end ServiceMesh
