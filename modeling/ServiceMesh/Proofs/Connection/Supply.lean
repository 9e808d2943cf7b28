import ServiceMesh.Proofs.Connection.Producers
import ServiceMesh.Proofs.Connection.Requests

/-!
# What a producer sends

The content of a producer follows its source: one message after the other, and then at most one last
frame, for the end of the source, for its failure or for a message that cannot be encoded
(`ProducerPart.Supplies`).

Credits are counted: the messages that were sent and the credits that are left are the credits that
the producer has started with and those that it was granted (`ProducerPart.pledge_add_nexts`).

`producerLaw_after` carries both over to the runs of a connection.
-/

namespace ServiceMesh

/-- Whether a frame carries a message. -/
def Frame.isNext : Frame → Bool
  | .next _ _ => true
  | _ => false

/-- The credits that an event brings. -/
def ProducerEvent.credit : ProducerEvent → Nat
  | .granted count => count.toNat
  | _ => 0

/-- The credits that some events bring. -/
def credited (events : List ProducerEvent) : Nat := (events.map ProducerEvent.credit).sum

theorem credited_append (first second : List ProducerEvent) :
    credited (first ++ second) = credited first + credited second := by
  rw [credited, credited, credited, List.map_append, List.sum_append]

namespace ProducerPart

/-- The producer after some events. -/
def run (codec : MessageCodec) (part : ProducerPart) (events : List ProducerEvent) :
    ProducerPart :=
  events.foldl (step codec) part

/-- What the source gives during some events. -/
def given (codec : MessageCodec) (part : ProducerPart) (events : List ProducerEvent) :
    List (Signal (Outcome Message)) :=
  outputs (step codec) (fun part event => (part.gives event).toList) part events

/-- The content that the producer queues during some events. -/
def content (codec : MessageCodec) (part : ProducerPart) (events : List ProducerEvent) :
    List Frame :=
  outputs (step codec) (posts codec) part events

/-- A producer as it comes to be. -/
def opening (streamId : UInt64) (credits : Nat) (phase : ProducerPhase) : ProducerPart :=
  ⟨⟨streamId, credits, phase⟩, true⟩

/-- A producer is listed until it ends. -/
def Sound (part : ProducerPart) : Prop :=
  part.isListed = decide (part.producer.phase ≠ .ended)

variable {codec : MessageCodec}

theorem run_cons (part : ProducerPart) (event : ProducerEvent)
    (events : List ProducerEvent) :
    part.run codec (event :: events) = (part.step codec event).run codec events := rfl

theorem given_cons (part : ProducerPart) (event : ProducerEvent)
    (events : List ProducerEvent) :
    part.given codec (event :: events) =
      (part.gives event).toList ++ (part.step codec event).given codec events := rfl

theorem content_cons (part : ProducerPart) (event : ProducerEvent)
    (events : List ProducerEvent) :
    part.content codec (event :: events) =
      part.posts codec event ++ (part.step codec event).content codec events := rfl

theorem run_append (part : ProducerPart) (first second : List ProducerEvent) :
    part.run codec (first ++ second) = (part.run codec first).run codec second :=
  List.foldl_append

theorem given_append (part : ProducerPart) (first second : List ProducerEvent) :
    part.given codec (first ++ second) =
      part.given codec first ++ (part.run codec first).given codec second :=
  outputs_append part first second

theorem content_append (part : ProducerPart) (first second : List ProducerEvent) :
    part.content codec (first ++ second) =
      part.content codec first ++ (part.run codec first).content codec second :=
  outputs_append part first second

theorem sound_opening (streamId : UInt64) (credits : Nat) {phase : ProducerPhase}
    (starts : phase ≠ .ended) :
    (opening streamId credits phase).Sound := by
  rw [Sound, opening, decide_eq_true starts]

theorem sound_stop (part : ProducerPart) : part.stop.Sound := rfl

theorem Sound.step (codec : MessageCodec) {part : ProducerPart} (sound : part.Sound)
    (event : ProducerEvent) :
    (part.step codec event).Sound := by
  cases event with
  | granted count =>
      simp only [ProducerPart.step]
      split
      · exact sound
      · exact sound
  | stopped =>
      simp only [ProducerPart.step]
      split
      · exact sound_stop part
      · exact sound
  | credited =>
      simp only [ProducerPart.step]
      split
      · rename_i ready
        rw [Sound, ready.1] at sound
        rw [Sound]
        exact sound
      · exact sound
  | gave signal isTaken =>
      simp only [ProducerPart.step]
      split
      · rename_i pulling
        split
        · exact sound
        · split
          · exact sound_stop part
          · rw [Sound, pulling] at sound
            rw [Sound]
            exact sound
      · exact sound
  | answered result =>
      simp only [ProducerPart.step]
      split
      · exact sound_stop part
      · exact sound

theorem Sound.run (codec : MessageCodec) {part : ProducerPart} (sound : part.Sound)
    (events : List ProducerEvent) :
    (part.run codec events).Sound := by
  induction events generalizing part with
  | nil => exact sound
  | cons event events induction => exact induction (sound.step codec event)

theorem streamId_step (part : ProducerPart) (event : ProducerEvent) :
    (part.step codec event).producer.streamId = part.producer.streamId := by
  cases event <;> simp only [step]
  all_goals repeat' split
  all_goals rfl

theorem streamId_run (part : ProducerPart) (events : List ProducerEvent) :
    (part.run codec events).producer.streamId = part.producer.streamId := by
  induction events generalizing part with
  | nil => rfl
  | cons event events induction => rw [run_cons, induction, streamId_step]

/-! ## The shape of the content -/

/-- An ended producer does nothing more. -/
theorem step_of_ended (codec : MessageCodec) {part : ProducerPart} (sound : part.Sound)
    (ended : part.producer.phase = .ended) (event : ProducerEvent) :
    part.step codec event = part ∧ part.gives event = none ∧ part.posts codec event = [] := by
  have unlisted : part.isListed = false := by
    rw [sound, ended]
    rfl
  cases event <;> simp [step, gives, posts, ended, unlisted]

theorem run_of_ended (codec : MessageCodec) {part : ProducerPart} (sound : part.Sound)
    (ended : part.producer.phase = .ended) (events : List ProducerEvent) :
    part.run codec events = part ∧ part.given codec events = [] ∧
      part.content codec events = [] := by
  induction events with
  | nil => exact ⟨rfl, rfl, rfl⟩
  | cons event events induction =>
      rcases step_of_ended codec sound ended event with ⟨same, nothing, silent⟩
      rw [run_cons, given_cons, content_cons, same, nothing, silent]
      exact induction

/-- What a source has given and the content that was made of it: messages, and then at most one
signal that ends the call. -/
structure Supplies (codec : MessageCodec) (streamId : UInt64)
    (given : List (Signal (Outcome Message))) (content : List Frame)
    (messages : List Message) (envelopes : List Envelope)
    (last : Option (Signal (Outcome Message) × Frame)) : Prop where
  given_eq : given =
    messages.map (fun message => .item (.ok message)) ++ (last.map Prod.fst).toList
  content_eq : content = envelopes.map (Frame.next streamId) ++ (last.map Prod.snd).toList
  encodes : messages.map codec.encode = envelopes.map .ok
  ends : ∀ signal frame, last = some (signal, frame) →
    Connection.frameFor codec streamId signal = some (frame, true)

theorem Supplies.cons {streamId : UInt64} {given : List (Signal (Outcome Message))}
    {content : List Frame} {messages : List Message} {envelopes : List Envelope}
    {last : Option (Signal (Outcome Message) × Frame)}
    (supplies : Supplies codec streamId given content messages envelopes last)
    {message : Message} {envelope : Envelope}
    (encodes : codec.encode message = .ok envelope) :
    Supplies codec streamId (.item (.ok message) :: given)
      (.next streamId envelope :: content) (message :: messages) (envelope :: envelopes)
      last where
  given_eq := by rw [supplies.given_eq]; rfl
  content_eq := by rw [supplies.content_eq]; rfl
  encodes := by rw [List.map_cons, List.map_cons, encodes, supplies.encodes]
  ends := supplies.ends

theorem supplies_nil (codec : MessageCodec) (streamId : UInt64) :
    Supplies codec streamId [] [] [] [] none where
  given_eq := rfl
  content_eq := rfl
  encodes := rfl
  ends := by simp

/-- A signal that ends nothing is a message that can be encoded. -/
theorem frameFor_continues {streamId : UInt64} {signal : Signal (Outcome Message)}
    {frame : Frame} (made : Connection.frameFor codec streamId signal = some (frame, false)) :
    ∃ message envelope, signal = .item (.ok message) ∧
      codec.encode message = .ok envelope ∧ frame = .next streamId envelope := by
  cases Connection.frameFor_eq_some_iff.mp made with
  | message encodes => exact ⟨_, _, rfl, encodes, rfl⟩

theorem gives_pulling {part : ProducerPart} (pulling : part.producer.phase = .pulling)
    {streamId : UInt64} {signal : Signal (Outcome Message)} (isTaken : Bool) {frame : Frame}
    {isLast : Bool} (framed : Connection.Framed codec streamId signal frame isLast) :
    part.gives (.gave signal isTaken) = some signal := by
  cases framed <;> simp [gives, pulling]

theorem gives_waits {part : ProducerPart} {signal : Signal (Outcome Message)}
    (isTaken : Bool)
    (nothing : Connection.frameFor codec part.producer.streamId signal = none) :
    part.gives (.gave signal isTaken) = none := by
  rcases signal with (_ | message) | _ | _ | cause
  · simp [Connection.frameFor] at nothing
  · simp only [Connection.frameFor] at nothing
    split at nothing <;> simp at nothing
  · simp [gives]
  · simp [Connection.frameFor] at nothing
  · simp [Connection.frameFor] at nothing

/-- An event makes no content, or that of the signal that a source gives. -/
theorem step_cases (codec : MessageCodec) (part : ProducerPart) (pumps : part.producer.phase ≠ .answering)
    (event : ProducerEvent) :
    (part.gives event = none ∧ part.posts codec event = []) ∨
      part.producer.phase = .pulling ∧ ∃ signal isTaken frame isLast,
        event = .gave signal isTaken ∧ part.gives event = some signal ∧
          part.posts codec event = [frame] ∧
          Connection.frameFor codec part.producer.streamId signal = some (frame, isLast) ∧
          part.step codec event =
            if isLast || !isTaken then part.stop else part.await := by
  cases event with
  | gave signal isTaken =>
      by_cases pulling : part.producer.phase = .pulling
      · cases made : Connection.frameFor codec part.producer.streamId signal with
        | none =>
            refine .inl ⟨gives_waits isTaken made, ?_⟩
            simp [posts, pulling, made]
        | some sent =>
            rcases sent with ⟨frame, isLast⟩
            refine .inr ⟨pulling, signal, isTaken, frame, isLast, rfl,
              gives_pulling pulling isTaken (Connection.frameFor_eq_some_iff.mp made), ?_, made, ?_⟩
            · simp [posts, pulling, made]
            · simp [step, pulling, made]
      · exact .inl ⟨by simp [gives, pulling], by simp [posts, pulling]⟩
  | answered result => exact .inl ⟨rfl, by simp [posts, pumps]⟩
  | _ => exact .inl ⟨rfl, rfl⟩

theorem pumps_step {part : ProducerPart} (pumps : part.producer.phase ≠ .answering)
    (event : ProducerEvent) :
    (part.step codec event).producer.phase ≠ .answering := by
  cases event <;> simp only [step]
  all_goals repeat' split
  all_goals first
    | exact pumps
    | simp [stop, pull, await]

theorem pumps_run {part : ProducerPart} (pumps : part.producer.phase ≠ .answering)
    (events : List ProducerEvent) :
    (part.run codec events).producer.phase ≠ .answering := by
  induction events generalizing part with
  | nil => exact pumps
  | cons event events induction => exact induction (pumps_step pumps event)

/-- The content of a stream follows its source, and there is no last signal as long as the producer
has not ended. -/
theorem supplies_run {part : ProducerPart} (sound : part.Sound)
    (pumps : part.producer.phase ≠ .answering) (events : List ProducerEvent) :
    ∃ messages envelopes last,
      Supplies codec part.producer.streamId (part.given codec events)
        (part.content codec events) messages envelopes last ∧
      ((part.run codec events).isListed = true → last = none) := by
  induction events generalizing part with
  | nil => exact ⟨[], [], none, supplies_nil _ _, fun _ => rfl⟩
  | cons event events induction =>
      rcases induction (sound.step codec event) (pumps_step pumps event) with
        ⟨messages, envelopes, last, rest, runs⟩
      rw [streamId_step] at rest
      rw [given_cons, content_cons, run_cons]
      rcases step_cases codec part pumps event with
        ⟨nothing, silent⟩ | ⟨_, signal, isTaken, frame, isLast, rfl, gives, posts, made, next⟩
      · rw [nothing, silent]
        exact ⟨messages, envelopes, last, rest, runs⟩
      · rw [gives, posts]
        cases isLast with
        | false =>
            rcases frameFor_continues made with ⟨message, envelope, rfl, encodes, rfl⟩
            exact ⟨message :: messages, envelope :: envelopes, last, rest.cons encodes, runs⟩
        | true =>
            rw [next, Bool.true_or, if_pos rfl]
            rcases run_of_ended codec (sound_stop part) rfl events with ⟨stays, quiet, silent⟩
            rw [quiet, silent, stays]
            refine ⟨[], [], some (signal, frame), ⟨rfl, rfl, rfl, ?_⟩, by simp [stop]⟩
            rintro _ _ ⟨⟩
            exact made

/-- Who waits for a single response never pumps. -/
theorem answers_run (codec : MessageCodec) (part : ProducerPart)
    (answers : part.producer.phase = .answering ∨ part.producer.phase = .ended)
    (events : List ProducerEvent) :
    (part.run codec events).producer.phase = .answering ∨
      (part.run codec events).producer.phase = .ended := by
  induction events generalizing part with
  | nil => exact answers
  | cons event events induction =>
      rw [run_cons]
      apply induction
      rcases answers with answers | answers <;> cases event <;>
        simp only [step, answers] <;> split <;> simp_all [stop, grant]

/-! ## The credits -/

/-- The messages that a producer may still send: its credits, the one it has taken, and the response
of a single request, which costs none. -/
def pledge (part : ProducerPart) : Nat :=
  part.producer.credits +
    if part.producer.phase = .pulling ∨ part.producer.phase = .answering then 1 else 0

theorem isNext_last {streamId : UInt64} {signal : Signal (Outcome Message)} {frame : Frame}
    (made : Connection.frameFor codec streamId signal = some (frame, true)) :
    frame.isNext = false := by
  rcases signal with (_ | message) | _ | _ | cause
  · simp only [Connection.frameFor, Option.some.injEq, Prod.mk.injEq, and_true] at made
    rw [← made]
    rfl
  · simp only [Connection.frameFor] at made
    split at made
    · simp at made
    · simp only [Option.some.injEq, Prod.mk.injEq, and_true] at made
      rw [← made]
      rfl
  · simp [Connection.frameFor] at made
  · simp only [Connection.frameFor, Option.some.injEq, Prod.mk.injEq, and_true] at made
    rw [← made]
    rfl
  · simp only [Connection.frameFor, Option.some.injEq, Prod.mk.injEq, and_true] at made
    rw [← made]
    rfl

theorem countP_isNext_le (frame : Frame) : [frame].countP Frame.isNext ≤ 1 :=
  List.countP_le_length

/-- What is pledged was pledged before or has been granted, and each message uses up one credit; as
long as the producer has not ended, nothing is lost. -/
theorem pledge_step (codec : MessageCodec) (part : ProducerPart) (event : ProducerEvent) :
    (part.step codec event).pledge + (part.posts codec event).countP Frame.isNext ≤
        part.pledge + event.credit ∧
      ((part.step codec event).isListed = true → part.isListed = true ∧
        (part.step codec event).pledge + (part.posts codec event).countP Frame.isNext =
          part.pledge + event.credit) := by
  rcases part with ⟨⟨streamId, credits, phase⟩, isListed⟩
  cases event with
  | granted count =>
      cases isListed with
      | false => simp [step, posts, pledge, ProducerEvent.credit]
      | true =>
          simp [step, posts, pledge, grant, ProducerEvent.credit]
          omega
  | stopped =>
      cases isListed with
      | false => simp [step, posts, pledge, ProducerEvent.credit]
      | true => simp [step, posts, pledge, stop, ProducerEvent.credit]
  | credited =>
      by_cases ready : phase = .waiting ∧ 0 < credits
      · rcases ready with ⟨rfl, some_⟩
        have spent : credits - 1 + 1 = credits := Nat.sub_add_cancel some_
        simp [step, some_, posts, pledge, pull, ProducerEvent.credit, spent]
      · simp [step, ready, posts, pledge, ProducerEvent.credit]
  | answered result =>
      by_cases answering : phase = .answering
      · subst answering
        have one := countP_isNext_le (Connection.responseFrame codec streamId result)
        simp only [step, posts, pledge, stop, ProducerEvent.credit, if_true, or_true]
        exact ⟨by simpa using one, by simp⟩
      · simp [step, answering, posts, pledge, ProducerEvent.credit]
  | gave signal isTaken =>
      by_cases pulling : phase = .pulling
      · subst pulling
        simp only [step, posts, if_true]
        cases made : Connection.frameFor codec streamId signal with
        | none => simp [pledge, ProducerEvent.credit]
        | some sent =>
            rcases sent with ⟨frame, isLast⟩
            cases isLast with
            | true =>
                simp [pledge, stop, ProducerEvent.credit, isNext_last made]
            | false =>
                rcases frameFor_continues made with ⟨message, envelope, rfl, encodes, rfl⟩
                cases isTaken <;>
                  simp [pledge, stop, await, ProducerEvent.credit, Frame.isNext]
      · simp [step, pulling, posts, pledge, ProducerEvent.credit]

/-- What is pledged and what was sent is what was pledged at first and what was granted. -/
theorem pledge_add_nexts (codec : MessageCodec) (part : ProducerPart) (events : List ProducerEvent) :
    (part.run codec events).pledge + (part.content codec events).countP Frame.isNext ≤
        part.pledge + credited events ∧
      ((part.run codec events).isListed = true → part.isListed = true ∧
        (part.run codec events).pledge + (part.content codec events).countP Frame.isNext =
          part.pledge + credited events) := by
  induction events generalizing part with
  | nil => exact ⟨Nat.le_refl _, fun listed => ⟨listed, rfl⟩⟩
  | cons event events induction =>
      have now := pledge_step codec part event
      have later := induction (part.step codec event)
      have total : credited (event :: events) = event.credit + credited events := rfl
      rw [run_cons, content_cons, List.countP_append, total]
      constructor
      · have first := now.1
        have rest := later.1
        omega
      · intro listed
        rcases later.2 listed with ⟨listedNow, rest⟩
        rcases now.2 listedNow with ⟨listedBefore, first⟩
        exact ⟨listedBefore, by omega⟩

end ProducerPart

/-! ## The runs of a connection -/

namespace Connection

/-- What has happened to a producer. -/
def producerEvents (number : Nat) (history : List Step) : List ProducerEvent :=
  history.filterMap (fun step => step.before.producerEvent number step.action)

theorem producerEvents_concat (number : Nat) (history : List Step) (step : Step) :
    producerEvents number (history ++ [step]) =
      producerEvents number history ++
        (step.before.producerEvent number step.action).toList :=
  filterMap_concat _ _ _

/-- How a producer has started in a history. -/
inductive Started (start : Connection) (history : List Step) (streamId : UInt64) :
    ProducerPart → Prop where
  /-- It sends the further requests of a channel. -/
  | calling {envelope : Envelope}
      (sends : .request .requestChannel streamId envelope ∈ sent history) :
      Started start history streamId (.opening streamId start.window .waiting)
  /-- It sends a stream of responses. -/
  | streaming {mode : Mode} {envelope : Envelope}
      (streams : mode = .requestStream ∨ mode = .requestChannel)
      (takes : .request mode streamId envelope ∈ taken history) :
      Started start history streamId (.opening streamId start.window .waiting)
  /-- It sends a single response. -/
  | answering {envelope : Envelope}
      (takes : .request .requestResponse streamId envelope ∈ taken history) :
      Started start history streamId (.opening streamId 0 .answering)

theorem Started.later {start : Connection} {history : List Step} {streamId : UInt64}
    {opening : ProducerPart} (started : Started start history streamId opening) (step : Step) :
    Started start (history ++ [step]) streamId opening := by
  cases started with
  | calling sends =>
      have still := List.mem_append_left (step.before.sends step.action) sends
      rw [← sent_concat] at still
      exact .calling still
  | streaming streams takes =>
      have still := List.mem_append_left step.taken.toList takes
      rw [← taken_concat] at still
      exact .streaming streams still
  | answering takes =>
      have still := List.mem_append_left step.taken.toList takes
      rw [← taken_concat] at still
      exact .answering still

theorem Started.of_starts {start connection : Connection} (history : List Step)
    {action : Action} {streamId : UInt64} {producer : Producer}
    (starts : Starts connection action streamId producer)
    (window : connection.window = start.window) :
    Started start (history ++ [⟨connection, action⟩]) streamId ⟨producer, true⟩ := by
  have takesNow {frame : Frame} (takes : Step.taken ⟨connection, action⟩ = some frame) :
      frame ∈ taken (history ++ [⟨connection, action⟩]) := by
    rw [taken_concat, takes]
    exact List.mem_append_right _ (List.mem_singleton.mpr rfl)
  cases starts with
  | calling sends =>
      have now := List.mem_append_right (sent history) sends
      rw [window]
      exact .calling (sent_concat history ⟨connection, action⟩ ▸ now)
  | streaming streams takes =>
      rw [window]
      exact .streaming streams (takesNow takes)
  | answering takes => exact .answering (takesNow takes)

theorem Started.sound {start : Connection} {history : List Step} {streamId : UInt64}
    {opening : ProducerPart} (started : Started start history streamId opening) :
    opening.Sound := by
  cases started <;> exact ProducerPart.sound_opening _ _ (by decide)

/-- What a history says about a producer is what its events make of it. -/
structure ProducerLaw (start : Connection) (number : Nat) (history : List Step)
    (part opening : ProducerPart) : Prop where
  starts : Started start history part.producer.streamId opening
  state : part = opening.run start.codec (producerEvents number history)
  given : given number history = opening.given start.codec (producerEvents number history)
  content : (sent history).filter (Frame.isContent part.producer.streamId) =
    opening.content start.codec (producerEvents number history)

/-- A producer of a run is listed until it ends. -/
theorem ProducerLaw.sound {start : Connection} {number : Nat} {history : List Step}
    {part opening : ProducerPart} (law : ProducerLaw start number history part opening) :
    part.Sound := by
  rw [law.state]
  exact law.starts.sound.run start.codec _

/-- Who sends a stream of messages has started with a window of credits. -/
theorem ProducerLaw.opening_eq {start : Connection} {number : Nat} {history : List Step}
    {part opening : ProducerPart} (law : ProducerLaw start number history part opening)
    (pumps : part.producer.phase = .waiting ∨ part.producer.phase = .pulling) :
    opening = .opening part.producer.streamId start.window .waiting := by
  cases law.starts with
  | calling sends => rfl
  | streaming streams takes => rfl
  | answering takes =>
      have answers := ProducerPart.answers_run start.codec
        (.opening part.producer.streamId 0 .answering) (.inl rfl)
        (producerEvents number history)
      rw [← law.state] at answers
      rcases answers with answers | ended <;> simp_all

section

variable {start connection : Connection} {number : Nat} {history : List Step}

theorem producerEvent_of_absent (absent : connection.producerPart number = none)
    (action : Action) :
    connection.producerEvent number action = none := by
  have missing := List.getElem?_eq_none_iff.mpr (producerPart_eq_none.mp absent)
  simp [producerEvent, missing]

theorem given_of_absent (absent : connection.producerPart number = none)
    (action : Action) :
    Step.given number ⟨connection, action⟩ = none := by
  have missing := List.getElem?_eq_none_iff.mpr (producerPart_eq_none.mp absent)
  cases action with
  | produce producing signal =>
      by_cases same : producing = number
      · subst same
        simp [Step.given, missing]
      · simp [Step.given, same]
  | _ => rfl

theorem absent_earlier (wired : Wired connection) {action : Action}
    (absent : (connection.perform action).2.producerPart number = none) :
    connection.producerPart number = none := by
  rw [producerPart_eq_none] at absent ⊢
  rcases producers_perform wired action with same | ⟨_, _, opened⟩
  · omega
  · rw [opened.producers, List.length_append] at absent
    omega

/-- What is not there has neither been told nor given anything. -/
theorem absent_after (wired : Wired start) (actions : List Action)
    (absent : (start.after actions).producerPart number = none) :
    producerEvents number (start.history actions) = [] ∧
      given number (start.history actions) = [] := by
  induction actions using List.reverseRecOn with
  | nil => exact ⟨rfl, rfl⟩
  | append_singleton actions action induction =>
      rw [after_concat] at absent
      have before := absent_earlier (wired_after wired actions) absent
      rcases induction before with ⟨events, nothing⟩
      rw [history_concat, producerEvents_concat, given_concat, events, nothing,
        producerEvent_of_absent before, given_of_absent before]
      exact ⟨rfl, rfl⟩

/-- What opens a call, or accepts one, sends no content. -/
theorem Origin.content {action : Action} {streamId : UInt64}
    (origin : Origin connection action streamId) (other : UInt64) :
    (connection.sends action).filter (Frame.isContent other) = [] := by
  cases origin with
  | called opens advances => exact content_sends_of_opensCall opens other
  | accepted serves reading request accepts =>
      subst request
      simp only [perform, receive_request_server reading serves, Prod.map_fst] at accepts
      simp only [sends, reading, if_true, answersTo, serves, refusal]
      cases decodes : connection.codec.decode _ with
      | error error => simp [receiveRequest, decodes] at accepts
      | ok message =>
          by_cases named : message.qualifier = ""
          · simp [receiveRequest, decodes, named] at accepts
          · simp [named]

/-- A producer comes to be as it starts, with no content sent. -/
theorem producerPart_opening (wired : Wired connection) {part : ProducerPart}
    {action : Action} (absent : connection.producerPart number = none)
    (present : (connection.perform action).2.producerPart number = some part) :
    Origin connection action part.producer.streamId ∧ part.isListed = true ∧
      Starts connection action part.producer.streamId part.producer := by
  have beyond := producerPart_eq_none.mp absent
  rcases producerPart_eq_some.mp present with ⟨atNumber, listed⟩
  have within := (List.getElem?_eq_some_iff.mp atNumber).1
  rcases producers_perform wired action with same | ⟨streamId, producer, opened⟩
  · omega
  · have length := congrArg List.length opened.producers
    rw [List.length_append, List.length_singleton] at length
    have last : connection.producers.length = number := by omega
    rw [opened.producers, ← last, List.getElem?_concat_length, Option.some.injEq] at atNumber
    rw [← atNumber, opened.carries] at listed ⊢
    rw [opened.listed, last, decide_eq_true rfl] at listed
    exact ⟨opened.origin, listed, opened.starts⟩

/-- A producer that has come to be was told nothing yet, and it is as it has started. -/
theorem producerLaw_opening (wired : Wired connection) (grown : Extends start connection)
    {history : List Step} {part : ProducerPart} (action : Action)
    (absent : connection.producerPart number = none)
    (nothing : producerEvents number history = [] ∧ given number history = [])
    (silent : (sent history).filter (Frame.isContent part.producer.streamId) = [])
    (present : (connection.perform action).2.producerPart number = some part) :
    ProducerLaw start number (history ++ [⟨connection, action⟩]) part part := by
  rcases producerPart_opening wired absent present with ⟨origin, listed, starts⟩
  have events : producerEvents number (history ++ [⟨connection, action⟩]) = [] := by
    rw [producerEvents_concat, nothing.1, producerEvent_of_absent absent]
    rfl
  constructor
  · have started := Started.of_starts history starts grown.window
    rw [← listed] at started
    exact started
  · rw [events]
    rfl
  · rw [events, given_concat, nothing.2, given_of_absent absent]
    rfl
  · rw [events, sent_concat, List.filter_append, silent, origin.content]
    rfl

/-- What a producer is after an action is what the event of the action makes of it. -/
theorem producerLaw_step (wired : Wired connection) (grown : Extends start connection)
    {history : List Step} {part later opening : ProducerPart} (action : Action)
    (present : connection.producerPart number = some part)
    (law : ProducerLaw start number history part opening)
    (sole : SoleProducer (connection.perform action).2 number part.producer.streamId)
    (unclaimed : Step.claimed ⟨connection, action⟩ ≠ some part.producer.streamId)
    (atLater : (connection.perform action).2.producerPart number = some later) :
    ProducerLaw start number (history ++ [⟨connection, action⟩]) later opening := by
  have same := (extends_perform wired action).1.producerId
    (producerPart_eq_some.mp present).1 (producerPart_eq_some.mp atLater).1
  have advanced := producerPart_perform wired present action sole
  rw [atLater, Option.some.injEq, grown.codec] at advanced
  have content := content_sends present (sole.earlier (extends_perform wired action).1) unclaimed
  rw [grown.codec] at content
  constructor
  · rw [same]
    exact law.starts.later _
  · rw [producerEvents_concat, ProducerPart.run_append, ← law.state, advanced]
    cases connection.producerEvent number action <;> rfl
  · rw [given_concat, producerEvents_concat, ProducerPart.given_append, ← law.state,
      ← law.given, given_eq_gives present]
    cases connection.producerEvent number action with
    | none => rfl
    | some event => exact (congrArg _ (List.append_nil _)).symm
  · rw [same, sent_concat, List.filter_append, producerEvents_concat,
      ProducerPart.content_append, ← law.state, ← law.content, content]
    cases connection.producerEvent number action with
    | none => rfl
    | some event => exact (congrArg _ (List.append_nil _)).symm

end

section

variable (role : Role) (peer : String) (codec : MessageCodec) (config : Config)

/-- There is no content for a stream id that was not claimed. -/
theorem content_of_unclaimed (actions : List Action) {streamId : UInt64}
    (unclaimed : streamId ∉ claimed ((spawn role peer codec config).history actions)) :
    (sent ((spawn role peer codec config).history actions)).filter
      (Frame.isContent streamId) = [] := by
  rw [List.filter_eq_nil_iff]
  intro frame member content
  have claims := sent_claimed role peer codec config actions frame member
  rw [Frame.streamId_of_isContent content] at claims
  exact unclaimed claims

/-- In every run that claims no id twice, a producer is what its own events have made of it. -/
theorem producerLaw_after (actions : List Action)
    (once : (claimed ((spawn role peer codec config).history actions)).Nodup)
    (number : Nat) {part : ProducerPart}
    (present : ((spawn role peer codec config).after actions).producerPart number =
      some part) :
    ∃ opening, ProducerLaw (spawn role peer codec config) number
      ((spawn role peer codec config).history actions) part opening := by
  induction actions using List.reverseRecOn generalizing part with
  | nil => simp [producerPart, spawn] at present
  | append_singleton actions action induction =>
      have wired := wired_after (wired_spawn role peer codec config) actions
      have grown := extends_after (wired_spawn role peer codec config) actions
      have claimsNow := claims_after role peer codec config (actions ++ [action])
      rw [after_concat] at present claimsNow
      rw [history_concat] at once claimsNow ⊢
      have sole := claimsNow.soleProducer once (producerPart_eq_some.mp present).1
      rcases nodup_claimed_concat.mp once with ⟨onceBefore, fresh⟩
      cases before : ((spawn role peer codec config).after actions).producerPart number with
      | none =>
          have unclaimed := fresh _ (producerPart_opening wired before present).1.claimed
          exact ⟨part, producerLaw_opening wired grown action before
            (absent_after (wired_spawn role peer codec config) actions before)
            (content_of_unclaimed role peer codec config actions unclaimed) present⟩
      | some earlier =>
          rcases induction onceBefore before with ⟨opening, law⟩
          have atEarlier := (producerPart_eq_some.mp before).1
          have claims := (claims_after role peer codec config actions).producers _
            (mem_producerIds atEarlier)
          rw [(extends_perform wired action).1.producerId atEarlier
            (producerPart_eq_some.mp present).1] at sole
          exact ⟨opening, producerLaw_step wired grown action before law sole
            (fun claim => fresh _ claim claims) present⟩

end

end Connection

end ServiceMesh
