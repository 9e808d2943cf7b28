import Mathlib.Data.List.Infix
import ServiceMesh.Proofs.Connection.Cancelling
import ServiceMesh.Proofs.Connection.Serving

/-!
# How producers come to their end

A producer that nobody stops ends by itself only.  Who waits for a single response has sent it then
(`content_of_answering`), and the source of a stream has given its last signal
(`exists_last_of_ended`).

What stops a producer is a cancellation by the peer, a consumer that gives up the responses of the
same call, or a close (`stopped_cases`).
-/

namespace ServiceMesh

namespace ProducerPart

variable {codec : MessageCodec} {part : ProducerPart}

/-- Who waits for a single response sends that of the handler, or still waits, or was stopped. -/
theorem content_of_answering (codec : MessageCodec) (sound : part.Sound)
    (waits : part.producer.phase = .answering) (events : List ProducerEvent) :
    (part.content codec events = [] ∧
        ((part.run codec events).producer.phase = .answering ∨ .stopped ∈ events)) ∨
      ∃ result, .answered result ∈ events ∧ part.content codec events =
        [Connection.responseFrame codec part.producer.streamId result] := by
  induction events generalizing part with
  | nil => exact .inl ⟨rfl, .inl waits⟩
  | cons event events induction =>
      rw [content_cons, run_cons]
      rcases Connection.answering_step codec waits event with ⟨silent, still⟩ | ⟨ended, posts⟩
      · rw [silent, List.nil_append]
        have later := induction (sound.step codec event) still
        rw [streamId_step] at later
        rcases later with ⟨nothing, waiting | stopped⟩ | ⟨result, among, sends⟩
        · exact .inl ⟨nothing, .inl waiting⟩
        · exact .inl ⟨nothing, .inr (List.mem_cons_of_mem _ stopped)⟩
        · exact .inr ⟨result, List.mem_cons_of_mem _ among, sends⟩
      · rw [(run_of_ended codec (sound.step codec event) ended events).2.2, List.append_nil]
        cases event with
        | stopped => exact .inl ⟨rfl, .inr List.mem_cons_self⟩
        | answered result =>
            exact .inr ⟨result, List.mem_cons_self, by simp [ProducerPart.posts, waits]⟩
        | granted count =>
            simp only [ProducerPart.step] at ended
            split at ended <;> simp [grant, waits] at ended
        | credited | gave _ _ => simp [ProducerPart.step, waits] at ended

/-- A signal after which a source is not asked again. -/
def Final (codec : MessageCodec) (streamId : UInt64) (signal : Signal (Outcome Message)) : Prop :=
  ∃ frame, Connection.frameFor codec streamId signal = some (frame, true)

theorem ended_step (runs : part.producer.phase ≠ .ended) (pumps : part.producer.phase ≠ .answering)
    {event : ProducerEvent} (goesOn : event ≠ .stopped)
    (taken : ∀ signal, event ≠ .gave signal false)
    (ended : (part.step codec event).producer.phase = .ended) :
    ∃ signal, part.gives event = some signal ∧ Final codec part.producer.streamId signal := by
  rcases step_cases codec part pumps event with
    ⟨nothing, silent⟩ | ⟨_, signal, isTaken, frame, isLast, rfl, gives, _, made, next⟩
  · cases event with
    | stopped => exact (goesOn rfl).elim
    | gave signal isTaken =>
        by_cases pulling : part.producer.phase = .pulling
        · cases made : Connection.frameFor codec part.producer.streamId signal with
          | none => simp [step, pulling, made] at ended
          | some sent => simp [posts, pulling, made] at silent
        · simp [step, pulling, runs] at ended
    | granted count =>
        simp only [step] at ended
        split at ended <;> simp [grant, runs] at ended
    | credited =>
        simp only [step] at ended
        split at ended <;> simp [pull, runs] at ended
    | answered result => simp [step, pumps, runs] at ended
  · rw [next] at ended
    cases isTaken with
    | false => exact (taken signal rfl).elim
    | true =>
        cases isLast with
        | true => exact ⟨signal, gives, frame, made⟩
        | false => simp [await] at ended

/-- A source that was pulled to the end of its producer has given its last signal. -/
theorem exists_last_of_ended (sound : part.Sound) (runs : part.producer.phase ≠ .ended)
    (pumps : part.producer.phase ≠ .answering) {events : List ProducerEvent}
    (goesOn : .stopped ∉ events) (taken : ∀ signal, .gave signal false ∉ events)
    (ended : (part.run codec events).producer.phase = .ended) :
    ∃ signal ∈ part.given codec events, Final codec part.producer.streamId signal := by
  induction events generalizing part with
  | nil => exact (runs ended).elim
  | cons event events induction =>
      rw [run_cons] at ended
      rw [given_cons]
      by_cases now : (part.step codec event).producer.phase = .ended
      · rcases ended_step runs pumps (fun same => goesOn (same ▸ List.mem_cons_self))
          (fun signal same => taken signal (same ▸ List.mem_cons_self)) now with
          ⟨signal, gives, final⟩
        exact ⟨signal, List.mem_append_left _ (by simp [gives]), final⟩
      · rcases induction (sound.step codec event) now (pumps_step pumps event)
          (fun later => goesOn (List.mem_cons_of_mem _ later))
          (fun signal later => taken signal (List.mem_cons_of_mem _ later)) ended with
          ⟨signal, member, final⟩
        rw [streamId_step] at final
        exact ⟨signal, List.mem_append_right _ member, final⟩

/-- The last signal of a source is the one that is final. -/
theorem Supplies.last_of_final {streamId : UInt64} {given : List (Signal (Outcome Message))}
    {content : List Frame} {messages : List Message} {envelopes : List Envelope}
    {last : Option (Signal (Outcome Message) × Frame)}
    (supplies : Supplies codec streamId given content messages envelopes last)
    {signal : Signal (Outcome Message)} (member : signal ∈ given)
    (final : Final codec streamId signal) :
    ∃ frame, last = some (signal, frame) := by
  rw [supplies.given_eq] at member
  rcases List.mem_append.mp member with early | closing
  · rcases List.mem_map.mp early with ⟨message, among, rfl⟩
    have encoded : codec.encode message ∈ envelopes.map .ok :=
      supplies.encodes ▸ List.mem_map_of_mem among
    rcases List.mem_map.mp encoded with ⟨envelope, -, encodes⟩
    rcases final with ⟨frame, made⟩
    simp [Connection.frameFor, ← encodes] at made
  · cases last with
    | none => cases closing
    | some made =>
        rw [Option.map_some, Option.toList_some, List.mem_singleton] at closing
        exact ⟨made.2, by rw [closing]⟩

/-- Only the last signal of a source can be something else than a message. -/
theorem Supplies.item_of_mem_dropLast {streamId : UInt64}
    {given : List (Signal (Outcome Message))} {content : List Frame} {messages : List Message}
    {envelopes : List Envelope} {last : Option (Signal (Outcome Message) × Frame)}
    (supplies : Supplies codec streamId given content messages envelopes last)
    {signal : Signal (Outcome Message)} (member : signal ∈ given.dropLast) :
    ∃ message ∈ messages, signal = .item (.ok message) := by
  rw [supplies.given_eq] at member
  have among : signal ∈ messages.map fun message => .item (.ok message) := by
    cases last with
    | none =>
        rw [Option.map_none, Option.toList_none, List.append_nil] at member
        exact List.mem_of_mem_dropLast member
    | some made => rwa [Option.map_some, Option.toList_some, List.dropLast_concat] at member
  rcases List.mem_map.mp among with ⟨message, within, rfl⟩
  exact ⟨message, within, rfl⟩

end ProducerPart

namespace Connection

/-- What an action tells a producer. -/
inductive Tells (connection : Connection) (number : Nat) (producer : Producer) :
    Action → ProducerEvent → Prop where
  /-- The producer looks for a credit. -/
  | credited : Tells connection number producer (.takeCredit number) .credited
  /-- Its source gives a signal. -/
  | gave (signal : Signal (Outcome Message)) :
      Tells connection number producer (.produce number signal) (.gave signal connection.writes)
  /-- Its handler comes to an end. -/
  | answered (result : Outcome Message) :
      Tells connection number producer (.respond number result) (.answered result)
  /-- The consumer of the responses gives up. -/
  | left {dropped : Nat} (abandons : connection.abandons producer.streamId dropped = true) :
      Tells connection number producer (.dropInbound dropped) .stopped
  /-- The peer cancels the call. -/
  | cancelled (reading : connection.reads = true) :
      Tells connection number producer (.receive (.cancel producer.streamId)) .stopped
  /-- The peer grants credits. -/
  | granted (reading : connection.reads = true) (count : UInt32) :
      Tells connection number producer (.receive (.requestN producer.streamId count))
        (.granted count)
  /-- The connection is closed. -/
  | closed {action : Action} (closes : action.closes = true) :
      Tells connection number producer action .stopped

theorem tells_of_event {connection : Connection} {number : Nat} {action : Action}
    {event : ProducerEvent} (told : connection.producerEvent number action = some event) :
    ∃ producer, connection.producers[number]? = some producer ∧
      Tells connection number producer action event := by
  rw [producerEvent] at told
  cases present : connection.producers[number]? with
  | none => simp [present] at told
  | some producer =>
      refine ⟨producer, rfl, ?_⟩
      simp only [present] at told
      cases action with
      | receive frame =>
          simp only [] at told
          split at told
          · rename_i about
            cases frame with
            | cancel streamId =>
                rw [Option.some.injEq] at told
                have same : streamId = producer.streamId := about.2
                exact told ▸ same ▸ .cancelled about.1
            | requestN streamId count =>
                rw [Option.some.injEq] at told
                have same : streamId = producer.streamId := about.2
                exact told ▸ same ▸ .granted about.1 count
            | _ => cases told
          · cases told
      | takeCredit taking | produce taking signal | respond taking result =>
          simp only [Option.ite_none_right_eq_some, Option.some.injEq] at told
          rcases told with ⟨rfl, rfl⟩
          constructor
      | dropInbound dropped =>
          simp only [Option.ite_none_right_eq_some, Option.some.injEq] at told
          exact told.2 ▸ .left told.1
      | close | endReader | endWriter =>
          simp only [Option.ite_none_left_eq_some, Option.some.injEq] at told
          exact told.2 ▸ .closed rfl
      | _ => cases told

section

variable {start : Connection} {actions : List Action} {number : Nat}

theorem respond_of_answered {result : Outcome Message}
    (member : .answered result ∈ producerEvents number (start.history actions)) :
    ∃ step ∈ start.history actions, step.action = .respond number result := by
  rcases List.mem_filterMap.mp member with ⟨⟨before, action⟩, among, told⟩
  rcases tells_of_event told with ⟨producer, -, tells⟩
  cases tells
  exact ⟨_, among, rfl⟩

/-- As long as a connection is open, the writer takes what a source gives. -/
theorem taken_of_open (wired : Wired start) (running : (start.after actions).isClosed = false)
    (signal : Signal (Outcome Message)) :
    .gave signal false ∉ producerEvents number (start.history actions) := by
  intro member
  rcases List.mem_filterMap.mp member with ⟨⟨before, action⟩, among, told⟩
  rcases wired_of_mem_history wired among with ⟨wiredThere, -, toEnd⟩
  have writing := wiredThere.writing
    ((extends_perform wiredThere action).1.running (toEnd.running running).1).1
  rcases tells_of_event told with ⟨producer, -, tells⟩
  generalize taken : false = isTaken at tells
  cases tells
  exact Bool.false_ne_true (taken.trans writing)

/-- What stops a producer. -/
theorem stopped_cases (wired : Wired start) {producer : Producer}
    (present : (start.after actions).producers[number]? = some producer)
    (stopped : .stopped ∈ producerEvents number (start.history actions)) :
    .cancel producer.streamId ∈ taken (start.history actions) ∨
      (∃ dropped stream, Action.dropInbound dropped ∈ actions ∧
        (start.after actions).inbound[dropped]? = some stream ∧
          stream.streamId = producer.streamId ∧ stream.isRequester = true) ∨
      (start.after actions).isClosed = true := by
  rcases List.mem_filterMap.mp stopped with ⟨⟨before, action⟩, among, told⟩
  rcases wired_of_mem_history wired among with ⟨wiredThere, -, toEnd⟩
  have grown := (extends_perform wiredThere action).1.trans toEnd
  rcases tells_of_event told with ⟨earlier, atStep, tells⟩
  rw [grown.producerId atStep present]
  cases tells with
  | cancelled reading =>
      exact .inl (List.mem_filterMap.mpr ⟨_, among, if_pos reading⟩)
  | @left dropped abandoned =>
      rw [abandons, Option.any_eq_true] at abandoned
      rcases abandoned with ⟨stream, atStream, own⟩
      simp only [Bool.and_eq_true, decide_eq_true_eq] at own
      rcases grown.inbound dropped stream atStream with ⟨later, atLater, same, side⟩
      rcases exists_of_mem_history among with ⟨first, second, split, -⟩
      refine .inr (.inl ⟨dropped, later, ?_, atLater, same.trans own.1.1, side.trans own.1.2⟩)
      rw [split]
      exact List.mem_append_right _ List.mem_cons_self
  | closed closes =>
      refine .inr (.inr ?_)
      by_contra running
      rw [Bool.not_eq_true] at running
      have still := (toEnd.running running).1
      rw [Step.after, isClosed_of_closes closes] at still
      cases still

end

section

variable (role : Role) (peer : String) (codec : MessageCodec) (config : Config)

/-- Whoever opens no call has no stream of responses. -/
theorem isRequester_of_answers {actions : List Action}
    (serves : ∀ action ∈ actions, action.opensCall = false) :
    ∀ stream ∈ ((spawn role peer codec config).after actions).inbound,
      stream.isRequester = false := by
  induction actions using List.reverseRecOn with
  | nil => simp [spawn]
  | append_singleton actions action induction =>
      have wired := wired_after (wired_spawn role peer codec config) actions
      have before := induction fun action member => serves action (List.mem_append_left _ member)
      have answers := serves action (List.mem_append_right _ (List.mem_singleton.mpr rfl))
      rw [after_concat]
      intro stream among
      rcases List.getElem?_of_mem among with ⟨number, present⟩
      cases earlier : ((spawn role peer codec config).after actions).inbound[number]? with
      | some old =>
          rw [((extends_perform wired action).1.inboundId earlier present).2]
          exact before old (List.mem_of_getElem? earlier)
      | none =>
          have origin := origin_of_new_stream wired earlier present
          generalize stream.streamId = streamId at origin
          cases origin with
          | called opens advances => simp [opens] at answers
          | @accepted mode streamId envelope call serves reading request accepts =>
              subst request
              rcases receive_request_cases ((spawn role peer codec config).after actions) mode
                streamId envelope with equal | ⟨error, equal⟩ | ⟨_, _, message, equal⟩
              · simp [perform, equal] at accepts
              · simp [perform, equal] at accepts
              · rw [perform, equal] at present
                cases mode with
                | requestChannel =>
                    simp only [Prod.map_snd, id, accept, openRequests, startPump, startProducer]
                      at present
                    rw [List.getElem?_append_right (List.getElem?_eq_none_iff.mp earlier)] at present
                    rcases List.mem_singleton.mp (List.mem_of_getElem? present) with rfl
                    rfl
                | _ =>
                    simp only [Prod.map_snd, id, accept, startPump, startProducer] at present
                    rw [earlier] at present
                    cases present

end

end Connection

end ServiceMesh
