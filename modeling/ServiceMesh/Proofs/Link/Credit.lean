import Mathlib.Algebra.BigOperators.Fin
import Mathlib.Data.List.Indexes
import ServiceMesh.Proofs.Codec.Envelope
import ServiceMesh.Proofs.Connection.Cancelling
import ServiceMesh.Proofs.Connection.Counts
import ServiceMesh.Proofs.Link.Order

/-!
# Where the credits of a call are

A credit of a streamed direction is with its producer, or with a message that is under way or waits
to be pulled, or it is counted by the consumer, or it is under way back.  As long as the producer runs
and the call goes on, no credit gets lost but with the requests of a channel whose response the client
could not read: the client has cancelled the channel then and sends on, and the server passes over
what comes after the cancellation (`credits_accounted_for`).

What is true of all calls, whatever has become of them, comes first: no producer ever holds more
credits than its window, so that no grant of an honest peer brings a reader down (`reads_of_open`).
-/

namespace ServiceMesh

namespace Connection

/-- What a measure of the inbound streams of a call adds up to. -/
def tally (connection : Connection) (streamId : UInt64)
    (measure : Nat → InboundStream → Nat) : Nat :=
  (connection.inbound.mapIdx fun number stream =>
    if stream.streamId = streamId then measure number stream else 0).sum

section

variable {connection : Connection} {streamId : UInt64} {measure : Nat → InboundStream → Nat}

theorem tally_of_absent
    (absent : ∀ stream ∈ connection.inbound, stream.streamId ≠ streamId) :
    connection.tally streamId measure = 0 := by
  apply List.sum_eq_zero
  intro count member
  rcases List.mem_mapIdx.mp member with ⟨number, within, rfl⟩
  exact if_neg (absent _ (List.getElem_mem within))

theorem tally_of_sole {number : Nat} {stream : InboundStream}
    (sole : SoleStream connection number streamId)
    (present : connection.inbound[number]? = some stream)
    (carries : stream.streamId = streamId) :
    connection.tally streamId measure = measure number stream := by
  rcases List.getElem?_eq_some_iff.mp present with ⟨within, same⟩
  rw [tally, List.mapIdx_eq_ofFn, List.sum_ofFn, Finset.sum_eq_single ⟨number, within⟩]
  · rw [List.get_eq_getElem, same, if_pos carries]
  · intro other _ apart
    refine if_neg fun also => apart ?_
    exact Fin.ext (sole.streams other _ (List.getElem?_eq_getElem other.isLt) also)
  · simp

end

/-- The messages of a call that wait to be pulled. -/
def buffered (connection : Connection) (streamId : UInt64) : Nat :=
  connection.tally streamId fun _ stream => stream.buffer.length

/-- The messages of a call that were pulled since credits were granted last. -/
def counted (connection : Connection) (streamId : UInt64) : Nat :=
  connection.tally streamId fun _ stream => stream.consumed

end Connection

namespace Link

/-- The messages of a call that the consumer on a side has pulled. -/
def pulledOn (start : Link) (actions : List Action) (side : Side) (streamId : UInt64) : Nat :=
  ((start.after actions).connection side).tally streamId fun number _ =>
    (pulled (Connection.seen number (start.history side actions))).length

/-- The messages of a call that a side has taken after the cancellation of the call. -/
def lostOn (start : Link) (actions : List Action) (side : Side) (streamId : UInt64) : Nat :=
  passedOver side.role streamId (Connection.taken (start.history side actions))

/-- The number of credits that a side starts with. -/
def window (config : Side → Config) (side : Side) : Nat :=
  max (config side).streamWindow.toNat 1

/-- The number of messages that the consumer on a side pulls before it grants as many credits. -/
def threshold (config : Side → Config) (side : Side) : Nat := max (window config side / 2) 1

theorem window_lt (config : Side → Config) (side : Side) : window config side < 2 ^ 32 := by
  have small := (config side).streamWindow.toNat_lt
  rw [window]
  omega

theorem threshold_lt (config : Side → Config) (side : Side) :
    threshold config side < 2 ^ 32 := by
  have small := window_lt config side
  rw [threshold]
  omega

section

variable (peer : Side → String) (codec : MessageCodec) (config : Side → Config)

variable {actions : List Action}

/-! ## The receiver -/

/-- What a stream has counted, granted and shown. -/
theorem consumed_add_granted {side : Side} {number : Nat} {stream : InboundStream}
    (few : Connection.calls ((spawn peer codec config).sideActions .client actions) < 2 ^ 63)
    (present :
      (((spawn peer codec config).after actions).connection side).inbound[number]? =
        some stream) :
    stream.consumed < threshold config side ∧
      stream.consumed + granted stream.streamId
          (Connection.sent ((spawn peer codec config).history side actions)) =
        (pulled (Connection.seen number ((spawn peer codec config).history side actions))).length ∧
      ∀ count, .requestN stream.streamId count ∈
          Connection.sent ((spawn peer codec config).history side actions) →
        count = UInt32.ofNat (threshold config side) := by
  have law := streamLaw peer codec config few (Connection.streamPart_of_present present)
  have start : (Connection.spawn side.role (peer side) codec (config side)).threshold =
      threshold config side := rfl
  rcases StreamPart.consumed_add_granted
    (Connection.spawn side.role (peer side) codec (config side))
    (Connection.streamEvents number ((spawn peer codec config).history side actions))
    (Connection.streamOpening number ((spawn peer codec config).history side actions) stream)
    (Connection.threshold_pos _) with ⟨below, sum, equal⟩
  rw [← law.state, start] at below
  rw [← law.state, ← law.seen, ← law.feedback, start] at sum
  have grants : ∀ frame ∈ (Connection.sent
      ((spawn peer codec config).history side actions)).filter
        (Frame.isFeedback stream.streamId), frame.isGrant = true →
      frame = .requestN stream.streamId (UInt32.ofNat (threshold config side)) := by
    rw [law.feedback]
    exact equal
  refine ⟨below, ?_, ?_⟩
  · rw [← granted_feedback, granted_of_equal (threshold_lt config side) grants, sum]
    exact Nat.zero_add _
  · intro count member
    have grant := grants _ (List.mem_filter.mpr ⟨member, by simp [Frame.isFeedback]⟩) rfl
    rw [Frame.requestN.injEq] at grant
    exact grant.2

/-- No more messages are pulled than were taken. -/
theorem pulled_le_nexts {side : Side} {number : Nat} {stream : InboundStream}
    (few : Connection.calls ((spawn peer codec config).sideActions .client actions) < 2 ^ 63)
    (present :
      (((spawn peer codec config).after actions).connection side).inbound[number]? =
        some stream) :
    (pulled (Connection.seen number ((spawn peer codec config).history side actions))).length ≤
      nexts stream.streamId
        (Connection.taken ((spawn peer codec config).history side actions)) := by
  have shown := seen_prefix_script peer codec config few present
  have heard := heard_eq_taken peer codec config few present
  have whole := pulled_script_le
    (Connection.spawn side.role (peer side) codec (config side))
    (arrivals (Connection.streamEvents number ((spawn peer codec config).history side actions)))
  rw [nexts_eq_messages side.role, ← heard, List.countP_filter]
  refine ((shown.filterMap _).length_le.trans whole).trans (le_of_eq ?_)
  congr 1
  funext arrival
  cases arrival <;> simp [Arrival.isMessage, Arrival.isHeard]

/-- What was counted and granted on a side is what was pulled there. -/
theorem counted_add_granted (side : Side)
    (few : Connection.calls ((spawn peer codec config).sideActions .client actions) < 2 ^ 63)
    (streamId : UInt64) :
    (((spawn peer codec config).after actions).connection side).counted streamId +
        granted streamId (Connection.sent ((spawn peer codec config).history side actions)) =
      (spawn peer codec config).pulledOn actions side streamId := by
  by_cases listed : ∃ stream ∈
      (((spawn peer codec config).after actions).connection side).inbound,
        stream.streamId = streamId
  · rcases listed with ⟨stream, among, rfl⟩
    rcases List.getElem?_of_mem among with ⟨number, present⟩
    have sole := soleStream peer codec config few present
    rw [Connection.counted, pulledOn, Connection.tally_of_sole sole present rfl,
      Connection.tally_of_sole sole present rfl]
    exact (consumed_add_granted peer codec config few present).2.1
  · have absent : ∀ stream ∈
        (((spawn peer codec config).after actions).connection side).inbound,
          stream.streamId ≠ streamId := fun stream among carries =>
      listed ⟨stream, among, carries⟩
    have nothing : granted streamId
        (Connection.sent ((spawn peer codec config).history side actions)) = 0 := by
      apply granted_of_absent
      intro count member
      rw [history_spawn] at member
      rw [after_spawn] at listed
      exact listed (Connection.stream_of_grant _ _ _ _ _ member)
    rw [Connection.counted, pulledOn, Connection.tally_of_absent absent,
      Connection.tally_of_absent absent, nothing]

theorem pulledOn_le_nexts (side : Side)
    (few : Connection.calls ((spawn peer codec config).sideActions .client actions) < 2 ^ 63)
    (streamId : UInt64) :
    (spawn peer codec config).pulledOn actions side streamId ≤
      nexts streamId (Connection.taken ((spawn peer codec config).history side actions)) := by
  by_cases listed : ∃ stream ∈
      (((spawn peer codec config).after actions).connection side).inbound,
        stream.streamId = streamId
  · rcases listed with ⟨stream, among, rfl⟩
    rcases List.getElem?_of_mem among with ⟨number, present⟩
    rw [pulledOn, Connection.tally_of_sole (soleStream peer codec config few present) present rfl]
    exact pulled_le_nexts peer codec config few present
  · rw [pulledOn, Connection.tally_of_absent fun stream among carries =>
      listed ⟨stream, among, carries⟩]
    exact Nat.zero_le _

/-- A side has granted no more credits than it has taken messages. -/
theorem granted_le_nexts (side : Side)
    (few : Connection.calls ((spawn peer codec config).sideActions .client actions) < 2 ^ 63)
    (streamId : UInt64) :
    granted streamId (Connection.sent ((spawn peer codec config).history side actions)) ≤
      nexts streamId (Connection.taken ((spawn peer codec config).history side actions)) := by
  have sum := counted_add_granted peer codec config side few streamId
  have bound := pulledOn_le_nexts peer codec config side few streamId
  omega

/-! ## The sender -/

/-- What a producer may still send and what it has sent is what it has started with and what it was
granted. -/
theorem pledge_add_nexts {side : Side} {number : Nat} {part : ProducerPart}
    (few : Connection.calls ((spawn peer codec config).sideActions .client actions) < 2 ^ 63)
    (present :
      (((spawn peer codec config).after actions).connection side).producerPart number =
        some part) :
    ∃ pledged, pledged ≤ window config side ∧
      part.pledge + nexts part.producer.streamId
          (Connection.sent ((spawn peer codec config).history side actions)) ≤
        pledged + granted part.producer.streamId
          (Connection.taken ((spawn peer codec config).history side actions)) ∧
      (part.producer.phase = .waiting ∨ part.producer.phase = .pulling →
        pledged = window config side ∧
        part.pledge + nexts part.producer.streamId
            (Connection.sent ((spawn peer codec config).history side actions)) =
          pledged + granted part.producer.streamId
            (Connection.taken ((spawn peer codec config).history side actions))) := by
  rcases producerLaw peer codec config few present with ⟨opening, law⟩
  have credits := credited_eq_granted peer codec config few
    (Connection.producerPart_eq_some.mp present).1
  rcases ProducerPart.pledge_add_nexts
    (Connection.spawn side.role (peer side) codec (config side)).codec opening
    (Connection.producerEvents number ((spawn peer codec config).history side actions)) with
    ⟨bound, exactly⟩
  rw [← law.state, ← law.content, ← nexts_eq_content, credits] at bound exactly
  refine ⟨opening.pledge, ?_, bound, ?_⟩
  · cases law.starts with
    | calling sends => exact Nat.le_refl _
    | streaming streams takes => exact Nat.le_refl _
    | answering takes =>
        show 0 + 1 ≤ window config side
        rw [window]
        omega
  · intro pumps
    have sound := law.sound
    have listed : part.isListed = true := by
      rw [sound]
      rcases pumps with waits | pulls <;> simp [*]
    refine ⟨?_, (exactly listed).2⟩
    rw [law.opening_eq pumps]
    rfl

/-- No producer holds more credits than its window. -/
theorem credits_le_window {side : Side} {number : Nat} {producer : Producer}
    (few : Connection.calls ((spawn peer codec config).sideActions .client actions) < 2 ^ 63)
    (present :
      (((spawn peer codec config).after actions).connection side).producers[number]? =
        some producer) :
    producer.credits ≤ window config side := by
  rcases pledge_add_nexts peer codec config few
    (Connection.producerPart_of_present present) with ⟨pledged, small, bound, -⟩
  have heard := taken_prefix_sent peer codec config side actions
  have told := taken_prefix_sent peer codec config side.other actions
  rw [Side.other_other] at told
  have back := granted_le_of_prefix producer.streamId heard
  have there := nexts_le_of_prefix producer.streamId told
  have honest := granted_le_nexts peer codec config side.other few producer.streamId
  have part_of_pledge : producer.credits ≤
      (ProducerPart.mk producer (decide
        ((((spawn peer codec config).after actions).connection side).outbound.find?
          producer.streamId = some number))).pledge :=
    Nat.le_add_right _ _
  dsimp only at bound
  omega

theorem few_earlier {action : Action}
    (few : Connection.calls
      ((spawn peer codec config).sideActions .client (actions ++ [action])) < 2 ^ 63) :
    Connection.calls ((spawn peer codec config).sideActions .client actions) < 2 ^ 63 := by
  rw [sideActions_concat, Connection.calls, List.countP_append] at few
  rw [Connection.calls]
  omega

/-- A side that is open reads. -/
theorem reads_of_open {side : Side}
    (few : Connection.calls ((spawn peer codec config).sideActions .client actions) < 2 ^ 63)
    (running : (((spawn peer codec config).after actions).connection side).isClosed = false) :
    (((spawn peer codec config).after actions).connection side).reads = true := by
  induction actions using List.reverseRecOn with
  | nil => cases side <;> rfl
  | append_singleton actions action induction =>
      have before := induction (few_earlier peer codec config few)
      have bound (number : Nat) (producer : Producer)
          (present : (((spawn peer codec config).after (actions ++ [action])).connection
            side).producers[number]? = some producer) :
          producer.credits ≤ window config side :=
        credits_le_window peer codec config few present
      have wired : Connection.Wired
          (((spawn peer codec config).after actions).connection side) := by
        rw [after_spawn]
        exact Connection.wired_after (Connection.wired_spawn _ _ _ _) _
      rw [after_concat, connection_perform] at running bound ⊢
      cases acts : ((spawn peer codec config).after actions).sideAction side action with
      | none =>
          rw [acts] at running
          exact before running
      | some own =>
          rw [acts, Option.elim_some] at running bound
          have reading := before
            ((Connection.extends_perform wired own).1.running running).1
          rcases Connection.reads_perform wired running reading with still | overflow
          · exact still
          · rcases overflow with ⟨number, producer, present, beyond⟩
            have within := bound number producer present
            have small := window_lt config side
            rw [Connection.creditLimit] at beyond
            omega

/-- A side that is open writes. -/
theorem writes_of_open {side : Side}
    (running : (((spawn peer codec config).after actions).connection side).isClosed = false) :
    (((spawn peer codec config).after actions).connection side).writes = true := by
  rw [after_spawn] at running ⊢
  exact ((Connection.extends_after (Connection.wired_spawn _ _ _ _) _).running running).2

/-! ## Calls that go on -/

/-- The server has taken the request of a call and has not accepted it. -/
def Refused (history : List Connection.Step) (streamId : UInt64) : Prop :=
  ∃ step ∈ history, step.refuses streamId = true

instance (history : List Connection.Step) (streamId : UInt64) :
    Decidable (Refused history streamId) :=
  inferInstanceAs (Decidable (∃ step ∈ history, step.refuses streamId = true))

/-- A call is kept: the connection is open on both sides, and the receiver has not cancelled the
call. -/
structure Kept (start : Link) (actions : List Action) (sender : Side)
    (streamId : UInt64) : Prop where
  running : ∀ side, ((start.after actions).connection side).isClosed = false
  received : .cancel streamId ∉ Connection.sent (start.history sender.other actions)

/-- A call goes on: it is kept, and the server has not refused it. -/
structure GoesOn (start : Link) (actions : List Action) (sender : Side)
    (streamId : UInt64) : Prop extends Kept start actions sender streamId where
  accepted : ¬ Refused (start.history .server actions) streamId

/-- A call was not cut off: it is kept, and the client has not cancelled it, even where the client is
the sender. -/
structure Unbroken (start : Link) (actions : List Action) (sender : Side)
    (streamId : UInt64) : Prop extends Kept start actions sender streamId where
  uncancelled : .cancel streamId ∉ Connection.sent (start.history .client actions)

/-- As long as a producer runs, its content is messages. -/
theorem content_of_running {sender : Side} {number : Nat} {part : ProducerPart}
    (few : Connection.calls ((spawn peer codec config).sideActions .client actions) < 2 ^ 63)
    (present :
      (((spawn peer codec config).after actions).connection sender).producerPart number =
        some part)
    (pumps : part.producer.phase = .waiting ∨ part.producer.phase = .pulling) :
    ∀ frame ∈ Connection.sent ((spawn peer codec config).history sender actions),
      frame.isContent part.producer.streamId = true →
        ∃ envelope, frame = .next part.producer.streamId envelope := by
  rcases producerLaw peer codec config few present with ⟨opening, law⟩
  have starts := law.opening_eq pumps
  have listed : part.isListed = true := by
    rw [law.sound]
    rcases pumps with waits | pulls <;> simp [*]
  rcases ProducerPart.supplies_run
    (show opening.Sound by rw [starts]; exact ProducerPart.sound_opening _ _ (by decide))
    (show opening.producer.phase ≠ .answering by rw [starts]; simp [ProducerPart.opening])
    (Connection.producerEvents number ((spawn peer codec config).history sender actions)) with
    ⟨messages, envelopes, last, supplies, runs⟩
  rw [← law.state] at runs
  have content := supplies.content_eq
  rw [← law.content, runs listed, starts] at content
  intro frame member about
  have among := List.mem_filter.mpr ⟨member, about⟩
  rw [content] at among
  rcases List.mem_map.mp (by simpa using among) with ⟨envelope, -, rfl⟩
  exact ⟨envelope, rfl⟩

section

variable {sender : Side} {number : Nat} {part : ProducerPart}

/-- As long as a producer runs on an open connection, nothing but messages and a cancellation arrives
at its stream. -/
theorem arrivals_of_running {stream : Nat} {inbound : InboundStream}
    (few : Connection.calls ((spawn peer codec config).sideActions .client actions) < 2 ^ 63)
    (present :
      (((spawn peer codec config).after actions).connection sender).producerPart number =
        some part)
    (pumps : part.producer.phase = .waiting ∨ part.producer.phase = .pulling)
    (running : (((spawn peer codec config).after actions).connection sender.other).isClosed =
      false)
    (atStream :
      (((spawn peer codec config).after actions).connection sender.other).inbound[stream]? =
        some inbound)
    (same : inbound.streamId = part.producer.streamId) :
    ∀ arrival ∈ arrivals (Connection.streamEvents stream
      ((spawn peer codec config).history sender.other actions)),
        arrival = .cancelled ∨ ∃ envelope, arrival = .message envelope := by
  intro arrival member
  have fromPeer (content : arrival.isContent = true) :
      ∃ frame ∈ Connection.sent ((spawn peer codec config).history sender actions),
        frame.isContent inbound.streamId = true ∧
          frame.arrival? sender.other.role inbound.streamId = some arrival := by
    have among := (content_of_arrivals peer codec config few atStream).mem
      (List.mem_filter.mpr ⟨member, content⟩)
    rcases List.mem_filterMap.mp among with ⟨frame, sent, brings⟩
    exact ⟨frame, (List.mem_filter.mp sent).1, (List.mem_filter.mp sent).2, brings⟩
  have isMessage (content : arrival.isContent = true) :
      ∃ envelope, arrival = .message envelope := by
    rcases fromPeer content with ⟨frame, sent, about, brings⟩
    rw [same] at about
    rcases content_of_running peer codec config few present pumps frame sent about with
      ⟨envelope, rfl⟩
    rw [Frame.arrival?, Frame.streamId, if_pos same.symm, Option.some.injEq] at brings
    exact ⟨envelope, brings.symm⟩
  cases arrival with
  | message envelope => exact .inr ⟨envelope, rfl⟩
  | completed => exact .inr (isMessage rfl)
  | failed code text => exact .inr (isMessage rfl)
  | cancelled => exact .inl rfl
  | closed =>
      rw [history_spawn] at member
      have closed := Connection.isClosed_of_heard _ _ _ _ member
      rw [← after_spawn, running] at closed
      cases closed

/-- As long as a call is not cut off, nothing but messages arrives at its stream. -/
theorem messages_of_unbroken {stream : Nat} {inbound : InboundStream}
    (few : Connection.calls ((spawn peer codec config).sideActions .client actions) < 2 ^ 63)
    (present :
      (((spawn peer codec config).after actions).connection sender).producerPart number =
        some part)
    (pumps : part.producer.phase = .waiting ∨ part.producer.phase = .pulling)
    (unbroken : Unbroken (spawn peer codec config) actions sender part.producer.streamId)
    (atStream :
      (((spawn peer codec config).after actions).connection sender.other).inbound[stream]? =
        some inbound)
    (same : inbound.streamId = part.producer.streamId) :
    ∀ arrival ∈ arrivals (Connection.streamEvents stream
      ((spawn peer codec config).history sender.other actions)),
        ∃ envelope, arrival = .message envelope := by
  intro arrival member
  refine (arrivals_of_running peer codec config few present pumps (unbroken.running _) atStream
    same arrival member).resolve_left ?_
  rintro rfl
  have cancels := (cancelled_of_heard peer codec config few atStream member).2
  exact unbroken.uncancelled (same ▸ cancels)

/-- The stream of a call that is kept was handed to its consumer, and has sent nothing but grants. -/
theorem grants_of_kept {stream : Nat} {inbound : InboundStream} {streamId : UInt64}
    (few : Connection.calls ((spawn peer codec config).sideActions .client actions) < 2 ^ 63)
    (kept : Kept (spawn peer codec config) actions sender streamId)
    (atStream :
      (((spawn peer codec config).after actions).connection sender.other).inbound[stream]? =
        some inbound)
    (same : inbound.streamId = streamId) :
    Connection.streamOpening stream ((spawn peer codec config).history sender.other actions)
        inbound = .opening inbound.streamId inbound.isRequester true ∧
      ∀ frame ∈ (Connection.streamOpening stream
          ((spawn peer codec config).history sender.other actions) inbound).fedBack
            (Connection.spawn sender.other.role (peer sender.other) codec (config sender.other))
            (Connection.streamEvents stream
              ((spawn peer codec config).history sender.other actions)),
        frame.isGrant = true := by
  have law := streamLaw peer codec config few (Connection.streamPart_of_present atStream)
  constructor
  · have within := (List.getElem?_eq_some_iff.mp atStream).1
    have running := kept.running sender.other
    rw [after_spawn] at within running
    rw [Connection.streamOpening, history_spawn,
      Connection.handed_of_open _ _ _ _ _ running within]
  · intro frame member
    rw [← law.feedback] at member
    rcases List.mem_filter.mp member with ⟨sent, about⟩
    cases frame with
    | cancel id =>
        have own : id = streamId := by
          simpa [Frame.isFeedback, same] using about
        exact (kept.received (own ▸ sent)).elim
    | requestN id count => rfl
    | _ => simp [Frame.isFeedback] at about

/-- As long as a call is not cut off, its stream is fed. -/
theorem fed_of_unbroken {stream : Nat} {inbound : InboundStream}
    (few : Connection.calls ((spawn peer codec config).sideActions .client actions) < 2 ^ 63)
    (present :
      (((spawn peer codec config).after actions).connection sender).producerPart number =
        some part)
    (pumps : part.producer.phase = .waiting ∨ part.producer.phase = .pulling)
    (unbroken : Unbroken (spawn peer codec config) actions sender part.producer.streamId)
    (atStream :
      (((spawn peer codec config).after actions).connection sender.other).inbound[stream]? =
        some inbound)
    (same : inbound.streamId = part.producer.streamId) :
    (((spawn peer codec config).after actions).connection sender.other).sinks.find?
        inbound.streamId = some (.stream stream) := by
  have messages := messages_of_unbroken peer codec config few present pumps unbroken atStream same
  have law := streamLaw peer codec config few (Connection.streamPart_of_present atStream)
  rcases grants_of_kept peer codec config few unbroken.toKept atStream same with ⟨opening, grants⟩
  have fed := (StreamPart.run_fed
    (Connection.spawn sender.other.role (peer sender.other) codec (config sender.other)) _
    (by rw [opening]; rfl) (by rw [opening]; exact StreamPart.sound_opening _ _ _) grants
    messages).1
  rw [← law.state] at fed
  exact of_decide_eq_true fed

/-- As long as a call is kept, what its stream has taken was pulled, waits to be pulled or is lost. -/
theorem seen_add_buffer {stream : Nat} {inbound : InboundStream}
    (few : Connection.calls ((spawn peer codec config).sideActions .client actions) < 2 ^ 63)
    (present :
      (((spawn peer codec config).after actions).connection sender).producerPart number =
        some part)
    (pumps : part.producer.phase = .waiting ∨ part.producer.phase = .pulling)
    (kept : Kept (spawn peer codec config) actions sender part.producer.streamId)
    (atStream :
      (((spawn peer codec config).after actions).connection sender.other).inbound[stream]? =
        some inbound)
    (same : inbound.streamId = part.producer.streamId) :
    (pulled (Connection.seen stream
        ((spawn peer codec config).history sender.other actions))).length +
          inbound.buffer.length +
        (spawn peer codec config).lostOn actions sender.other inbound.streamId =
      nexts inbound.streamId
        (Connection.taken ((spawn peer codec config).history sender.other actions)) := by
  have plain := arrivals_of_running peer codec config few present pumps (kept.running _) atStream
    same
  have heard := heard_eq_taken peer codec config few atStream
  have all : (arrivals (Connection.streamEvents stream
      ((spawn peer codec config).history sender.other actions))).filter Arrival.isHeard =
      arrivals (Connection.streamEvents stream
        ((spawn peer codec config).history sender.other actions)) := by
    rw [List.filter_eq_self]
    intro arrival member
    rcases plain arrival member with rfl | ⟨envelope, rfl⟩ <;> rfl
  have law := streamLaw peer codec config few (Connection.streamPart_of_present atStream)
  rcases grants_of_kept peer codec config few kept atStream same with ⟨opening, grants⟩
  have sum := StreamPart.run_messages
    (Connection.spawn sender.other.role (peer sender.other) codec (config sender.other))
    (by rw [opening]; rfl) (by rw [opening]; exact StreamPart.sound_opening _ _ _) grants plain
  rw [← law.state, ← law.seen, opening] at sum
  rw [all] at heard
  rw [heard] at plain sum
  have messages := takeWhile_add_passedOver plain
  rw [← messages, sum]
  exact congrArg (· + _) (Nat.zero_add _)

/-- Messages are lost only where the client has cancelled a call to which it sends. -/
theorem cancel_of_lost {streamId : UInt64}
    (losses : (spawn peer codec config).lostOn actions sender.other streamId ≠ 0) :
    sender = .client ∧ .cancel streamId ∈
      Connection.sent ((spawn peer codec config).history .client actions) := by
  rcases cancel_mem_of_passedOver losses with ⟨serves, takes⟩
  cases sender with
  | client => exact ⟨rfl, (taken_prefix_sent peer codec config .server actions).mem takes⟩
  | server => cases serves

theorem lostOn_of_unbroken {streamId : UInt64}
    (unbroken : Unbroken (spawn peer codec config) actions sender streamId) :
    (spawn peer codec config).lostOn actions sender.other streamId = 0 := by
  by_contra losses
  exact unbroken.uncancelled (cancel_of_lost peer codec config losses).2

/-- The server has a stream for every channel whose request it has taken and not refused. -/
theorem stream_of_request {streamId : UInt64} {envelope : Envelope}
    (accepted : ¬ Refused ((spawn peer codec config).history .server actions) streamId)
    (takes : .request .requestChannel streamId envelope ∈
      Connection.taken ((spawn peer codec config).history .server actions)) :
    ∃ stream ∈ (((spawn peer codec config).after actions).connection .server).inbound,
      stream.streamId = streamId := by
  rcases List.mem_filterMap.mp takes with ⟨step, member, took⟩
  have shows : ∃ call, step.observation = .accepted call := by
    rcases step with ⟨before, action⟩
    cases action with
    | receive frame => exact ⟨_, rfl⟩
    | _ => cases took
  rcases shows with ⟨call, shown⟩
  cases call with
  | none =>
      refine (accepted ⟨step, member, ?_⟩).elim
      simp [Connection.Step.refuses, took, shown]
  | some call =>
      rcases step with ⟨before, action⟩
      rcases Connection.accepted_of_observation shown with
        ⟨id, taken, request, reading, acceptedThen⟩
      simp only [Connection.Step.taken, request, reading, if_true, Option.some.injEq,
        Frame.request.injEq] at took
      rcases took with ⟨channel, rfl, -⟩
      rw [history_spawn] at member
      have grown := (Connection.wired_of_mem_history (Connection.wired_spawn _ _ _ _) member).2.2
      rw [after_spawn]
      rcases (acceptedThen.later grown).requests channel with
        ⟨requests, stream, -, present, carries⟩
      exact ⟨stream, List.mem_of_getElem? present, carries⟩

/-- Whoever sends requests has opened a channel. -/
theorem channel_of_client_producer
    (few : Connection.calls ((spawn peer codec config).sideActions .client actions) < 2 ^ 63)
    (present :
      (((spawn peer codec config).after actions).connection .client).producerPart number =
        some part) :
    part.producer.phase ≠ .answering ∧
      ∃ envelope, .request .requestChannel part.producer.streamId envelope ∈
        Connection.sent ((spawn peer codec config).history .client actions) := by
  rcases producerLaw peer codec config few present with ⟨opening, law⟩
  cases law.starts with
  | calling sends =>
      refine ⟨?_, _, sends⟩
      rw [law.state]
      exact ProducerPart.pumps_run (by simp [ProducerPart.opening]) _
  | streaming streams takes | answering takes =>
      have sent := (taken_prefix_sent peer codec config .client actions).mem takes
      exact (request_notMem_sent peer codec config actions _ _ _ sent).elim

/-- Whoever sends a stream of responses sends it to a stream of the client. -/
theorem stream_of_server_producer
    (few : Connection.calls ((spawn peer codec config).sideActions .client actions) < 2 ^ 63)
    (present :
      (((spawn peer codec config).after actions).connection .server).producerPart number =
        some part)
    (pumps : part.producer.phase = .waiting ∨ part.producer.phase = .pulling) :
    ∃ stream ∈ (((spawn peer codec config).after actions).connection .client).inbound,
      stream.streamId = part.producer.streamId := by
  rcases producerLaw peer codec config few present with ⟨opening, law⟩
  have starts := law.opening_eq pumps
  cases law.starts with
  | calling sends => exact (request_notMem_sent peer codec config actions _ _ _ sends).elim
  | streaming streams takes =>
      have requested := (taken_prefix_sent peer codec config .server actions).mem takes
      rw [history_spawn] at requested
      rw [after_spawn]
      exact (Connection.called_of_sent _ _ _ _ _ requested).stream streams
  | answering takes => simp [ProducerPart.opening] at starts

/-- Before there is a stream, nothing of the call has been taken. -/
theorem nexts_of_absent
    (few : Connection.calls ((spawn peer codec config).sideActions .client actions) < 2 ^ 63)
    (present :
      (((spawn peer codec config).after actions).connection sender).producerPart number =
        some part)
    (pumps : part.producer.phase = .waiting ∨ part.producer.phase = .pulling)
    (goesOn : GoesOn (spawn peer codec config) actions sender part.producer.streamId)
    (absent : ∀ stream ∈
      (((spawn peer codec config).after actions).connection sender.other).inbound,
        stream.streamId ≠ part.producer.streamId) :
    nexts part.producer.streamId
      (Connection.taken ((spawn peer codec config).history sender.other actions)) = 0 := by
  cases sender with
  | client =>
      rcases channel_of_client_producer peer codec config few present with ⟨-, envelope, requested⟩
      apply nexts_of_apart
      intro frame member carries
      have once := nodup_claimed peer codec config .client few
      have heard := taken_prefix_sent peer codec config .server actions
      rw [history_spawn] at requested once
      rw [show Side.server.other = Side.client from rfl, history_spawn peer codec config .client]
        at heard
      have takes := Connection.request_mem_of_prefix _ _ _ _ _ once requested heard member
        carries
      rcases stream_of_request peer codec config goesOn.accepted takes with ⟨stream, among, same⟩
      exact (absent stream among same).elim
  | server =>
      rcases stream_of_server_producer peer codec config few present pumps with
        ⟨stream, among, same⟩
      exact (absent stream among same).elim

/-- As long as a call goes on, what was taken of it was pulled, waits to be pulled or is lost. -/
theorem pulledOn_add_buffered
    (few : Connection.calls ((spawn peer codec config).sideActions .client actions) < 2 ^ 63)
    (present :
      (((spawn peer codec config).after actions).connection sender).producerPart number =
        some part)
    (pumps : part.producer.phase = .waiting ∨ part.producer.phase = .pulling)
    (goesOn : GoesOn (spawn peer codec config) actions sender part.producer.streamId) :
    (spawn peer codec config).pulledOn actions sender.other part.producer.streamId +
          (((spawn peer codec config).after actions).connection sender.other).buffered
            part.producer.streamId +
        (spawn peer codec config).lostOn actions sender.other part.producer.streamId =
      nexts part.producer.streamId
        (Connection.taken ((spawn peer codec config).history sender.other actions)) := by
  by_cases listed : ∃ stream ∈
      (((spawn peer codec config).after actions).connection sender.other).inbound,
        stream.streamId = part.producer.streamId
  · rcases listed with ⟨inbound, among, same⟩
    rcases List.getElem?_of_mem among with ⟨stream, atStream⟩
    have sole := soleStream peer codec config few atStream
    rw [same] at sole
    rw [pulledOn, Connection.buffered, Connection.tally_of_sole sole atStream same,
      Connection.tally_of_sole sole atStream same, ← same]
    exact seen_add_buffer peer codec config few present pumps goesOn.toKept atStream same
  · have absent : ∀ stream ∈
        (((spawn peer codec config).after actions).connection sender.other).inbound,
          stream.streamId ≠ part.producer.streamId := fun stream among carries =>
      listed ⟨stream, among, carries⟩
    have nothing := nexts_of_absent peer codec config few present pumps goesOn absent
    have lost : (spawn peer codec config).lostOn actions sender.other part.producer.streamId = 0 :=
      Nat.le_zero.mp (nothing ▸ passedOver_le_nexts _ _ _)
    rw [pulledOn, Connection.buffered, Connection.tally_of_absent absent,
      Connection.tally_of_absent absent, nothing, lost]

end

/-! ## Conservation -/

/-- The credits of one streamed direction: those with the producer, the messages under way and those
that wait to be pulled, what the consumer has counted, and the grants under way. -/
def circulating (link : Link) (sender : Side) (producer : Producer) : Nat :=
  producer.credits + (if producer.phase = .pulling then 1 else 0) +
    nexts producer.streamId (link.underway sender.other) +
    (link.connection sender.other).buffered producer.streamId +
    (link.connection sender.other).counted producer.streamId +
    granted producer.streamId (link.underway sender)

theorem circulating_of_held {sender : Side} {number : Nat} {producer : Producer}
    (few : Connection.calls ((spawn peer codec config).sideActions .client actions) < 2 ^ 63)
    (present :
      (((spawn peer codec config).after actions).connection sender).producers[number]? =
        some producer)
    (pumps : producer.phase = .waiting ∨ producer.phase = .pulling)
    (running : ∀ side,
      (((spawn peer codec config).after actions).connection side).isClosed = false)
    (held : (spawn peer codec config).pulledOn actions sender.other producer.streamId +
          (((spawn peer codec config).after actions).connection sender.other).buffered
            producer.streamId +
        (spawn peer codec config).lostOn actions sender.other producer.streamId =
      nexts producer.streamId
        (Connection.taken ((spawn peer codec config).history sender.other actions))) :
    circulating ((spawn peer codec config).after actions) sender producer +
        (spawn peer codec config).lostOn actions sender.other producer.streamId =
      window config sender := by
  rcases pledge_add_nexts peer codec config few
    (Connection.producerPart_of_present present) with ⟨pledged, -, -, exactly⟩
  rcases exactly pumps with ⟨rfl, sum⟩
  have pledge : (ProducerPart.mk producer (decide
      ((((spawn peer codec config).after actions).connection sender).outbound.find?
        producer.streamId = some number))).pledge =
      producer.credits + if producer.phase = .pulling then 1 else 0 := by
    rcases pumps with waits | pulls <;> simp [ProducerPart.pledge, *]
  have there := sent_eq_taken_append_underway peer codec config
    (reads_of_open peer codec config few (running sender.other))
    (writes_of_open peer codec config (running sender.other.other))
  have back := sent_eq_taken_append_underway peer codec config
    (reads_of_open peer codec config few (running sender))
    (writes_of_open peer codec config (running sender.other))
  have paid := counted_add_granted peer codec config sender.other few producer.streamId
  rw [Side.other_other] at there
  rw [pledge, there, nexts_append] at sum
  rw [back, granted_append] at paid
  dsimp only at sum
  rw [circulating]
  omega

/-- If the requests of a channel go on although the client has cancelled it, the client could not
read a response. -/
theorem unreadable_of_cancel {number : Nat} {producer : Producer}
    (few : Connection.calls ((spawn peer codec config).sideActions .client actions) < 2 ^ 63)
    (present : (((spawn peer codec config).after actions).connection .client).producers[number]? =
      some producer)
    (pumps : producer.phase ≠ .ended)
    (cancels : .cancel producer.streamId ∈
      Connection.sent ((spawn peer codec config).history .client actions)) :
    Connection.Unreadable codec ((spawn peer codec config).history .client actions)
      producer.streamId := by
  have once := nodup_claimed peer codec config .client few
  rw [after_spawn] at present
  rw [history_spawn] at once cancels ⊢
  exact Connection.unreadable_of_cancel _ _ _ once present pumps cancels

/-- A client reads every response if its codec reads what it has written. -/
theorem readable_of_faithful (faithful : codec.Faithful) (streamId : UInt64) :
    ¬ Connection.Unreadable codec ((spawn peer codec config).history .client actions) streamId := by
  rintro ⟨envelope, error, takes, fails⟩
  have sent := (taken_prefix_sent peer codec config .client actions).mem takes
  rw [history_spawn] at sent
  rcases Connection.encoded_of_next _ _ _ _ _ sent with ⟨message, encodes⟩
  rcases MessageCodec.exists_decode faithful encodes with ⟨restored, decodes⟩
  cases decodes.symm.trans fails

/-- What is known of the credits of a producer that runs in a call that goes on. -/
structure Accounted (config : Side → Config) (start : Link) (actions : List Action) (sender : Side)
    (producer : Producer) : Prop where
  /-- A credit that does not circulate went with a message that is lost. -/
  account : circulating (start.after actions) sender producer +
    start.lostOn actions sender.other producer.streamId = window config sender
  /-- Only requests get lost, and only after a response that the client could not read. -/
  lost : start.lostOn actions sender.other producer.streamId ≠ 0 →
    sender = .client ∧ Connection.Unreadable start.client.codec (start.history .client actions)
      producer.streamId
  /-- So none is lost where the codec reads what it has written. -/
  conserved : start.client.codec.Faithful →
    circulating (start.after actions) sender producer = window config sender

theorem accounted_of_goesOn {sender : Side} {number : Nat} {producer : Producer}
    (few : Connection.calls ((spawn peer codec config).sideActions .client actions) < 2 ^ 63)
    (present :
      (((spawn peer codec config).after actions).connection sender).producers[number]? =
        some producer)
    (pumps : producer.phase = .waiting ∨ producer.phase = .pulling)
    (goesOn : GoesOn (spawn peer codec config) actions sender producer.streamId) :
    Accounted config (spawn peer codec config) actions sender producer := by
  have account := circulating_of_held peer codec config few present pumps goesOn.running
    (pulledOn_add_buffered peer codec config few
      (Connection.producerPart_of_present present) pumps goesOn)
  have lost (losses : (spawn peer codec config).lostOn actions sender.other
      producer.streamId ≠ 0) :
      sender = .client ∧ Connection.Unreadable codec
        ((spawn peer codec config).history .client actions) producer.streamId := by
    rcases cancel_of_lost peer codec config losses with ⟨rfl, cancels⟩
    have running : producer.phase ≠ .ended := by
      rcases pumps with waits | pulls <;> simp [*]
    exact ⟨rfl, unreadable_of_cancel peer codec config few present running cancels⟩
  refine ⟨account, lost, fun faithful => ?_⟩
  have lossless : (spawn peer codec config).lostOn actions sender.other producer.streamId = 0 := by
    by_contra losses
    exact readable_of_faithful peer codec config faithful _ (lost losses).2
  rw [← account, lossless, Nat.add_zero]

/--
Credits are accounted for.  As long as a producer runs and its call goes on, the credits of its
direction add up to the window of its side, but for those of requests that the server passes over
since the client has cancelled the call.  No consumer counts as many messages as it grants at once,
and whatever has become of the call, the sender is never further ahead of the consumer than its
window.
-/
theorem credits_accounted_for
    (few : Connection.calls ((spawn peer codec config).sideActions .client actions) < 2 ^ 63) :
    (∀ sender (number : Nat) producer,
      (((spawn peer codec config).after actions).connection sender).producers[number]? =
          some producer →
        producer.phase = .waiting ∨ producer.phase = .pulling →
        GoesOn (spawn peer codec config) actions sender producer.streamId →
        Accounted config (spawn peer codec config) actions sender producer) ∧
      (∀ side (number : Nat) stream,
        (((spawn peer codec config).after actions).connection side).inbound[number]? =
            some stream →
          stream.consumed < threshold config side) ∧
      (∀ side streamId count,
        .requestN streamId count ∈
            Connection.sent ((spawn peer codec config).history side actions) →
          count.toNat = threshold config side) ∧
      (∀ sender (number : Nat) producer,
        (((spawn peer codec config).after actions).connection sender).producers[number]? =
            some producer →
          nexts producer.streamId
              (Connection.sent ((spawn peer codec config).history sender actions)) ≤
            window config sender +
              (spawn peer codec config).pulledOn actions sender.other producer.streamId) := by
  refine ⟨?_, ?_, ?_, ?_⟩
  · intro sender number producer present pumps goesOn
    exact accounted_of_goesOn peer codec config few present pumps goesOn
  · intro side number stream present
    exact (consumed_add_granted peer codec config few present).1
  · intro side streamId count member
    have listed := member
    rw [history_spawn] at listed
    rcases Connection.stream_of_grant _ _ _ _ _ listed with ⟨stream, among, rfl⟩
    rw [← after_spawn] at among
    rcases List.getElem?_of_mem among with ⟨number, present⟩
    rw [(consumed_add_granted peer codec config few present).2.2 count member,
      UInt32.toNat_ofNat', Nat.mod_eq_of_lt (threshold_lt config side)]
  · intro sender number producer present
    rcases pledge_add_nexts peer codec config few
      (Connection.producerPart_of_present present) with ⟨pledged, small, bound, -⟩
    have heard := granted_le_of_prefix producer.streamId
      (taken_prefix_sent peer codec config sender actions)
    have paid := counted_add_granted peer codec config sender.other few producer.streamId
    dsimp only at bound
    omega

end

theorem oneMessage_accounted :
    Connection.calls (usual.sideActions .client oneMessage) < 2 ^ 63 ∧
      GoesOn usual oneMessage .server 1 ∧
      Accounted (fun _ => .standard) usual oneMessage .server ⟨1, 31, .waiting⟩ := by
  have few : Connection.calls (usual.sideActions .client oneMessage) < 2 ^ 63 := by
    decide +kernel
  have present : ((usual.after oneMessage).connection .server).producers[0]? =
      some ⟨1, 31, .waiting⟩ := by
    decide +kernel
  have goesOn : GoesOn usual oneMessage .server 1 := by
    refine ⟨⟨fun side => ?_, by decide +kernel⟩, by decide +kernel⟩
    cases side <;> decide +kernel
  exact ⟨few, goesOn, (credits_accounted_for _ _ _ few).1 .server 0 _ present (.inl rfl) goesOn⟩

/-- JSON headers of which the reader takes a single one. -/
def singleHeader : HeaderCodec :=
  { Codec.jsonHeaders .byKey with
    decode := fun bytes => do
      let headers ← (Codec.jsonHeaders .byKey).decode bytes
      if headers.size ≤ 1 then return headers else throw (.badRequest "Too many headers") }

/-- A link with four credits, whose sides do not read all that they write. -/
def selective : Link :=
  spawn (fun _ => "peer") (.ofRegistry (CodecRegistry.withJson.registerHeaders singleHeader))
    fun _ => { Config.standard with streamWindow := 4 }

/-- A channel whose client cannot read the first response, and then sends one more request. -/
def unreadResponse : List Action :=
  [.act .client (.requestChannel (some (.ok (Message.blank.withQualifier "Greeting/chat")))),
    .transmit .client, .deliver .server, .act .server (.takeCredit 0),
    .act .server (.produce 0
      (.item (.ok ((Message.blank.withQualifier "Greeting/chat").withStreamId "1")))),
    .transmit .server, .deliver .client, .transmit .client, .deliver .server,
    .act .client (.takeCredit 0),
    .act .client (.produce 0 (.item (.ok (Message.blank.withQualifier "Greeting/chat")))),
    .transmit .client, .deliver .server]

/-- Not every credit of a call that goes on circulates: the request that comes after the cancellation
is lost, and its credit with it. -/
theorem unreadResponse_loses :
    Connection.calls (selective.sideActions .client unreadResponse) < 2 ^ 63 ∧
      ((selective.after unreadResponse).connection .client).producers = [⟨1, 3, .waiting⟩] ∧
      GoesOn selective unreadResponse .client 1 ∧
      (∀ side, (selective.after unreadResponse).underway side = []) ∧
      (∀ stream ∈ ((selective.after unreadResponse).connection .server).inbound,
        stream.isDone = false) ∧
      circulating (selective.after unreadResponse) .client ⟨1, 3, .waiting⟩ = 3 ∧
      window (fun _ => { Config.standard with streamWindow := 4 }) .client = 4 := by
  refine ⟨by decide +kernel, by decide +kernel, ?_, fun side => ?_, by decide +kernel,
    by decide +kernel, by decide +kernel⟩
  · refine ⟨⟨fun side => ?_, by decide +kernel⟩, by decide +kernel⟩
    cases side <;> decide +kernel
  · rw [← List.isEmpty_iff]
    cases side <;> decide +kernel

end Link

end ServiceMesh
