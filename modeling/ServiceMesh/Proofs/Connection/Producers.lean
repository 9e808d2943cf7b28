import ServiceMesh.Proofs.Connection.Identity

/-!
# A producer by itself

As long as its stream id belongs to no other call, a producer is a small machine of its own, as an
inbound stream is.  It is granted credits and takes them, its source gives signals, its peer or its
own side stops it, and all of this makes it queue the content of its call.

The main statement is `producerPart_perform`: a connection runs this machine on the events of the
producer, whatever else happens on it.
-/

namespace ServiceMesh

/-- Whether a frame is what the producer of a call sends to the receiver. -/
def Frame.isContent (streamId : UInt64) : Frame → Bool
  | .next id _ | .complete id | .error id _ _ => id = streamId
  | _ => false

theorem Frame.streamId_of_isContent {streamId : UInt64} {frame : Frame}
    (content : frame.isContent streamId = true) :
    frame.streamId = streamId := by
  cases frame with
  | next _ _ | complete _ | error _ _ _ => exact of_decide_eq_true content
  | _ => cases content

/-- What happens to a producer. -/
inductive ProducerEvent where
  /-- The receiver grants credits. -/
  | granted (count : UInt32)
  /-- The call is cancelled, or the connection is closed. -/
  | stopped
  /-- The producer looks for a credit. -/
  | credited
  /-- The source gives a signal; what it makes may be taken by the writer. -/
  | gave (signal : Signal (Outcome Message)) (isTaken : Bool)
  /-- The handler of a single request comes to its end. -/
  | answered (result : Outcome Message)

/-- A producer, and whether its call can still be stopped. -/
structure ProducerPart where
  /-- The producer. -/
  producer : Producer
  /-- Whether the call leads to the producer. -/
  isListed : Bool

namespace ProducerPart

/-- The producer that takes no further step. -/
def stop (part : ProducerPart) : ProducerPart :=
  ⟨{ part.producer with phase := .ended }, false⟩

/-- The producer after it has taken a credit. -/
def pull (part : ProducerPart) : ProducerPart :=
  { part with
    producer := { part.producer with
      credits := part.producer.credits - 1
      phase := .pulling } }

/-- The producer that waits for the next credit. -/
def await (part : ProducerPart) : ProducerPart :=
  { part with producer := { part.producer with phase := .waiting } }

/-- The producer with more credits. -/
def grant (count : UInt32) (part : ProducerPart) : ProducerPart :=
  { part with
    producer := { part.producer with credits := part.producer.credits + count.toNat } }

/-- The producer after an event. -/
def step (codec : MessageCodec) (part : ProducerPart) : ProducerEvent → ProducerPart
  | .granted count => if part.isListed then part.grant count else part
  | .stopped => if part.isListed then part.stop else part
  | .credited =>
    if part.producer.phase = .waiting ∧ 0 < part.producer.credits then part.pull else part
  | .gave signal isTaken =>
    if part.producer.phase = .pulling then
      match Connection.frameFor codec part.producer.streamId signal with
      | none => part
      | some (_, isLast) => if isLast || !isTaken then part.stop else part.await
    else part
  | .answered _ => if part.producer.phase = .answering then part.stop else part

/-- The producer after an event, if there is one. -/
def advance (codec : MessageCodec) (part : ProducerPart) :
    Option ProducerEvent → ProducerPart
  | none => part
  | some event => part.step codec event

/-- What the source gives at an event. -/
def gives (part : ProducerPart) : ProducerEvent → Option (Signal (Outcome Message))
  | .gave signal _ =>
    if part.producer.phase = .pulling then
      match signal with
      | .pending => none
      | signal => some signal
    else none
  | _ => none

/-- The content that an event makes the producer queue. -/
def posts (codec : MessageCodec) (part : ProducerPart) : ProducerEvent → List Frame
  | .gave signal _ =>
    if part.producer.phase = .pulling then
      ((Connection.frameFor codec part.producer.streamId signal).map Prod.fst).toList
    else []
  | .answered result =>
    if part.producer.phase = .answering then
      [Connection.responseFrame codec part.producer.streamId result]
    else []
  | _ => []

end ProducerPart

namespace Connection

/-- A producer of a connection by itself. -/
def producerPart (connection : Connection) (number : Nat) : Option ProducerPart :=
  (connection.producers[number]?).map (fun producer =>
    ⟨producer, connection.outbound.find? producer.streamId = some number⟩)

/-- Whether a consumer gives up the responses of a call that this side has opened. -/
def abandons (connection : Connection) (streamId : UInt64) (dropped : Nat) : Bool :=
  (connection.inbound[dropped]?).any (fun stream =>
    stream.streamId = streamId && stream.isRequester && !stream.isDone)

/-- What an action is for a producer. -/
def producerEvent (connection : Connection) (number : Nat) (action : Action) :
    Option ProducerEvent :=
  match connection.producers[number]? with
  | none => none
  | some producer =>
    match action with
    | .takeCredit taking => if taking = number then some .credited else none
    | .produce producing signal =>
      if producing = number then some (.gave signal connection.writes) else none
    | .respond responding result =>
      if responding = number then some (.answered result) else none
    | .dropInbound dropped =>
      if connection.abandons producer.streamId dropped then some .stopped else none
    | .receive frame =>
      if connection.reads ∧ frame.streamId = producer.streamId then
        match frame with
        | .cancel _ => some .stopped
        | .requestN _ count => some (.granted count)
        | _ => none
      else none
    | .close | .endReader | .endWriter => if connection.isClosed then none else some .stopped
    | _ => none

theorem producerPart_eq_some {connection : Connection} {number : Nat}
    {part : ProducerPart} :
    connection.producerPart number = some part ↔
      connection.producers[number]? = some part.producer ∧
        part.isListed =
          decide (connection.outbound.find? part.producer.streamId = some number) := by
  rw [producerPart, Option.map_eq_some_iff]
  constructor
  · rintro ⟨producer, present, rfl⟩
    exact ⟨present, rfl⟩
  · rintro ⟨present, listed⟩
    exact ⟨part.producer, present, by rw [← listed]⟩

theorem producerPart_eq_none {connection : Connection} {number : Nat} :
    connection.producerPart number = none ↔ connection.producers.length ≤ number := by
  rw [producerPart, Option.map_eq_none_iff, List.getElem?_eq_none_iff]

theorem producerPart_of_present {connection : Connection} {number : Nat}
    {producer : Producer} (present : connection.producers[number]? = some producer) :
    connection.producerPart number =
      some ⟨producer, connection.outbound.find? producer.streamId = some number⟩ := by
  rw [producerPart, present, Option.map_some]

theorem producerPart_keeps {first second : Connection} {number : Nat}
    {part : ProducerPart} (present : first.producerPart number = some part)
    (keeps : KeepsOutbox part.producer.streamId first second) :
    second.producerPart number = some part := by
  rw [producerPart_eq_some] at present ⊢
  exact ⟨keeps.producers number _ present.1 rfl, by rw [keeps.listed, present.2]⟩

theorem producerPart_congr {first second : Connection}
    (same : second.outbox = first.outbox) (number : Nat) :
    second.producerPart number = first.producerPart number := by
  simp only [outbox, Prod.mk.injEq] at same
  rw [producerPart, producerPart, same.1, same.2]

theorem SoleProducer.of_outbox {first second : Connection} {number : Nat}
    {streamId : UInt64} (sole : SoleProducer first number streamId)
    (same : second.outbox = first.outbox) :
    SoleProducer second number streamId := by
  simp only [outbox, Prod.mk.injEq] at same
  intro other producer present carries
  exact sole other producer (same.2 ▸ present) carries

/-- A stream id that has one producer leads to it, or is not listed. -/
theorem SoleProducer.listed {connection : Connection} (wired : Wired connection)
    {number : Nat} {part : ProducerPart}
    (present : connection.producerPart number = some part)
    (sole : SoleProducer connection number part.producer.streamId) :
    connection.outbound.find? part.producer.streamId =
      if part.isListed then some number else none := by
  have listed := (producerPart_eq_some.mp present).2
  cases found : connection.outbound.find? part.producer.streamId with
  | none => simp [listed, found]
  | some other =>
      rcases wired.producer _ _ found with ⟨producer, atOther, carries⟩
      have same := sole other producer atOther carries
      subst same
      simp [listed, found]

/-! ## What an operation does to the producer it is about -/

section

variable {connection : Connection} {number : Nat} {part : ProducerPart}

theorem producerPart_updateProducer
    (present : connection.producerPart number = some part)
    (change : Producer → Producer)
    (same : (change part.producer).streamId = part.producer.streamId) :
    (connection.updateProducer number change).producerPart number =
      some { part with producer := change part.producer } := by
  rw [producerPart_eq_some] at present ⊢
  constructor
  · simp [updateProducer, present.1]
  · simp only [same, present.2]
    rfl

theorem producerPart_removeOutbound
    (present : connection.producerPart number = some part) :
    (connection.removeOutbound part.producer.streamId).producerPart number =
      some { part with isListed := false } := by
  rw [producerPart_eq_some] at present ⊢
  exact ⟨present.1, by simp [removeOutbound]⟩

theorem producerPart_endProducer
    (present : connection.producerPart number = some part) :
    (connection.endProducer number part.producer.streamId).producerPart number =
      some part.stop := by
  have ended := producerPart_updateProducer present
    (fun producer => { producer with phase := .ended }) rfl
  exact producerPart_removeOutbound ended

theorem producerPart_cancelOutbound (wired : Wired connection)
    (present : connection.producerPart number = some part)
    (sole : SoleProducer connection number part.producer.streamId) :
    (connection.cancelOutbound part.producer.streamId).producerPart number =
      some (if part.isListed then part.stop else part) := by
  have found := sole.listed wired present
  cases listed : part.isListed with
  | false =>
      rw [listed, if_neg (by decide)] at found
      rw [cancelOutbound_of_none found, present, if_neg (by decide)]
  | true =>
      rw [listed, if_pos rfl] at found
      rw [cancelOutbound_of_some found, if_pos rfl]
      exact producerPart_updateProducer (producerPart_removeOutbound present)
        (fun producer => { producer with phase := .ended }) rfl

theorem producerPart_takeCredit
    (present : connection.producerPart number = some part) :
    (connection.takeCredit number).producerPart number =
      some (part.step connection.codec .credited) := by
  have atNumber := (producerPart_eq_some.mp present).1
  rcases part with ⟨⟨streamId, credits, phase⟩, isListed⟩
  by_cases ready : phase = .waiting ∧ 0 < credits
  · rcases ready with ⟨rfl, some_⟩
    rcases Nat.exists_eq_add_of_lt some_ with ⟨others, rfl⟩
    rw [Nat.zero_add] at atNumber
    rw [takeCredit_of_waiting atNumber, ProducerPart.step, if_pos ⟨rfl, some_⟩]
    exact producerPart_updateProducer present _ rfl
  · have idle (producer : Producer)
        (found : connection.producers[number]? = some producer) :
        producer.phase ≠ .waiting ∨ producer.credits = 0 := by
      rw [atNumber, Option.some.injEq] at found
      subst found
      by_contra waits
      simp only [ne_eq, not_or, not_not] at waits
      exact ready ⟨waits.1, Nat.pos_of_ne_zero waits.2⟩
    rw [takeCredit_of_idle idle, present, ProducerPart.step, if_neg ready]

theorem producerPart_produce
    (present : connection.producerPart number = some part)
    (signal : Signal (Outcome Message)) :
    (connection.produce number signal).producerPart number =
      some (part.step connection.codec (.gave signal connection.writes)) := by
  have atNumber := (producerPart_eq_some.mp present).1
  rcases part with ⟨⟨streamId, credits, phase⟩, isListed⟩
  by_cases pulling : phase = .pulling
  · subst pulling
    simp only [ProducerPart.step, if_true]
    cases given : frameFor connection.codec streamId signal with
    | none => rw [produce_of_nothing atNumber given, present]
    | some sent =>
        rcases sent with ⟨frame, isLast⟩
        have posted := (producerPart_congr (outbox_post connection frame) number).trans present
        rw [produce_of_given atNumber given]
        simp only
        split
        · exact producerPart_endProducer posted
        · exact producerPart_updateProducer posted _ rfl
  · have idle (producer : Producer)
        (found : connection.producers[number]? = some producer) :
        producer.phase ≠ .pulling := by
      rw [atNumber, Option.some.injEq] at found
      exact found ▸ pulling
    rw [produce_of_idle idle, present, ProducerPart.step, if_neg pulling]

theorem producerPart_respond
    (present : connection.producerPart number = some part)
    (result : Outcome Message) :
    (connection.respond number result).producerPart number =
      some (part.step connection.codec (.answered result)) := by
  have atNumber := (producerPart_eq_some.mp present).1
  rcases part with ⟨⟨streamId, credits, phase⟩, isListed⟩
  by_cases answering : phase = .answering
  · subst answering
    rw [respond_of_answering atNumber, ProducerPart.step, if_pos rfl]
    exact producerPart_endProducer
      ((producerPart_congr (outbox_post connection _) number).trans present)
  · have idle (producer : Producer)
        (found : connection.producers[number]? = some producer) :
        producer.phase ≠ .answering := by
      rw [atNumber, Option.some.injEq] at found
      exact found ▸ answering
    rw [respond_of_idle idle, present, ProducerPart.step, if_neg answering]

theorem producerPart_receiveGrant (wired : Wired connection)
    (present : connection.producerPart number = some part)
    (sole : SoleProducer connection number part.producer.streamId) (count : UInt32) :
    (connection.receiveGrant part.producer.streamId count).producerPart number =
      some (part.step connection.codec (.granted count)) := by
  have found := sole.listed wired present
  cases listed : part.isListed with
  | false =>
      rw [listed, if_neg (by decide)] at found
      simp [receiveGrant, found, present, ProducerPart.step, listed]
  | true =>
      rw [listed, if_pos rfl] at found
      have granted := producerPart_updateProducer present
        (fun producer => { producer with credits := producer.credits + count.toNat }) rfl
      simp only [receiveGrant, found, ProducerPart.step, listed, if_true]
      split
      · exact granted
      · exact (producerPart_congr rfl number).trans granted

theorem producerPart_dropInbound (wired : Wired connection)
    (present : connection.producerPart number = some part)
    (sole : SoleProducer connection number part.producer.streamId) (dropped : Nat) :
    (connection.dropInbound dropped).producerPart number =
      some (part.advance connection.codec
        (connection.producerEvent number (.dropInbound dropped))) := by
  have atNumber := (producerPart_eq_some.mp present).1
  have event : connection.producerEvent number (.dropInbound dropped) =
      if connection.abandons part.producer.streamId dropped then some .stopped else none := by
    simp [producerEvent, atNumber]
  rw [event]
  cases found : connection.inbound[dropped]? with
  | none => simpa [dropInbound, abandons, found, ProducerPart.advance] using present
  | some stream =>
      cases done : stream.isDone with
      | true => simpa [dropInbound, abandons, found, done, ProducerPart.advance] using present
      | false =>
          have left : ((connection.cancelSink stream.streamId).updateInbound dropped
              (fun stream => { stream with isDone := true })).producerPart number =
              some part :=
            (producerPart_congr (outbox_cancelSink connection stream.streamId) number).trans
              present
          have narrows := (narrows_cancelSink connection stream.streamId).trans
            (narrows_updateInbound _ dropped
              (fun stream => { stream with isDone := true }) fun _ => ⟨rfl, rfl⟩)
          simp only [dropInbound, abandons, found, done, Bool.false_eq_true, if_false,
            Option.any_some, Bool.not_false, Bool.and_true]
          cases requests : stream.isRequester with
          | false => simpa [ProducerPart.advance] using left
          | true =>
              by_cases same : stream.streamId = part.producer.streamId
              · simp only [if_true, same, decide_true, Bool.and_true, ProducerPart.advance,
                  ProducerPart.step]
                rw [same] at left narrows
                exact producerPart_cancelOutbound (wired.narrows narrows) left
                  (sole.of_outbox (outbox_cancelSink _ _))
              · simp only [if_true, same, decide_false, Bool.and_true, Bool.false_eq_true,
                  if_false, ProducerPart.advance]
                exact producerPart_keeps left
                  (keepsOutbox_cancelOutbound (wired.narrows narrows) same)

theorem producerPart_receive (wired : Wired connection)
    (present : connection.producerPart number = some part) {frame : Frame}
    (about : frame.streamId = part.producer.streamId)
    (settled : (Action.receive frame).mayAdd = false)
    (sole : SoleProducer connection number part.producer.streamId) :
    (connection.receive frame).2.producerPart number =
      some (part.advance connection.codec
        (connection.producerEvent number (.receive frame))) := by
  have atNumber := (producerPart_eq_some.mp present).1
  cases reading : connection.reads with
  | false =>
      rw [receive_stopped reading, present]
      simp [producerEvent, atNumber, reading, ProducerPart.advance]
  | true =>
      have kept {later : Connection} (same : later.outbox = connection.outbox) :
          later.producerPart number = some part :=
        (producerPart_congr same number).trans present
      simp only [producerEvent, atNumber, reading, about, and_self, if_true]
      cases frame with
      | request mode streamId envelope => simp [Action.mayAdd] at settled
      | next streamId envelope =>
          rw [receive_next reading]
          exact kept (outbox_receiveNext _ _ _)
      | complete streamId =>
          rw [receive_complete reading]
          exact kept rfl
      | error streamId code text =>
          rw [receive_error reading]
          exact kept (outbox_failSink _ _ _)
      | cancel streamId =>
          rw [Frame.streamId] at about
          subst about
          have stopped := producerPart_cancelOutbound wired present sole
          cases side : connection.role with
          | client =>
              rw [receive_cancel_client reading side]
              exact stopped
          | server =>
              rw [receive_cancel_server reading side]
              exact (producerPart_congr rfl number).trans stopped
      | requestN streamId count =>
          rw [Frame.streamId] at about
          subst about
          rw [receive_requestN reading]
          exact producerPart_receiveGrant wired present sole count

theorem producerPart_close (wired : Wired connection)
    (present : connection.producerPart number = some part)
    (sole : SoleProducer connection number part.producer.streamId)
    (running : connection.isClosed = false) :
    connection.close.producerPart number =
      some (part.step connection.codec .stopped) := by
  have stopped := producerPart_cancelOutbound wired present sole
  have carries :
      (if part.isListed then part.stop else part).producer.streamId =
        part.producer.streamId := by
    split <;> rfl
  have kept := keepsOutbox_close wired running part.producer.streamId
  rw [← carries] at kept
  exact producerPart_keeps (carries ▸ stopped) (carries ▸ kept)

/-! ## What an action does to a producer -/

theorem producerEvent_of_apart
    (present : connection.producerPart number = some part) {action : Action}
    (apart : ¬ ConcernsOutbox connection part.producer.streamId action) :
    connection.producerEvent number action = none := by
  have atNumber := (producerPart_eq_some.mp present).1
  cases action with
  | takeCredit taking =>
      have other : taking ≠ number := by
        rintro rfl
        exact apart ⟨part.producer, atNumber, rfl⟩
      simp [producerEvent, atNumber, other]
  | produce producing signal =>
      have other : producing ≠ number := by
        rintro rfl
        exact apart ⟨part.producer, atNumber, rfl⟩
      simp [producerEvent, atNumber, other]
  | respond responding result =>
      have other : responding ≠ number := by
        rintro rfl
        exact apart ⟨part.producer, atNumber, rfl⟩
      simp [producerEvent, atNumber, other]
  | dropInbound dropped =>
      have stays : connection.abandons part.producer.streamId dropped = false := by
        cases found : connection.inbound[dropped]? with
        | none => simp [abandons, found]
        | some stream =>
            have other : stream.streamId ≠ part.producer.streamId :=
              fun carries => apart ⟨stream, found, carries⟩
            simp [abandons, found, other]
      simp [producerEvent, atNumber, stays]
  | receive frame =>
      have other : frame.streamId ≠ part.producer.streamId := apart
      simp [producerEvent, atNumber, other]
  | close | endReader | endWriter => simpa [producerEvent, atNumber, ConcernsOutbox] using apart
  | _ => simp [producerEvent, atNumber]

theorem producerEvent_of_adds
    (present : connection.producerPart number = some part) {action : Action}
    (adds : action.mayAdd = true) :
    connection.producerEvent number action = none := by
  have atNumber := (producerPart_eq_some.mp present).1
  cases action with
  | receive frame =>
      cases frame with
      | request mode streamId envelope => simp [producerEvent, atNumber]
      | _ => simp [Action.mayAdd, Action.opensCall] at adds
  | fireAndForget _ | requestResponse _ | requestStream _ | requestChannel _ =>
      simp [producerEvent, atNumber]
  | _ => simp [Action.mayAdd, Action.opensCall] at adds

/-- No producer comes to be under the stream id of one that has no other beside it. -/
theorem SoleProducer.outbox {action : Action} {streamId : UInt64} {producer : Producer}
    (sole : SoleProducer (connection.perform action).2 number streamId)
    (wired : Wired connection)
    (present : connection.producers[number]? = some producer)
    (concerned : ConcernsOutbox connection streamId action)
    (adds : action.mayAdd = true) :
    (connection.perform action).2.outbox = connection.outbox := by
  rcases outbox_perform wired action with same | ⟨_, added, opened⟩
  · exact same adds
  · have same := opened.origin.eq_of_concernsOutbox concerned
    have carries : added.streamId = streamId := opened.carries.trans same
    have before := (List.getElem?_eq_some_iff.mp present).1
    have last := sole connection.producers.length added (by simp [opened.producers]) carries
    omega

/-- An action does to a producer what its event does. -/
theorem producerPart_perform (wired : Wired connection)
    (present : connection.producerPart number = some part) (action : Action)
    (sole : SoleProducer (connection.perform action).2 number part.producer.streamId) :
    (connection.perform action).2.producerPart number =
      some (part.advance connection.codec (connection.producerEvent number action)) := by
  have atNumber := (producerPart_eq_some.mp present).1
  have before := sole.earlier (extends_perform wired action).1
  by_cases concerned : ConcernsOutbox connection part.producer.streamId action
  · cases action with
    | requestChannel first =>
        have same := sole.outbox wired atNumber concerned rfl
        rw [producerEvent_of_adds present rfl]
        exact (producerPart_congr same number).trans present
    | dropInbound dropped => exact producerPart_dropInbound wired present before dropped
    | takeCredit taking =>
        rcases concerned with ⟨producer, atTaking, carries⟩
        have same := before taking producer atTaking carries
        subst same
        have event : connection.producerEvent taking (.takeCredit taking) =
            some .credited := by
          simp [producerEvent, atNumber]
        rw [event]
        exact producerPart_takeCredit present
    | produce producing signal =>
        rcases concerned with ⟨producer, atProducing, carries⟩
        have same := before producing producer atProducing carries
        subst same
        have event : connection.producerEvent producing (.produce producing signal) =
            some (.gave signal connection.writes) := by
          simp [producerEvent, atNumber]
        rw [event]
        exact producerPart_produce present signal
    | respond responding result =>
        rcases concerned with ⟨producer, atResponding, carries⟩
        have same := before responding producer atResponding carries
        subst same
        have event : connection.producerEvent responding (.respond responding result) =
            some (.answered result) := by
          simp [producerEvent, atNumber]
        rw [event]
        exact producerPart_respond present result
    | receive frame =>
        cases adds : (Action.receive frame).mayAdd with
        | false => exact producerPart_receive wired present concerned adds before
        | true =>
            have same := sole.outbox wired atNumber concerned adds
            rw [producerEvent_of_adds present adds]
            exact (producerPart_congr same number).trans present
    | close | endReader | endWriter =>
        have running : connection.isClosed = false := concerned
        simp only [producerEvent, atNumber, running, Bool.false_eq_true, if_false]
        exact (producerPart_congr rfl number).trans
          (producerPart_close wired present before running)
    | _ => exact concerned.elim
  · rw [producerEvent_of_apart present concerned, ProducerPart.advance]
    exact producerPart_keeps present (keepsOutbox_perform wired concerned)

/-- What the source of a producer gives at an action is what it gives at its event. -/
theorem given_eq_gives (present : connection.producerPart number = some part)
    (action : Action) :
    Step.given number ⟨connection, action⟩ =
      (connection.producerEvent number action).bind part.gives := by
  have atNumber := (producerPart_eq_some.mp present).1
  cases action with
  | produce producing signal =>
      by_cases same : producing = number
      · subst same
        by_cases pulls : part.producer.phase = .pulling <;> cases signal <;>
          simp [Step.given, producerEvent, atNumber, ProducerPart.gives, pulls]
      · simp [Step.given, producerEvent, atNumber, same]
  | takeCredit taking =>
      by_cases same : taking = number <;>
        simp [Step.given, producerEvent, atNumber, same, ProducerPart.gives]
  | respond responding result =>
      by_cases same : responding = number <;>
        simp [Step.given, producerEvent, atNumber, same, ProducerPart.gives]
  | dropInbound dropped =>
      cases stays : connection.abandons part.producer.streamId dropped <;>
        simp [Step.given, producerEvent, atNumber, stays, ProducerPart.gives]
  | receive frame =>
      simp only [Step.given, producerEvent, atNumber]
      split
      · cases frame <;> rfl
      · rfl
  | close | endReader | endWriter =>
      cases running : connection.isClosed <;>
        simp [Step.given, producerEvent, atNumber, running, ProducerPart.gives]
  | _ => simp [Step.given, producerEvent, atNumber]

/-! ## The content of a producer -/

theorem Framed.isContent {codec : MessageCodec} {streamId other : UInt64}
    {signal : Signal (Outcome Message)} {frame : Frame} {isLast : Bool}
    (framed : Framed codec other signal frame isLast) :
    frame.isContent streamId = decide (other = streamId) := by
  cases framed <;> rfl

/-- Who opens a call sends no content with it. -/
theorem content_sends_of_opensCall {action : Action} (opens : action.opensCall = true)
    (streamId : UInt64) :
    (connection.sends action).filter (Frame.isContent streamId) = [] := by
  rw [List.filter_eq_nil_iff]
  intro frame member content
  cases reason_of_mem member with
  | opening => cases content
  | _ => cases opens

/-- Apart from its producers, a connection sends content only to refuse a request. -/
theorem content_sends_of_ne {streamId : UInt64} {action : Action}
    (producers : ∀ (other : Nat) producer,
      (∃ signal, action = .produce other signal) ∨ (∃ result, action = .respond other result) →
        connection.producers[other]? = some producer → producer.streamId ≠ streamId)
    (accepts : Step.claimed ⟨connection, action⟩ ≠ some streamId) :
    (connection.sends action).filter (Frame.isContent streamId) = [] := by
  rw [List.filter_eq_nil_iff]
  intro frame member content
  cases reason_of_mem member with
  | signal present framed =>
      rw [framed.isContent, decide_eq_true_iff] at content
      exact producers _ _ (.inl ⟨_, rfl⟩) present content
  | response present framed =>
      rw [framed.isContent, decide_eq_true_iff] at content
      exact producers _ _ (.inr ⟨_, rfl⟩) present content
  | refusal _ reading serves =>
      exact accepts ((if_pos ⟨reading, serves⟩).trans (congrArg some (of_decide_eq_true content)))
  | opening | reply | stream | grant | unreadable => cases content

/-- The content that an action sends for a producer is what the producer posts at its event, unless
the action is a request of the same stream id. -/
theorem content_sends (present : connection.producerPart number = some part)
    (sole : SoleProducer connection number part.producer.streamId) {action : Action}
    (accepts : Step.claimed ⟨connection, action⟩ ≠ some part.producer.streamId) :
    (connection.sends action).filter (Frame.isContent part.producer.streamId) =
      (connection.producerEvent number action).elim []
        (part.posts connection.codec) := by
  have atNumber := (producerPart_eq_some.mp present).1
  have elsewhere {producing : Nat} (other : producing ≠ number) (producer : Producer)
      (atProducing : connection.producers[producing]? = some producer) :
      producer.streamId ≠ part.producer.streamId :=
    fun carries => other (sole producing producer atProducing carries)
  cases action with
  | produce producing signal =>
      by_cases same : producing = number
      · subst same
        rcases part with ⟨⟨streamId, credits, phase⟩, isListed⟩
        have event : connection.producerEvent producing (.produce producing signal) =
            some (.gave signal connection.writes) := by
          simp [producerEvent, atNumber]
        rw [event]
        simp only [Option.elim_some, ProducerPart.posts, sends, atNumber]
        cases phase with
        | pulling =>
            simp only [if_true]
            cases given : frameFor connection.codec streamId signal with
            | none => rfl
            | some sent => simp [(frameFor_eq_some_iff.mp given).isContent]
        | _ => simp
      · have event : connection.producerEvent number (.produce producing signal) = none := by
          simp [producerEvent, atNumber, same]
        rw [event]
        refine content_sends_of_ne ?_ accepts
        intro other producer taken present'
        rcases taken with ⟨signal, taken⟩ | ⟨result, taken⟩ <;> cases taken
        exact elsewhere same producer present'
  | respond responding result =>
      by_cases same : responding = number
      · subst same
        rcases part with ⟨⟨streamId, credits, phase⟩, isListed⟩
        have event : connection.producerEvent responding (.respond responding result) =
            some (.answered result) := by
          simp [producerEvent, atNumber]
        rw [event]
        simp only [Option.elim_some, ProducerPart.posts, sends, atNumber]
        cases phase with
        | answering =>
            rcases framed_responseFrame connection.codec streamId result with ⟨_, framed⟩
            simp [framed.isContent]
        | _ => simp
      · have event : connection.producerEvent number (.respond responding result) = none := by
          simp [producerEvent, atNumber, same]
        rw [event]
        refine content_sends_of_ne ?_ accepts
        intro other producer taken present'
        rcases taken with ⟨signal, taken⟩ | ⟨result, taken⟩ <;> cases taken
        exact elsewhere same producer present'
  | _ =>
      rw [content_sends_of_ne (by simp) accepts]
      simp only [producerEvent, atNumber]
      repeat' split
      all_goals rfl

end

end Connection

end ServiceMesh
