import ServiceMesh.Proofs.Connection.Wiring

/-!
# Calls are kept apart

A connection has two halves.  The inbox takes what arrives for its calls: their sinks, the replies
that are waited for and the inbound streams.  The outbox sends what its calls give: the producers.
Most operations touch one half only.

An operation on one call leaves what belongs to another call as it is (`KeepsInbox`, `KeepsOutbox`).
The main statements are `keepsInbox_perform` and `keepsOutbox_perform`: an action that does not
concern a call keeps its part of either half.
-/

namespace ServiceMesh.Connection

/-- What takes the frames that arrive for calls. -/
def inbox (connection : Connection) :
    Table UInt64 Sink × List PendingReply × List InboundStream :=
  (connection.sinks, connection.replies, connection.inbound)

/-- What sends the frames of calls. -/
def outbox (connection : Connection) : Table UInt64 Nat × List Producer :=
  (connection.outbound, connection.producers)

/-! ## Operations on one half -/

@[simp]
theorem inbox_post (connection : Connection) (frame : Frame) :
    (connection.post frame).inbox = connection.inbox := by
  simp [post_eq, inbox]

@[simp]
theorem outbox_post (connection : Connection) (frame : Frame) :
    (connection.post frame).outbox = connection.outbox := by
  simp [post_eq, outbox]

@[simp]
theorem outbox_deliverTo (connection : Connection) (sink : Sink)
    (item : Outcome Message) :
    (connection.deliverTo sink item).outbox = connection.outbox := by
  cases sink <;> rfl

@[simp]
theorem outbox_failSink (connection : Connection) (streamId : UInt64)
    (error : CallError) :
    (connection.failSink streamId error).outbox = connection.outbox := by
  cases sink : connection.sinks.find? streamId with
  | none => rw [failSink_of_none sink]
  | some found =>
      rw [failSink_of_some sink, outbox_deliverTo]
      rfl

@[simp]
theorem outbox_cancelSink (connection : Connection) (streamId : UInt64) :
    (connection.cancelSink streamId).outbox = connection.outbox := by
  rw [cancelSink_eq]
  rfl

@[simp]
theorem inbox_cancelOutbound (connection : Connection) (streamId : UInt64) :
    (connection.cancelOutbound streamId).inbox = connection.inbox := by
  cases listed : connection.outbound.find? streamId with
  | none => rw [cancelOutbound_of_none listed]
  | some number =>
      rw [cancelOutbound_of_some listed]
      rfl

@[simp]
theorem outbox_pollReply (connection : Connection) (number : Nat) :
    (connection.pollReply number).2.outbox = connection.outbox := by
  simp only [pollReply]
  repeat' split
  all_goals rfl

@[simp]
theorem outbox_dropReply (connection : Connection) (number : Nat) :
    (connection.dropReply number).outbox = connection.outbox := by
  simp only [dropReply]
  repeat' split
  · rfl
  · rfl
  · exact outbox_cancelSink _ _

@[simp]
theorem outbox_pullInbound (connection : Connection) (number : Nat) :
    (connection.pullInbound number).2.outbox = connection.outbox := by
  simp only [pullInbound, replenish]
  repeat' split
  all_goals first
    | rfl
    | exact outbox_post _ _

@[simp]
theorem inbox_takeCredit (connection : Connection) (number : Nat) :
    (connection.takeCredit number).inbox = connection.inbox := by
  simp only [takeCredit]
  split <;> rfl

@[simp]
theorem inbox_produce (connection : Connection) (number : Nat)
    (signal : Signal (Outcome Message)) :
    (connection.produce number signal).inbox = connection.inbox := by
  simp only [produce, send_eq]
  repeat' split
  all_goals first
    | rfl
    | exact inbox_post _ _

@[simp]
theorem inbox_respond (connection : Connection) (number : Nat)
    (result : Outcome Message) :
    (connection.respond number result).inbox = connection.inbox := by
  simp only [respond]
  split
  · exact inbox_post _ _
  · rfl

@[simp]
theorem outbox_receiveNext (connection : Connection) (streamId : UInt64)
    (envelope : Envelope) :
    (connection.receiveNext streamId envelope).outbox = connection.outbox := by
  simp only [receiveNext]
  split
  · rfl
  · rfl
  · rfl
  · rw [outbox_post, outbox_failSink]

@[simp]
theorem inbox_receiveGrant (connection : Connection) (streamId : UInt64)
    (count : UInt32) :
    (connection.receiveGrant streamId count).inbox = connection.inbox := by
  simp only [receiveGrant]
  repeat' split
  all_goals rfl

@[simp]
theorem inbox_write (connection : Connection) :
    connection.write.2.inbox = connection.inbox := by
  simp only [write, transmit]
  cases connection.queue <;> rfl

@[simp]
theorem outbox_write (connection : Connection) :
    connection.write.2.outbox = connection.outbox := by
  simp only [write, transmit]
  cases connection.queue <;> rfl

@[simp]
theorem inbox_fireAndForget (connection : Connection) (message : Message) :
    (connection.fireAndForget message).2.inbox = connection.inbox := by
  simp only [fireAndForget, send_eq]
  split
  · rfl
  · split <;> (rename_i sent; rw [Prod.mk.injEq] at sent; rw [← sent.2, inbox_post]; rfl)

@[simp]
theorem outbox_fireAndForget (connection : Connection) (message : Message) :
    (connection.fireAndForget message).2.outbox = connection.outbox := by
  simp only [fireAndForget, send_eq]
  split
  · rfl
  · split <;> (rename_i sent; rw [Prod.mk.injEq] at sent; rw [← sent.2, outbox_post]; rfl)

@[simp]
theorem inbox_reject (connection : Connection) (mode : Mode) (streamId : UInt64)
    (error : CallError) :
    (connection.reject mode streamId error).inbox = connection.inbox := by
  simp only [reject]
  split
  · rfl
  · exact inbox_post _ _

@[simp]
theorem outbox_reject (connection : Connection) (mode : Mode) (streamId : UInt64)
    (error : CallError) :
    (connection.reject mode streamId error).outbox = connection.outbox := by
  simp only [reject]
  split
  · rfl
  · exact outbox_post _ _

theorem outbox_requestResponse {connection : Connection} (wired : Wired connection)
    (message : Message) :
    (connection.requestResponse message).2.outbox = connection.outbox := by
  rcases requestResponse_cases wired message with
    ⟨_, _, equal⟩ | ⟨_, _, _, equal⟩ | ⟨_, _, _, equal⟩ <;> rw [equal] <;> rfl

theorem outbox_openStream {connection : Connection} (wired : Wired connection)
    (mode : Mode) (message : Message) :
    (connection.openStream mode message).2.outbox = connection.outbox := by
  rcases openStream_cases wired mode message with
    ⟨_, _, equal⟩ | ⟨_, _, _, equal⟩ | ⟨_, _, _, equal⟩ <;> rw [equal] <;> rfl

/-! ## Operations on another call -/

/-- What takes the frames of a call is the same later. -/
structure KeepsInbox (streamId : UInt64) (first second : Connection) : Prop where
  sink : second.sinks.find? streamId = first.sinks.find? streamId
  replies : ∀ (number : Nat) reply, first.replies[number]? = some reply →
    reply.streamId = streamId → second.replies[number]? = some reply
  inbound : ∀ (number : Nat) stream, first.inbound[number]? = some stream →
    stream.streamId = streamId → second.inbound[number]? = some stream

/-- What sends the frames of a call is the same later. -/
structure KeepsOutbox (streamId : UInt64) (first second : Connection) : Prop where
  listed : second.outbound.find? streamId = first.outbound.find? streamId
  producers : ∀ (number : Nat) producer, first.producers[number]? = some producer →
    producer.streamId = streamId → second.producers[number]? = some producer

theorem KeepsInbox.of_eq {streamId : UInt64} {first second : Connection}
    (same : second.inbox = first.inbox) :
    KeepsInbox streamId first second := by
  simp only [inbox, Prod.mk.injEq] at same
  rcases same with ⟨sinks, replies, inbound⟩
  exact ⟨by rw [sinks], fun _ _ present _ => by rw [replies, present],
    fun _ _ present _ => by rw [inbound, present]⟩

theorem KeepsInbox.trans {streamId : UInt64} {first second third : Connection}
    (left : KeepsInbox streamId first second)
    (right : KeepsInbox streamId second third) :
    KeepsInbox streamId first third where
  sink := right.sink.trans left.sink
  replies number reply present carries :=
    right.replies number reply (left.replies number reply present carries) carries
  inbound number stream present carries :=
    right.inbound number stream (left.inbound number stream present carries) carries

theorem KeepsOutbox.of_eq {streamId : UInt64} {first second : Connection}
    (same : second.outbox = first.outbox) :
    KeepsOutbox streamId first second := by
  simp only [outbox, Prod.mk.injEq] at same
  rcases same with ⟨outbound, producers⟩
  exact ⟨by rw [outbound], fun _ _ present _ => by rw [producers, present]⟩

theorem KeepsOutbox.trans {streamId : UInt64} {first second third : Connection}
    (left : KeepsOutbox streamId first second)
    (right : KeepsOutbox streamId second third) :
    KeepsOutbox streamId first third where
  listed := right.listed.trans left.listed
  producers number producer present carries :=
    right.producers number producer (left.producers number producer present carries) carries

theorem getElem?_modify_of_apart {α : Type} {items : List α} {number other : Nat}
    {item : α} (property : α → Prop) (change : α → α)
    (apart : ∀ changed, items[number]? = some changed → ¬ property changed)
    (present : items[other]? = some item) (holds : property item) :
    (items.modify number change)[other]? = some item := by
  have different : number ≠ other := by
    intro same
    subst same
    exact apart item present holds
  rw [List.getElem?_modify_ne _ _ different, present]

theorem keepsInbox_updateReply {streamId : UInt64} {connection : Connection}
    {number : Nat} (change : PendingReply → PendingReply)
    (apart : ∀ reply, connection.replies[number]? = some reply →
      reply.streamId ≠ streamId) :
    KeepsInbox streamId connection (connection.updateReply number change) where
  sink := rfl
  replies _ _ present carries :=
    getElem?_modify_of_apart (fun reply : PendingReply => reply.streamId = streamId)
      change apart present carries
  inbound _ _ present _ := present

theorem keepsInbox_updateInbound {streamId : UInt64} {connection : Connection}
    {number : Nat} (change : InboundStream → InboundStream)
    (apart : ∀ stream, connection.inbound[number]? = some stream →
      stream.streamId ≠ streamId) :
    KeepsInbox streamId connection (connection.updateInbound number change) where
  sink := rfl
  replies _ _ present _ := present
  inbound _ _ present carries :=
    getElem?_modify_of_apart (fun stream : InboundStream => stream.streamId = streamId)
      change apart present carries

theorem keepsOutbox_updateProducer {streamId : UInt64} {connection : Connection}
    {number : Nat} (change : Producer → Producer)
    (apart : ∀ producer, connection.producers[number]? = some producer →
      producer.streamId ≠ streamId) :
    KeepsOutbox streamId connection (connection.updateProducer number change) where
  listed := rfl
  producers _ _ present carries :=
    getElem?_modify_of_apart (fun producer : Producer => producer.streamId = streamId)
      change apart present carries

theorem keepsInbox_removeSink {streamId other : UInt64} (connection : Connection)
    (apart : other ≠ streamId) :
    KeepsInbox streamId connection (connection.removeSink other) where
  sink := by simp [removeSink, Ne.symm apart]
  replies _ _ present _ := present
  inbound _ _ present _ := present

theorem keepsOutbox_removeOutbound {streamId other : UInt64} (connection : Connection)
    (apart : other ≠ streamId) :
    KeepsOutbox streamId connection (connection.removeOutbound other) where
  listed := by simp [removeOutbound, Ne.symm apart]
  producers _ _ present _ := present

theorem keepsInbox_deliverTo {streamId other : UInt64} {connection : Connection}
    (wired : Wired connection) (apart : other ≠ streamId) {sink : Sink}
    (found : connection.sinks.find? other = some sink) (item : Outcome Message) :
    KeepsInbox streamId connection (connection.deliverTo sink item) := by
  cases sink with
  | reply number =>
      apply keepsInbox_updateReply
      intro reply present
      rcases wired.reply other number found with ⟨_, present', carries⟩
      rw [present] at present'
      cases present'
      exact carries ▸ apart
  | stream number =>
      apply keepsInbox_updateInbound
      intro stream present
      rcases wired.stream other number found with ⟨_, present', carries⟩
      rw [present] at present'
      cases present'
      exact carries ▸ apart

theorem KeepsInbox.removeSink {streamId other : UInt64} {first second : Connection}
    (keeps : KeepsInbox streamId first second) (apart : other ≠ streamId) :
    KeepsInbox streamId first (second.removeSink other) :=
  keeps.trans (keepsInbox_removeSink second apart)

theorem deliverTo_removeSink (connection : Connection) (streamId : UInt64)
    (sink : Sink) (item : Outcome Message) :
    (connection.removeSink streamId).deliverTo sink item =
      (connection.deliverTo sink item).removeSink streamId := by
  cases sink <;> rfl

theorem keepsInbox_failSink {streamId other : UInt64} {connection : Connection}
    (wired : Wired connection) (apart : other ≠ streamId) (error : CallError) :
    KeepsInbox streamId connection (connection.failSink other error) := by
  cases sink : connection.sinks.find? other with
  | none =>
      rw [failSink_of_none sink]
      exact .of_eq rfl
  | some found =>
      rw [failSink_of_some sink, deliverTo_removeSink]
      exact (keepsInbox_deliverTo wired apart sink _).removeSink apart

theorem keepsInbox_cancelSink {streamId other : UInt64} (connection : Connection)
    (apart : other ≠ streamId) :
    KeepsInbox streamId connection (connection.cancelSink other) := by
  rw [cancelSink_eq]
  exact (keepsInbox_removeSink connection apart).trans (.of_eq rfl)

theorem keepsOutbox_cancelOutbound {streamId other : UInt64} {connection : Connection}
    (wired : Wired connection) (apart : other ≠ streamId) :
    KeepsOutbox streamId connection (connection.cancelOutbound other) := by
  cases listed : connection.outbound.find? other with
  | none =>
      rw [cancelOutbound_of_none listed]
      exact .of_eq rfl
  | some number =>
      rw [cancelOutbound_of_some listed]
      refine (keepsOutbox_removeOutbound connection apart).trans ?_
      apply keepsOutbox_updateProducer
      intro producer present
      rcases wired.producer other number listed with ⟨_, present', carries⟩
      have same := present.symm.trans present'
      cases same
      exact carries ▸ apart

theorem keepsInbox_pollReply {streamId : UInt64} {connection : Connection}
    {number : Nat}
    (apart : ∀ reply, connection.replies[number]? = some reply →
      reply.streamId ≠ streamId) :
    KeepsInbox streamId connection (connection.pollReply number).2 := by
  simp only [pollReply]
  repeat' split
  all_goals first
    | exact .of_eq rfl
    | exact keepsInbox_updateReply _ apart

theorem keepsInbox_dropReply {streamId : UInt64} {connection : Connection}
    {number : Nat}
    (apart : ∀ reply, connection.replies[number]? = some reply →
      reply.streamId ≠ streamId) :
    KeepsInbox streamId connection (connection.dropReply number) := by
  simp only [dropReply]
  split
  · exact .of_eq rfl
  · rename_i reply present
    split
    · exact .of_eq rfl
    · refine (keepsInbox_cancelSink connection (apart reply present)).trans ?_
      apply keepsInbox_updateReply
      rw [cancelSink_eq]
      exact apart

theorem keepsInbox_pullInbound {streamId : UInt64} {connection : Connection}
    {number : Nat}
    (apart : ∀ stream, connection.inbound[number]? = some stream →
      stream.streamId ≠ streamId) :
    KeepsInbox streamId connection (connection.pullInbound number).2 := by
  simp only [pullInbound, replenish]
  repeat' split
  all_goals first
    | exact .of_eq rfl
    | exact keepsInbox_updateInbound _ apart
    | exact (keepsInbox_updateInbound _ apart).trans (.of_eq (inbox_post _ _))

theorem keepsInbox_dropInbound {streamId : UInt64} {connection : Connection}
    {number : Nat}
    (apart : ∀ stream, connection.inbound[number]? = some stream →
      stream.streamId ≠ streamId) :
    KeepsInbox streamId connection (connection.dropInbound number) := by
  simp only [dropInbound]
  split
  · exact .of_eq rfl
  · rename_i stream present
    split
    · exact .of_eq rfl
    · have dropped : KeepsInbox streamId connection
          ((connection.cancelSink stream.streamId).updateInbound number
            (fun stream => { stream with isDone := true })) := by
        refine (keepsInbox_cancelSink connection (apart stream present)).trans ?_
        apply keepsInbox_updateInbound
        rw [cancelSink_eq]
        exact apart
      split
      · exact dropped.trans (.of_eq (inbox_cancelOutbound _ _))
      · exact dropped

theorem keepsOutbox_dropInbound {streamId : UInt64} {connection : Connection}
    (wired : Wired connection) {number : Nat}
    (apart : ∀ stream, connection.inbound[number]? = some stream →
      stream.streamId ≠ streamId) :
    KeepsOutbox streamId connection (connection.dropInbound number) := by
  simp only [dropInbound]
  split
  · exact .of_eq rfl
  · rename_i stream present
    split
    · exact .of_eq rfl
    · have narrows : Narrows connection
          ((connection.cancelSink stream.streamId).updateInbound number
            (fun stream => { stream with isDone := true })) :=
        (narrows_cancelSink _ _).trans
          (narrows_updateInbound _ _ _ fun _ => ⟨rfl, rfl⟩)
      have dropped : KeepsOutbox streamId connection
          ((connection.cancelSink stream.streamId).updateInbound number
            (fun stream => { stream with isDone := true })) :=
        .of_eq (outbox_cancelSink connection stream.streamId)
      split
      · exact dropped.trans
          (keepsOutbox_cancelOutbound (wired.narrows narrows) (apart stream present))
      · exact dropped

theorem keepsOutbox_endProducer {streamId other : UInt64} {connection : Connection}
    {number : Nat} (different : other ≠ streamId)
    (apart : ∀ producer, connection.producers[number]? = some producer →
      producer.streamId ≠ streamId) :
    KeepsOutbox streamId connection (connection.endProducer number other) :=
  (keepsOutbox_updateProducer _ apart).trans (keepsOutbox_removeOutbound _ different)

theorem keepsOutbox_takeCredit {streamId : UInt64} {connection : Connection}
    {number : Nat}
    (apart : ∀ producer, connection.producers[number]? = some producer →
      producer.streamId ≠ streamId) :
    KeepsOutbox streamId connection (connection.takeCredit number) := by
  simp only [takeCredit]
  split
  · exact keepsOutbox_updateProducer _ apart
  · exact .of_eq rfl

theorem keepsOutbox_produce {streamId : UInt64} {connection : Connection}
    {number : Nat}
    (apart : ∀ producer, connection.producers[number]? = some producer →
      producer.streamId ≠ streamId)
    (signal : Signal (Outcome Message)) :
    KeepsOutbox streamId connection (connection.produce number signal) := by
  simp only [produce, send_eq]
  split
  · rename_i present
    split
    · exact .of_eq rfl
    · rename_i frame _ _
      have posted : KeepsOutbox streamId connection (connection.post frame) :=
        .of_eq (outbox_post _ _)
      have apart' : ∀ producer, (connection.post frame).producers[number]? = some producer →
          producer.streamId ≠ streamId := by
        rw [post_eq]
        exact apart
      split
      · exact posted.trans (keepsOutbox_endProducer (apart _ present) apart')
      · exact posted.trans (keepsOutbox_updateProducer _ apart')
  · exact .of_eq rfl

theorem keepsOutbox_respond {streamId : UInt64} {connection : Connection}
    {number : Nat}
    (apart : ∀ producer, connection.producers[number]? = some producer →
      producer.streamId ≠ streamId)
    (result : Outcome Message) :
    KeepsOutbox streamId connection (connection.respond number result) := by
  simp only [respond]
  split
  · rename_i present
    refine KeepsOutbox.trans (.of_eq (outbox_post _ _))
      (keepsOutbox_endProducer (apart _ present) ?_)
    rw [post_eq]
    exact apart
  · exact .of_eq rfl

theorem keepsOutbox_receiveGrant {streamId other : UInt64} {connection : Connection}
    (wired : Wired connection) (apart : other ≠ streamId) (count : UInt32) :
    KeepsOutbox streamId connection (connection.receiveGrant other count) := by
  simp only [receiveGrant]
  split
  · exact .of_eq rfl
  · rename_i number listed
    have granted : KeepsOutbox streamId connection
        (connection.updateProducer number (fun producer =>
          { producer with credits := producer.credits + count.toNat })) := by
      apply keepsOutbox_updateProducer
      intro producer present
      rcases wired.producer other number listed with ⟨_, present', carries⟩
      have same := present.symm.trans present'
      cases same
      exact carries ▸ apart
    split
    · exact granted
    · exact granted.trans (.of_eq rfl)

theorem keepsInbox_receiveNext {streamId other : UInt64} {connection : Connection}
    (wired : Wired connection) (apart : other ≠ streamId) (envelope : Envelope) :
    KeepsInbox streamId connection (connection.receiveNext other envelope) := by
  simp only [receiveNext]
  split
  · exact .of_eq rfl
  · rename_i found
    rw [deliverTo_removeSink]
    exact (keepsInbox_deliverTo wired apart found _).removeSink apart
  · rename_i found
    exact keepsInbox_deliverTo wired apart found _
  · exact (keepsInbox_failSink wired apart _).trans (.of_eq (inbox_post _ _))

theorem keepsOutbox_startProducer {streamId other : UInt64} (connection : Connection)
    (apart : other ≠ streamId) (credits : Nat) (phase : ProducerPhase) :
    KeepsOutbox streamId connection (connection.startProducer other credits phase).2 where
  listed := by simp [startProducer, Ne.symm apart]
  producers number producer present _ := by
    have within := (List.getElem?_eq_some_iff.mp present).1
    simpa [startProducer, List.getElem?_append_left within] using present

theorem keepsInbox_openRequests {streamId other : UInt64} (connection : Connection)
    (apart : other ≠ streamId) :
    KeepsInbox streamId connection (connection.openRequests other).2 where
  sink := by simp [openRequests, Ne.symm apart]
  replies _ _ present _ := present
  inbound number stream present _ := by
    have within := (List.getElem?_eq_some_iff.mp present).1
    simpa [openRequests, List.getElem?_append_left within] using present

theorem keepsInbox_requestResponse {streamId : UInt64} {connection : Connection}
    (wired : Wired connection) (apart : connection.nextStreamId ≠ streamId)
    (message : Message) :
    KeepsInbox streamId connection (connection.requestResponse message).2 := by
  have kept (number : Nat) (reply added : PendingReply)
      (present : connection.replies[number]? = some reply) :
      (connection.replies ++ [added])[number]? = some reply := by
    have within := (List.getElem?_eq_some_iff.mp present).1
    rw [List.getElem?_append_left within, present]
  rcases requestResponse_cases wired message with
    ⟨_, _, equal⟩ | ⟨_, _, _, equal⟩ | ⟨_, _, _, equal⟩ <;> rw [equal]
  · exact .of_eq rfl
  · exact ⟨by simp [Ne.symm apart], fun _ _ present _ => kept _ _ _ present,
      fun _ _ present _ => present⟩
  · exact ⟨by simp [Ne.symm apart], fun _ _ present _ => kept _ _ _ present,
      fun _ _ present _ => present⟩

theorem keepsInbox_openStream {streamId : UInt64} {connection : Connection}
    (wired : Wired connection) (apart : connection.nextStreamId ≠ streamId)
    (mode : Mode) (message : Message) :
    KeepsInbox streamId connection (connection.openStream mode message).2 := by
  have kept (number : Nat) (stream added : InboundStream)
      (present : connection.inbound[number]? = some stream) :
      (connection.inbound ++ [added])[number]? = some stream := by
    have within := (List.getElem?_eq_some_iff.mp present).1
    rw [List.getElem?_append_left within, present]
  rcases openStream_cases wired mode message with
    ⟨_, _, equal⟩ | ⟨_, _, _, equal⟩ | ⟨_, _, _, equal⟩ <;> rw [equal]
  · exact .of_eq rfl
  · exact ⟨by simp [Ne.symm apart], fun _ _ present _ => present,
      fun _ _ present _ => kept _ _ _ present⟩
  · exact ⟨by simp [Ne.symm apart], fun _ _ present _ => present,
      fun _ _ present _ => kept _ _ _ present⟩

theorem openStream_id {connection : Connection} {mode : Mode} {message : Message}
    {streamId : UInt64} {number : Nat}
    (wired : Wired connection)
    (opened : (connection.openStream mode message).1 = .ok (streamId, number)) :
    streamId = connection.nextStreamId ∧ number = connection.inbound.length := by
  rcases openStream_cases wired mode message with
    ⟨_, _, equal⟩ | ⟨_, _, _, equal⟩ | ⟨_, _, _, equal⟩ <;> rw [equal] at opened
  · cases opened
  · cases opened
  · cases opened
    exact ⟨rfl, rfl⟩

theorem keepsInbox_requestChannel {streamId : UInt64} {connection : Connection}
    (wired : Wired connection) (apart : connection.nextStreamId ≠ streamId)
    (first : Option (Outcome Message)) :
    KeepsInbox streamId connection (connection.requestChannel first).2 := by
  simp only [requestChannel]
  split
  · exact .of_eq rfl
  · exact .of_eq rfl
  · rename_i message
    have opened := keepsInbox_openStream wired apart .requestChannel message
    split
    · rename_i equal
      rw [equal] at opened
      exact opened
    · rename_i equal
      rw [equal] at opened
      exact opened.trans (.of_eq rfl)

theorem keepsOutbox_requestChannel {streamId : UInt64} {connection : Connection}
    (wired : Wired connection) (apart : connection.nextStreamId ≠ streamId)
    (first : Option (Outcome Message)) :
    KeepsOutbox streamId connection (connection.requestChannel first).2 := by
  simp only [requestChannel]
  split
  · exact .of_eq rfl
  · exact .of_eq rfl
  · rename_i message
    have kept := outbox_openStream wired .requestChannel message
    split
    · rename_i equal
      rw [equal] at kept
      exact .of_eq kept
    · rename_i opened equal
      have identified := openStream_id wired (by rw [equal])
      rw [equal] at kept
      refine KeepsOutbox.trans (.of_eq kept) (keepsOutbox_startProducer _ ?_ _ _)
      exact identified.1 ▸ apart

theorem keepsInbox_accept {streamId other : UInt64} (connection : Connection)
    (apart : other ≠ streamId) (mode : Mode) (message : Message) :
    KeepsInbox streamId connection (connection.accept mode other message).2 := by
  cases mode with
  | fireAndForget => exact .of_eq rfl
  | requestResponse => exact .of_eq rfl
  | requestStream => exact .of_eq rfl
  | requestChannel =>
      exact (keepsInbox_openRequests connection apart).trans (.of_eq rfl)

theorem keepsOutbox_accept {streamId other : UInt64} (connection : Connection)
    (apart : other ≠ streamId) (mode : Mode) (message : Message) :
    KeepsOutbox streamId connection (connection.accept mode other message).2 := by
  cases mode with
  | fireAndForget => exact .of_eq rfl
  | requestResponse => exact keepsOutbox_startProducer connection apart _ _
  | requestStream => exact keepsOutbox_startProducer connection apart _ _
  | requestChannel =>
      refine KeepsOutbox.trans (.of_eq ?_)
        (keepsOutbox_startProducer (connection.openRequests other).2 apart _ _)
      rfl

theorem keepsInbox_receiveRequest {streamId other : UInt64} (connection : Connection)
    (apart : other ≠ streamId) (mode : Mode) (envelope : Envelope) :
    KeepsInbox streamId connection (connection.receiveRequest mode other envelope).2 := by
  simp only [receiveRequest]
  split
  · exact .of_eq (inbox_reject _ _ _ _)
  · split
    · exact .of_eq (inbox_reject _ _ _ _)
    · exact keepsInbox_accept connection apart mode _

theorem keepsOutbox_receiveRequest {streamId other : UInt64} (connection : Connection)
    (apart : other ≠ streamId) (mode : Mode) (envelope : Envelope) :
    KeepsOutbox streamId connection (connection.receiveRequest mode other envelope).2 := by
  simp only [receiveRequest]
  split
  · exact .of_eq (outbox_reject _ _ _ _)
  · split
    · exact .of_eq (outbox_reject _ _ _ _)
    · exact keepsOutbox_accept connection apart mode _

theorem keepsInbox_receive {streamId : UInt64} {connection : Connection}
    (wired : Wired connection) {frame : Frame} (apart : frame.streamId ≠ streamId) :
    KeepsInbox streamId connection (connection.receive frame).2 := by
  cases reading : connection.reads with
  | false =>
      rw [receive_stopped reading]
      exact .of_eq rfl
  | true =>
      cases frame with
      | request mode other envelope =>
          cases side : connection.role with
          | client =>
              rw [receive_request_client reading side]
              exact .of_eq rfl
          | server =>
              rw [receive_request_server reading side]
              exact keepsInbox_receiveRequest connection apart mode envelope
      | next other envelope =>
          rw [receive_next reading]
          exact keepsInbox_receiveNext wired apart envelope
      | complete other =>
          rw [receive_complete reading]
          exact keepsInbox_removeSink connection apart
      | error other code text =>
          rw [receive_error reading]
          exact keepsInbox_failSink wired apart _
      | cancel other =>
          have stopped : KeepsInbox streamId connection
              (connection.cancelOutbound other) :=
            .of_eq (inbox_cancelOutbound _ _)
          cases side : connection.role with
          | client =>
              rw [receive_cancel_client reading side]
              exact stopped
          | server =>
              rw [receive_cancel_server reading side]
              exact stopped.removeSink apart
      | requestN other count =>
          rw [receive_requestN reading]
          exact .of_eq (inbox_receiveGrant _ _ _)

theorem keepsOutbox_receive {streamId : UInt64} {connection : Connection}
    (wired : Wired connection) {frame : Frame} (apart : frame.streamId ≠ streamId) :
    KeepsOutbox streamId connection (connection.receive frame).2 := by
  cases reading : connection.reads with
  | false =>
      rw [receive_stopped reading]
      exact .of_eq rfl
  | true =>
      cases frame with
      | request mode other envelope =>
          cases side : connection.role with
          | client =>
              rw [receive_request_client reading side]
              exact .of_eq rfl
          | server =>
              rw [receive_request_server reading side]
              exact keepsOutbox_receiveRequest connection apart mode envelope
      | next other envelope =>
          rw [receive_next reading]
          exact .of_eq (outbox_receiveNext _ _ _)
      | complete other =>
          rw [receive_complete reading]
          exact .of_eq rfl
      | error other code text =>
          rw [receive_error reading]
          exact .of_eq (outbox_failSink _ _ _)
      | cancel other =>
          have stopped := keepsOutbox_cancelOutbound wired apart
          cases side : connection.role with
          | client =>
              rw [receive_cancel_client reading side]
              exact stopped
          | server =>
              rw [receive_cancel_server reading side]
              exact stopped.trans (.of_eq rfl)
      | requestN other count =>
          rw [receive_requestN reading]
          exact keepsOutbox_receiveGrant wired apart count

/-! ## The close, which is about every call -/

theorem getElem?_modify_transport {α : Type} {first second : List α}
    {property : α → Prop}
    (keeps : ∀ (other : Nat) item, first[other]? = some item → property item →
      second[other]? = some item)
    (number : Nat) {change : α → α}
    (reflects : ∀ item, property (change item) → property item)
    (other : Nat) (item : α)
    (present : (first.modify number change)[other]? = some item)
    (holds : property item) :
    (second.modify number change)[other]? = some item := by
  by_cases same : number = other
  · subst same
    rw [List.getElem?_modify_eq] at present ⊢
    rcases Option.map_eq_some_iff.mp present with ⟨old, found, changed⟩
    have kept := keeps number old found (reflects old (changed ▸ holds))
    rw [kept, ← changed]
    rfl
  · rw [List.getElem?_modify_ne _ _ same] at present ⊢
    exact keeps other item present holds

theorem KeepsInbox.failSink {streamId : UInt64} {first second : Connection}
    (keeps : KeepsInbox streamId first second) (error : CallError) :
    KeepsInbox streamId (first.failSink streamId error)
      (second.failSink streamId error) := by
  cases sink : first.sinks.find? streamId with
  | none =>
      rw [failSink_of_none sink, failSink_of_none (keeps.sink.trans sink)]
      exact keeps
  | some found =>
      rw [failSink_of_some sink, failSink_of_some (keeps.sink.trans sink)]
      cases found with
      | reply number =>
          exact ⟨by simp [deliverTo, updateReply, Connection.removeSink],
            getElem?_modify_transport keeps.replies number fun _ carries => carries,
            keeps.inbound⟩
      | stream number =>
          exact ⟨by simp [deliverTo, updateInbound, Connection.removeSink], keeps.replies,
            getElem?_modify_transport keeps.inbound number fun _ carries => carries⟩

theorem KeepsOutbox.cancelOutbound {streamId : UInt64} {first second : Connection}
    (keeps : KeepsOutbox streamId first second) :
    KeepsOutbox streamId (first.cancelOutbound streamId)
      (second.cancelOutbound streamId) := by
  cases listed : first.outbound.find? streamId with
  | none =>
      rw [cancelOutbound_of_none listed, cancelOutbound_of_none (keeps.listed.trans listed)]
      exact keeps
  | some number =>
      rw [cancelOutbound_of_some listed, cancelOutbound_of_some (keeps.listed.trans listed)]
      exact ⟨by simp [updateProducer, removeOutbound],
        getElem?_modify_transport keeps.producers number fun _ carries => carries⟩

theorem find?_sinks_failSink (connection : Connection) (streamId : UInt64)
    (error : CallError) :
    (connection.failSink streamId error).sinks.find? streamId = none := by
  cases sink : connection.sinks.find? streamId with
  | none => rw [failSink_of_none sink, sink]
  | some found =>
      rw [failSink_of_some sink]
      cases found <;> simp [deliverTo, updateReply, updateInbound, removeSink]

theorem find?_outbound_cancelOutbound (connection : Connection) (streamId : UInt64) :
    (connection.cancelOutbound streamId).outbound.find? streamId = none := by
  cases listed : connection.outbound.find? streamId with
  | none => rw [cancelOutbound_of_none listed, listed]
  | some number =>
      rw [cancelOutbound_of_some listed]
      simp [updateProducer, removeOutbound]

theorem keepsInbox_foldl_failSink (streamId : UInt64) (error : CallError)
    (streamIds : List UInt64) {connection : Connection} (wired : Wired connection) :
    KeepsInbox streamId
      (if streamId ∈ streamIds then connection.failSink streamId error else connection)
      (streamIds.foldl (fun connection other => connection.failSink other error)
        connection) := by
  induction streamIds generalizing connection with
  | nil => exact .of_eq rfl
  | cons other rest induction =>
      have step := induction (wired.narrows (narrows_failSink connection other error))
      rw [List.foldl_cons]
      by_cases same : other = streamId
      · subst same
        rw [failSink_of_none (find?_sinks_failSink connection other error), ite_self] at step
        simpa using step
      · have kept := keepsInbox_failSink wired same error
        have listed : streamId ∈ other :: rest ↔ streamId ∈ rest := by
          simp [Ne.symm same]
        simp only [listed]
        split at step
        · rename_i member
          rw [if_pos member]
          exact (kept.failSink error).trans step
        · rename_i absent
          rw [if_neg absent]
          exact kept.trans step

theorem keepsOutbox_foldl_cancelOutbound (streamId : UInt64)
    (streamIds : List UInt64) {connection : Connection} (wired : Wired connection) :
    KeepsOutbox streamId
      (if streamId ∈ streamIds then connection.cancelOutbound streamId else connection)
      (streamIds.foldl Connection.cancelOutbound connection) := by
  induction streamIds generalizing connection with
  | nil => exact .of_eq rfl
  | cons other rest induction =>
      have step := induction (wired.narrows (narrows_cancelOutbound connection other))
      rw [List.foldl_cons]
      by_cases same : other = streamId
      · subst same
        rw [cancelOutbound_of_none (find?_outbound_cancelOutbound connection other),
          ite_self] at step
        simpa using step
      · have kept := keepsOutbox_cancelOutbound wired same
        have listed : streamId ∈ other :: rest ↔ streamId ∈ rest := by
          simp [Ne.symm same]
        simp only [listed]
        split at step
        · rename_i member
          rw [if_pos member]
          exact kept.cancelOutbound.trans step
        · rename_i absent
          rw [if_neg absent]
          exact kept.trans step

@[simp]
theorem outbox_failSinks (connection : Connection) (error : CallError) :
    (connection.failSinks error).outbox = connection.outbox := by
  rw [failSinks]
  generalize connection.sinks.keys = streamIds
  induction streamIds generalizing connection with
  | nil => rfl
  | cons other rest induction =>
      rw [List.foldl_cons, induction, outbox_failSink]

@[simp]
theorem inbox_cancelOutbounds (connection : Connection) :
    connection.cancelOutbounds.inbox = connection.inbox := by
  rw [cancelOutbounds]
  generalize connection.outbound.keys = streamIds
  induction streamIds generalizing connection with
  | nil => rfl
  | cons other rest induction =>
      rw [List.foldl_cons, induction, inbox_cancelOutbound]

theorem keepsInbox_failSinks {connection : Connection} (wired : Wired connection)
    (streamId : UInt64) (error : CallError) :
    KeepsInbox streamId (connection.failSink streamId error)
      (connection.failSinks error) := by
  have fold := keepsInbox_foldl_failSink streamId error connection.sinks.keys wired
  split at fold
  · exact fold
  · rename_i absent
    rw [Table.mem_keys_iff, not_not] at absent
    rw [failSink_of_none absent]
    exact fold

theorem keepsOutbox_cancelOutbounds {connection : Connection} (wired : Wired connection)
    (streamId : UInt64) :
    KeepsOutbox streamId (connection.cancelOutbound streamId)
      connection.cancelOutbounds := by
  have fold := keepsOutbox_foldl_cancelOutbound streamId connection.outbound.keys wired
  split at fold
  · exact fold
  · rename_i absent
    rw [Table.mem_keys_iff, not_not] at absent
    rw [cancelOutbound_of_none absent]
    exact fold

/-- A close does to each call what failing its sink does. -/
theorem keepsInbox_close {connection : Connection} (wired : Wired connection)
    (running : connection.isClosed = false) (streamId : UInt64) :
    KeepsInbox streamId (connection.failSink streamId connection.closedError)
      connection.close := by
  have marked : KeepsInbox streamId connection { connection with isClosed := true } :=
    .of_eq rfl
  have failed := keepsInbox_failSinks (wired.narrows (narrows_marked connection))
    streamId connection.closedError
  rw [close_of_open running]
  exact ((marked.failSink _).trans failed).trans (.of_eq (inbox_cancelOutbounds _))

/-- A close does to each call what stopping its producer does. -/
theorem keepsOutbox_close {connection : Connection} (wired : Wired connection)
    (running : connection.isClosed = false) (streamId : UInt64) :
    KeepsOutbox streamId (connection.cancelOutbound streamId) connection.close := by
  have narrows := (narrows_marked connection).trans
    (narrows_failSinks _ connection.closedError)
  have failed : KeepsOutbox streamId connection
      (failSinks { connection with isClosed := true } connection.closedError) :=
    .of_eq (outbox_failSinks _ _)
  rw [close_of_open running]
  exact failed.cancelOutbound.trans
    (keepsOutbox_cancelOutbounds (wired.narrows narrows) streamId)

/-! ## Actions on another call -/

/-- The action is about what takes the frames of a call. -/
def ConcernsInbox (connection : Connection) (streamId : UInt64) : Action → Prop
  | .requestResponse _ | .requestStream _ | .requestChannel _ =>
    connection.nextStreamId = streamId
  | .pollReply number | .dropReply number =>
    ∃ reply, connection.replies[number]? = some reply ∧ reply.streamId = streamId
  | .pullInbound number | .dropInbound number =>
    ∃ stream, connection.inbound[number]? = some stream ∧ stream.streamId = streamId
  | .receive frame => frame.streamId = streamId
  | .close | .endReader | .endWriter => connection.isClosed = false
  | _ => False

/-- The action is about what sends the frames of a call. -/
def ConcernsOutbox (connection : Connection) (streamId : UInt64) : Action → Prop
  | .requestChannel _ => connection.nextStreamId = streamId
  | .dropInbound number =>
    ∃ stream, connection.inbound[number]? = some stream ∧ stream.streamId = streamId
  | .takeCredit number | .produce number _ | .respond number _ =>
    ∃ producer, connection.producers[number]? = some producer ∧
      producer.streamId = streamId
  | .receive frame => frame.streamId = streamId
  | .close | .endReader | .endWriter => connection.isClosed = false
  | _ => False

/-- An action that is not about a call keeps what takes the frames of the call. -/
theorem keepsInbox_perform {connection : Connection} (wired : Wired connection)
    {streamId : UInt64} {action : Action}
    (apart : ¬ ConcernsInbox connection streamId action) :
    KeepsInbox streamId connection (connection.perform action).2 := by
  cases action with
  | fireAndForget message => exact .of_eq (inbox_fireAndForget _ _)
  | requestResponse message => exact keepsInbox_requestResponse wired apart message
  | requestStream message => exact keepsInbox_openStream wired apart .requestStream message
  | requestChannel first => exact keepsInbox_requestChannel wired apart first
  | pollReply number =>
      exact keepsInbox_pollReply fun reply present carries =>
        apart ⟨reply, present, carries⟩
  | dropReply number =>
      exact keepsInbox_dropReply fun reply present carries =>
        apart ⟨reply, present, carries⟩
  | pullInbound number =>
      exact keepsInbox_pullInbound fun stream present carries =>
        apart ⟨stream, present, carries⟩
  | dropInbound number =>
      exact keepsInbox_dropInbound fun stream present carries =>
        apart ⟨stream, present, carries⟩
  | takeCredit number => exact .of_eq (inbox_takeCredit _ _)
  | produce number signal => exact .of_eq (inbox_produce _ _ _)
  | respond number result => exact .of_eq (inbox_respond _ _ _)
  | receive frame => exact keepsInbox_receive wired apart
  | transmit => exact .of_eq (inbox_write _)
  | close | endReader | endWriter =>
      rw [ConcernsInbox, Bool.not_eq_false] at apart
      have stays : connection.close.inbox = connection.inbox :=
        congrArg inbox (close_of_closed apart)
      exact .of_eq stays

/-- An action that is not about a call keeps what sends the frames of the call. -/
theorem keepsOutbox_perform {connection : Connection} (wired : Wired connection)
    {streamId : UInt64} {action : Action}
    (apart : ¬ ConcernsOutbox connection streamId action) :
    KeepsOutbox streamId connection (connection.perform action).2 := by
  cases action with
  | fireAndForget message => exact .of_eq (outbox_fireAndForget _ _)
  | requestResponse message => exact .of_eq (outbox_requestResponse wired message)
  | requestStream message => exact .of_eq (outbox_openStream wired .requestStream message)
  | requestChannel first => exact keepsOutbox_requestChannel wired apart first
  | pollReply number => exact .of_eq (outbox_pollReply _ _)
  | dropReply number => exact .of_eq (outbox_dropReply _ _)
  | pullInbound number => exact .of_eq (outbox_pullInbound _ _)
  | dropInbound number =>
      exact keepsOutbox_dropInbound wired fun stream present carries =>
        apart ⟨stream, present, carries⟩
  | takeCredit number =>
      exact keepsOutbox_takeCredit fun producer present carries =>
        apart ⟨producer, present, carries⟩
  | produce number signal =>
      exact keepsOutbox_produce (fun producer present carries =>
        apart ⟨producer, present, carries⟩) signal
  | respond number result =>
      exact keepsOutbox_respond (fun producer present carries =>
        apart ⟨producer, present, carries⟩) result
  | receive frame => exact keepsOutbox_receive wired apart
  | transmit => exact .of_eq (outbox_write _)
  | close | endReader | endWriter =>
      rw [ConcernsOutbox, Bool.not_eq_false] at apart
      have stays : connection.close.outbox = connection.outbox :=
        congrArg outbox (close_of_closed apart)
      exact .of_eq stays

end ServiceMesh.Connection
