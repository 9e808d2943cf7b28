import ServiceMesh.Proofs.Connection.History

/-!
# What belongs to a call

The sink and the producer of a call stand under its stream id, and lead to a reply, an inbound
stream or a producer which carries that id (`Wired`).  Every action keeps this, and it never renames
what is there already (`Extends`): this is `extends_perform`.  An action that opens and accepts no
call adds nothing either (`Narrows`, `narrows_perform`).
-/

namespace ServiceMesh

theorem Table.remove_of_find?_eq_none {κ α : Type} [DecidableEq κ]
    {table : Table κ α} {key : κ}
    (absent : table.find? key = none) :
    table.remove key = table := by
  induction table with
  | nil => rfl
  | cons entry rest induction =>
      rcases entry with ⟨head, value⟩
      simp only [Table.find?, List.lookup_cons] at absent induction
      by_cases same : key = head
      · simp [same] at absent
      · rw [beq_false_of_ne same] at absent
        have kept := induction absent
        simp only [Table.remove] at kept ⊢
        rw [List.filter_cons_of_pos (by simpa using Ne.symm same), kept]

theorem Table.mem_keys_iff {κ α : Type} [DecidableEq κ]
    {table : Table κ α} {key : κ} :
    key ∈ table.keys ↔ table.find? key ≠ none := by
  induction table with
  | nil => simp [Table.keys, Table.find?]
  | cons entry rest induction =>
      rcases entry with ⟨head, value⟩
      simp only [Table.keys, Table.find?, List.map_cons, List.mem_cons,
        List.lookup_cons] at induction ⊢
      by_cases same : key = head
      · simp [same]
      · simp [same, beq_false_of_ne same, induction]

@[simp]
theorem Table.remove_put {κ α : Type} [DecidableEq κ]
    (table : Table κ α) (key : κ) (value : α) :
    (table.put key value).remove key = table.remove key := by
  simp [Table.put, Table.remove, List.filter_filter]

@[simp]
theorem Table.put_remove {κ α : Type} [DecidableEq κ]
    (table : Table κ α) (key : κ) (value : α) :
    (table.remove key).put key value = table.put key value := by
  simp [Table.put, Table.remove, List.filter_filter]

theorem modify_concat {α : Type} (items : List α) (item : α) (change : α → α) :
    (items ++ [item]).modify items.length change = items ++ [change item] := by
  induction items with
  | nil => rfl
  | cons head tail induction => simpa using induction

namespace Connection

/-! ## Operations in normal form -/

/-- The frames that are taken into the queue, which are none once the writer has stopped. -/
def admitted (connection : Connection) (frames : List Frame) : List Frame :=
  if connection.writes then frames else []

theorem post_eq (connection : Connection) (frame : Frame) :
    connection.post frame =
      { connection with queue := connection.queue ++ connection.admitted [frame] } := by
  cases connection
  simp only [post, send, admitted]
  split <;> simp

theorem send_eq (connection : Connection) (frame : Frame) :
    connection.send frame = (connection.writes, connection.post frame) := by
  by_cases writing : connection.writes <;>
    simp [post, send, writing]

theorem cancelSink_eq (connection : Connection) (streamId : UInt64) :
    connection.cancelSink streamId =
      { connection.removeSink streamId with
        queue := connection.queue ++ connection.admitted
          (if connection.sinks.find? streamId = none then [] else [.cancel streamId]) } := by
  unfold cancelSink
  cases sink : connection.sinks.find? streamId with
  | none =>
      simp [removeSink, admitted, Table.remove_of_find?_eq_none sink]
  | some found => simp [post_eq, removeSink, admitted]

theorem failSink_of_none {connection : Connection} {streamId : UInt64}
    (absent : connection.sinks.find? streamId = none) (error : CallError) :
    connection.failSink streamId error = connection := by
  simp [failSink, absent]

theorem failSink_of_some {connection : Connection} {streamId : UInt64} {sink : Sink}
    (present : connection.sinks.find? streamId = some sink) (error : CallError) :
    connection.failSink streamId error =
      (connection.removeSink streamId).deliverTo sink (.error error) := by
  simp [failSink, present]

theorem cancelOutbound_of_none {connection : Connection} {streamId : UInt64}
    (absent : connection.outbound.find? streamId = none) :
    connection.cancelOutbound streamId = connection := by
  simp [cancelOutbound, absent]

theorem cancelOutbound_of_some {connection : Connection} {streamId : UInt64} {number : Nat}
    (present : connection.outbound.find? streamId = some number) :
    connection.cancelOutbound streamId =
      (connection.removeOutbound streamId).updateProducer number
        (fun producer => { producer with phase := .ended }) := by
  simp [cancelOutbound, present]

theorem receive_stopped {connection : Connection} (stopped : connection.reads = false)
    (frame : Frame) :
    connection.receive frame = (none, connection) := by
  simp [receive, stopped]

theorem receive_request_server {connection : Connection} (reading : connection.reads = true)
    (serves : connection.role = .server) (mode : Mode) (streamId : UInt64)
    (envelope : Envelope) :
    connection.receive (.request mode streamId envelope) =
      connection.receiveRequest mode streamId envelope := by
  simp [receive, reading, serves]

theorem receive_request_client {connection : Connection} (reading : connection.reads = true)
    (calls : connection.role = .client) (mode : Mode) (streamId : UInt64)
    (envelope : Envelope) :
    connection.receive (.request mode streamId envelope) = (none, connection) := by
  simp [receive, reading, calls]

theorem receive_next {connection : Connection} (reading : connection.reads = true)
    (streamId : UInt64) (envelope : Envelope) :
    connection.receive (.next streamId envelope) =
      (none, connection.receiveNext streamId envelope) := by
  simp [receive, reading]

theorem receive_complete {connection : Connection} (reading : connection.reads = true)
    (streamId : UInt64) :
    connection.receive (.complete streamId) = (none, connection.removeSink streamId) := by
  simp [receive, reading]

theorem receive_error {connection : Connection} (reading : connection.reads = true)
    (streamId : UInt64) (code : UInt16) (text : String) :
    connection.receive (.error streamId code text) =
      (none, connection.failSink streamId (.remote code text)) := by
  simp [receive, reading]

theorem receive_cancel_server {connection : Connection} (reading : connection.reads = true)
    (serves : connection.role = .server) (streamId : UInt64) :
    connection.receive (.cancel streamId) =
      (none, (connection.cancelOutbound streamId).removeSink streamId) := by
  simp [receive, reading, serves]

theorem receive_cancel_client {connection : Connection} (reading : connection.reads = true)
    (calls : connection.role = .client) (streamId : UInt64) :
    connection.receive (.cancel streamId) =
      (none, connection.cancelOutbound streamId) := by
  simp [receive, reading, calls]

theorem receive_requestN {connection : Connection} (reading : connection.reads = true)
    (streamId : UInt64) (count : UInt32) :
    connection.receive (.requestN streamId count) =
      (none, connection.receiveGrant streamId count) := by
  simp [receive, reading]

/-! ## What is never renamed -/

/--
A later connection has what an earlier one had, under the same numbers and
with the same stream ids.  Once it is closed it stays closed, and as long as
it is open its writer does not change.
-/
structure Extends (first second : Connection) : Prop where
  role : second.role = first.role
  peer : second.peer = first.peer
  codec : second.codec = first.codec
  window : second.window = first.window
  running : second.isClosed = false →
    first.isClosed = false ∧ second.writes = first.writes
  replies : ∀ (number : Nat) reply, first.replies[number]? = some reply →
    ∃ later, second.replies[number]? = some later ∧ later.streamId = reply.streamId
  inbound : ∀ (number : Nat) stream, first.inbound[number]? = some stream →
    ∃ later, second.inbound[number]? = some later ∧
      later.streamId = stream.streamId ∧ later.isRequester = stream.isRequester
  producers : ∀ (number : Nat) producer, first.producers[number]? = some producer →
    ∃ later, second.producers[number]? = some later ∧
      later.streamId = producer.streamId

/--
What stands under a stream id carries that id, and the writer of an open
connection has not stopped.
-/
structure Wired (connection : Connection) : Prop where
  writing : connection.isClosed = false → connection.writes = true
  reply : ∀ (streamId : UInt64) (number : Nat),
    connection.sinks.find? streamId = some (.reply number) →
      ∃ reply, connection.replies[number]? = some reply ∧ reply.streamId = streamId
  stream : ∀ (streamId : UInt64) (number : Nat),
    connection.sinks.find? streamId = some (.stream number) →
      ∃ stream, connection.inbound[number]? = some stream ∧ stream.streamId = streamId
  producer : ∀ (streamId : UInt64) (number : Nat),
    connection.outbound.find? streamId = some number →
      ∃ producer, connection.producers[number]? = some producer ∧
        producer.streamId = streamId

/--
A later connection has what an earlier one had, and nothing further stands
in its tables.
-/
structure Thins (first second : Connection) : Prop extends Extends first second where
  sinks : ∀ (streamId : UInt64) sink, second.sinks.find? streamId = some sink →
    first.sinks.find? streamId = some sink
  outbound : ∀ (streamId : UInt64) number, second.outbound.find? streamId = some number →
    first.outbound.find? streamId = some number

/-- Nothing new has come to a later connection. -/
structure Narrows (first second : Connection) : Prop extends Thins first second where
  nextStreamId : second.nextStreamId = first.nextStreamId
  replies_length : second.replies.length = first.replies.length
  inbound_length : second.inbound.length = first.inbound.length
  producers_length : second.producers.length = first.producers.length

theorem Extends.refl (connection : Connection) : Extends connection connection where
  role := rfl
  peer := rfl
  codec := rfl
  window := rfl
  running still := ⟨still, rfl⟩
  replies _ reply present := ⟨reply, present, rfl⟩
  inbound _ stream present := ⟨stream, present, rfl, rfl⟩
  producers _ producer present := ⟨producer, present, rfl⟩

section

variable {first second : Connection} {number : Nat}

/-- A reply keeps its stream id. -/
theorem Extends.replyId (grown : Extends first second) {earlier later : PendingReply}
    (before : first.replies[number]? = some earlier)
    (present : second.replies[number]? = some later) :
    later.streamId = earlier.streamId := by
  rcases grown.replies number earlier before with ⟨found, atNumber, same⟩
  rw [present, Option.some.injEq] at atNumber
  rw [atNumber, same]

/-- An inbound stream keeps its stream id, and it stays on its side of the call. -/
theorem Extends.inboundId (grown : Extends first second) {earlier later : InboundStream}
    (before : first.inbound[number]? = some earlier)
    (present : second.inbound[number]? = some later) :
    later.streamId = earlier.streamId ∧ later.isRequester = earlier.isRequester := by
  rcases grown.inbound number earlier before with ⟨found, atNumber, same⟩
  rw [present, Option.some.injEq] at atNumber
  rwa [atNumber]

/-- A producer keeps its stream id. -/
theorem Extends.producerId (grown : Extends first second) {earlier later : Producer}
    (before : first.producers[number]? = some earlier)
    (present : second.producers[number]? = some later) :
    later.streamId = earlier.streamId := by
  rcases grown.producers number earlier before with ⟨found, atNumber, same⟩
  rw [present, Option.some.injEq] at atNumber
  rw [atNumber, same]

/-- A call that has an inbound stream keeps it. -/
theorem Extends.exists_inbound (grown : Extends first second) {streamId : UInt64}
    (before : ∃ stream ∈ first.inbound, stream.streamId = streamId) :
    ∃ stream ∈ second.inbound, stream.streamId = streamId := by
  rcases before with ⟨stream, member, carries⟩
  rcases List.getElem?_of_mem member with ⟨number, present⟩
  rcases grown.inbound number stream present with ⟨later, atNumber, same, _⟩
  exact ⟨later, List.mem_of_getElem? atNumber, same.trans carries⟩

end

theorem Extends.trans {first second third : Connection}
    (left : Extends first second) (right : Extends second third) :
    Extends first third where
  role := right.role.trans left.role
  peer := right.peer.trans left.peer
  codec := right.codec.trans left.codec
  window := right.window.trans left.window
  running still := by
    rcases right.running still with ⟨middle, sameRight⟩
    rcases left.running middle with ⟨start, sameLeft⟩
    exact ⟨start, sameRight.trans sameLeft⟩
  replies number reply present := by
    rcases left.replies number reply present with ⟨middle, atMiddle, sameMiddle⟩
    rcases right.replies number middle atMiddle with ⟨last, atLast, sameLast⟩
    exact ⟨last, atLast, sameLast.trans sameMiddle⟩
  inbound number stream present := by
    rcases left.inbound number stream present with ⟨middle, atMiddle, sameMiddle, sideMiddle⟩
    rcases right.inbound number middle atMiddle with ⟨last, atLast, sameLast, sideLast⟩
    exact ⟨last, atLast, sameLast.trans sameMiddle, sideLast.trans sideMiddle⟩
  producers number producer present := by
    rcases left.producers number producer present with ⟨middle, atMiddle, sameMiddle⟩
    rcases right.producers number middle atMiddle with ⟨last, atLast, sameLast⟩
    exact ⟨last, atLast, sameLast.trans sameMiddle⟩

theorem Narrows.refl (connection : Connection) : Narrows connection connection where
  toExtends := .refl connection
  sinks _ _ present := present
  outbound _ _ present := present
  nextStreamId := rfl
  replies_length := rfl
  inbound_length := rfl
  producers_length := rfl

theorem Thins.trans {first second third : Connection}
    (left : Thins first second) (right : Thins second third) :
    Thins first third where
  toExtends := left.toExtends.trans right.toExtends
  sinks streamId sink present := left.sinks _ _ (right.sinks streamId sink present)
  outbound streamId number present :=
    left.outbound _ _ (right.outbound streamId number present)

theorem Narrows.trans {first second third : Connection}
    (left : Narrows first second) (right : Narrows second third) :
    Narrows first third where
  toThins := left.toThins.trans right.toThins
  nextStreamId := right.nextStreamId.trans left.nextStreamId
  replies_length := right.replies_length.trans left.replies_length
  inbound_length := right.inbound_length.trans left.inbound_length
  producers_length := right.producers_length.trans left.producers_length

theorem Wired.thins {first second : Connection}
    (wired : Wired first) (narrows : Thins first second) :
    Wired second where
  writing still := by
    rcases narrows.running still with ⟨earlier, same⟩
    exact same.trans (wired.writing earlier)
  reply streamId number sink := by
    rcases wired.reply streamId number (narrows.sinks _ _ sink) with ⟨reply, present, carries⟩
    rcases narrows.replies number reply present with ⟨later, atLater, same⟩
    exact ⟨later, atLater, same.trans carries⟩
  stream streamId number sink := by
    rcases wired.stream streamId number (narrows.sinks _ _ sink) with ⟨stream, present, carries⟩
    rcases narrows.inbound number stream present with ⟨later, atLater, same, _⟩
    exact ⟨later, atLater, same.trans carries⟩
  producer streamId number listed := by
    rcases wired.producer streamId number (narrows.outbound _ _ listed) with
      ⟨producer, present, carries⟩
    rcases narrows.producers number producer present with ⟨later, atLater, same⟩
    exact ⟨later, atLater, same.trans carries⟩

theorem Wired.narrows {first second : Connection}
    (wired : Wired first) (narrows : Narrows first second) :
    Wired second :=
  wired.thins narrows.toThins

/-! ## Operations that open nothing -/

theorem narrows_post (connection : Connection) (frame : Frame) :
    Narrows connection (connection.post frame) := by
  rw [post_eq]
  exact { Narrows.refl connection with }

theorem narrows_removeSink (connection : Connection) (streamId : UInt64) :
    Narrows connection (connection.removeSink streamId) :=
  { Narrows.refl connection with
    sinks := by
      intro other sink present
      simp only [removeSink, Table.find?_remove] at present
      split at present
      · simp at present
      · exact present }

theorem narrows_removeOutbound (connection : Connection) (streamId : UInt64) :
    Narrows connection (connection.removeOutbound streamId) :=
  { Narrows.refl connection with
    outbound := by
      intro other number present
      simp only [removeOutbound, Table.find?_remove] at present
      split at present
      · simp at present
      · exact present }

theorem narrows_updateReply (connection : Connection) (number : Nat)
    (change : PendingReply → PendingReply)
    (same : ∀ reply, (change reply).streamId = reply.streamId) :
    Narrows connection (connection.updateReply number change) :=
  { Narrows.refl connection with
    replies_length := by simp [updateReply]
    replies := by
      intro other reply present
      simp only [updateReply, List.getElem?_modify, present, Option.map_eq_map,
        Option.map_some]
      split
      · exact ⟨_, rfl, same reply⟩
      · exact ⟨_, rfl, rfl⟩ }

theorem narrows_updateInbound (connection : Connection) (number : Nat)
    (change : InboundStream → InboundStream)
    (same : ∀ stream, (change stream).streamId = stream.streamId ∧
      (change stream).isRequester = stream.isRequester) :
    Narrows connection (connection.updateInbound number change) :=
  { Narrows.refl connection with
    inbound_length := by simp [updateInbound]
    inbound := by
      intro other stream present
      simp only [updateInbound, List.getElem?_modify, present, Option.map_eq_map,
        Option.map_some]
      split
      · exact ⟨_, rfl, same stream⟩
      · exact ⟨_, rfl, rfl, rfl⟩ }

theorem narrows_updateProducer (connection : Connection) (number : Nat)
    (change : Producer → Producer)
    (same : ∀ producer, (change producer).streamId = producer.streamId) :
    Narrows connection (connection.updateProducer number change) :=
  { Narrows.refl connection with
    producers_length := by simp [updateProducer]
    producers := by
      intro other producer present
      simp only [updateProducer, List.getElem?_modify, present, Option.map_eq_map,
        Option.map_some]
      split
      · exact ⟨_, rfl, same producer⟩
      · exact ⟨_, rfl, rfl⟩ }

theorem narrows_deliverTo (connection : Connection) (sink : Sink)
    (item : Outcome Message) :
    Narrows connection (connection.deliverTo sink item) := by
  cases sink with
  | reply number => exact narrows_updateReply _ _ _ fun _ => rfl
  | stream number => exact narrows_updateInbound _ _ _ fun _ => ⟨rfl, rfl⟩

theorem narrows_failSink (connection : Connection) (streamId : UInt64)
    (error : CallError) :
    Narrows connection (connection.failSink streamId error) := by
  cases sink : connection.sinks.find? streamId with
  | none =>
      rw [failSink_of_none sink]
      exact .refl connection
  | some found =>
      rw [failSink_of_some sink]
      exact (narrows_removeSink _ _).trans (narrows_deliverTo _ _ _)

theorem narrows_cancelSink (connection : Connection) (streamId : UInt64) :
    Narrows connection (connection.cancelSink streamId) := by
  rw [cancelSink_eq]
  exact { narrows_removeSink connection streamId with }

theorem narrows_cancelOutbound (connection : Connection) (streamId : UInt64) :
    Narrows connection (connection.cancelOutbound streamId) := by
  cases listed : connection.outbound.find? streamId with
  | none =>
      rw [cancelOutbound_of_none listed]
      exact .refl connection
  | some number =>
      rw [cancelOutbound_of_some listed]
      exact (narrows_removeOutbound _ _).trans
        (narrows_updateProducer _ _ _ fun _ => rfl)

theorem narrows_foldl {α : Type} (operation : Connection → α → Connection)
    (narrow : ∀ connection item, Narrows connection (operation connection item))
    (items : List α) (connection : Connection) :
    Narrows connection (items.foldl operation connection) := by
  induction items generalizing connection with
  | nil => exact .refl connection
  | cons item items induction =>
      exact (narrow connection item).trans (induction _)

theorem narrows_marked (connection : Connection) :
    Narrows connection { connection with isClosed := true } :=
  { Narrows.refl connection with running := by simp }

theorem narrows_failSinks (connection : Connection) (error : CallError) :
    Narrows connection (connection.failSinks error) :=
  narrows_foldl _ (fun _ _ => narrows_failSink _ _ _) _ _

theorem narrows_cancelOutbounds (connection : Connection) :
    Narrows connection connection.cancelOutbounds :=
  narrows_foldl _ narrows_cancelOutbound _ _

theorem close_of_closed {connection : Connection} (closed : connection.isClosed = true) :
    connection.close = connection := by
  simp [close, closed]

theorem close_of_open {connection : Connection} (running : connection.isClosed = false) :
    connection.close =
      (failSinks { connection with isClosed := true } connection.closedError).cancelOutbounds := by
  simp [close, running]

theorem narrows_close (connection : Connection) :
    Narrows connection connection.close := by
  cases running : connection.isClosed with
  | true =>
      rw [close_of_closed running]
      exact .refl connection
  | false =>
      rw [close_of_open running]
      exact ((narrows_marked connection).trans (narrows_failSinks _ _)).trans
        (narrows_cancelOutbounds _)

theorem isClosed_close (connection : Connection) :
    connection.close.isClosed = true := by
  cases running : connection.isClosed with
  | true => rw [close_of_closed running, running]
  | false =>
      by_contra still
      rw [Bool.not_eq_true, close_of_open running] at still
      have failed := (narrows_cancelOutbounds _).running still
      have marked := (narrows_failSinks _ _).running failed.1
      simp at marked

theorem narrows_endReader (connection : Connection) :
    Narrows connection connection.endReader :=
  { narrows_close connection with }

theorem narrows_endWriter (connection : Connection) :
    Narrows connection connection.endWriter :=
  { narrows_close connection with
    running := by simp [endWriter, isClosed_close] }

theorem narrows_pollReply (connection : Connection) (number : Nat) :
    Narrows connection (connection.pollReply number).2 := by
  have finish := narrows_updateReply connection number
    (fun reply => { reply with isFinished := true }) fun _ => rfl
  unfold pollReply
  split
  · exact .refl connection
  · split
    · exact .refl connection
    · split
      · exact finish
      · split
        · exact .refl connection
        · exact finish

theorem narrows_dropReply (connection : Connection) (number : Nat) :
    Narrows connection (connection.dropReply number) := by
  unfold dropReply
  split
  · exact .refl connection
  · split
    · exact .refl connection
    · exact (narrows_cancelSink _ _).trans (narrows_updateReply _ _ _ fun _ => rfl)

theorem narrows_replenish (connection : Connection) (number : Nat)
    (stream : InboundStream) (rest : List (Outcome Message)) :
    Narrows connection (connection.replenish number stream rest) := by
  unfold replenish
  dsimp only
  split
  · refine Narrows.trans ?_ (narrows_post _ _)
    exact narrows_updateInbound _ _ _ fun _ => ⟨rfl, rfl⟩
  · exact narrows_updateInbound _ _ _ fun _ => ⟨rfl, rfl⟩

theorem narrows_pullInbound (connection : Connection) (number : Nat) :
    Narrows connection (connection.pullInbound number).2 := by
  unfold pullInbound
  split
  · exact .refl connection
  · split
    · exact .refl connection
    · split
      · exact narrows_replenish _ _ _ _
      · exact narrows_updateInbound _ _ _ fun _ => ⟨rfl, rfl⟩
      · split
        · exact .refl connection
        · exact narrows_updateInbound _ _ _ fun _ => ⟨rfl, rfl⟩

theorem narrows_dropInbound (connection : Connection) (number : Nat) :
    Narrows connection (connection.dropInbound number) := by
  unfold dropInbound
  split
  · exact .refl connection
  · rename_i stream _
    have dropped : Narrows connection
        ((connection.cancelSink stream.streamId).updateInbound number
          (fun stream => { stream with isDone := true })) :=
      (narrows_cancelSink _ _).trans
        (narrows_updateInbound _ _ _ fun _ => ⟨rfl, rfl⟩)
    split
    · exact .refl connection
    · dsimp only
      split
      · exact dropped.trans (narrows_cancelOutbound _ _)
      · exact dropped

theorem narrows_endProducer (connection : Connection) (number : Nat)
    (streamId : UInt64) :
    Narrows connection (connection.endProducer number streamId) := by
  refine Narrows.trans ?_ (narrows_removeOutbound _ _)
  exact narrows_updateProducer _ _ _ fun _ => rfl

theorem narrows_takeCredit (connection : Connection) (number : Nat) :
    Narrows connection (connection.takeCredit number) := by
  unfold takeCredit
  split
  · exact narrows_updateProducer _ _ _ fun _ => rfl
  · exact .refl connection

theorem narrows_produce (connection : Connection) (number : Nat)
    (signal : Signal (Outcome Message)) :
    Narrows connection (connection.produce number signal) := by
  unfold produce
  split
  · split
    · exact .refl connection
    · rw [send_eq]
      dsimp only
      split
      · exact (narrows_post _ _).trans (narrows_endProducer _ _ _)
      · exact (narrows_post _ _).trans (narrows_updateProducer _ _ _ fun _ => rfl)
  · exact .refl connection

theorem narrows_respond (connection : Connection) (number : Nat)
    (result : Outcome Message) :
    Narrows connection (connection.respond number result) := by
  unfold respond
  split
  · exact (narrows_post _ _).trans (narrows_endProducer _ _ _)
  · exact .refl connection

theorem narrows_receiveNext (connection : Connection) (streamId : UInt64)
    (envelope : Envelope) :
    Narrows connection (connection.receiveNext streamId envelope) := by
  unfold receiveNext
  split
  · exact .refl connection
  · exact (narrows_removeSink _ _).trans (narrows_deliverTo _ _ _)
  · exact narrows_deliverTo _ _ _
  · exact (narrows_failSink _ _ _).trans (narrows_post _ _)

theorem narrows_receiveGrant (connection : Connection) (streamId : UInt64)
    (count : UInt32) :
    Narrows connection (connection.receiveGrant streamId count) := by
  unfold receiveGrant
  split
  · exact .refl connection
  · rename_i number _
    have granted := narrows_updateProducer connection number
      (fun producer => { producer with credits := producer.credits + count.toNat })
      fun _ => rfl
    dsimp only
    split
    · exact granted
    · exact granted.trans { Narrows.refl _ with }

theorem narrows_write (connection : Connection) :
    Narrows connection connection.write.2 := by
  unfold write transmit
  split
  · rename_i written
    split at written
    · simp at written
    · simp only [Option.some.injEq, Prod.mk.injEq] at written
      rw [← written.2]
      exact { Narrows.refl connection with }
  · exact .refl connection

/-! ## Operations that open a call -/

theorem requestResponse_of_encode_error {connection : Connection} {message : Message}
    {error : CallError} (fails : connection.codec.encode message = .error error) :
    connection.requestResponse message = (.error error, connection) := by
  simp [requestResponse, fails]

theorem requestResponse_closed {connection : Connection} {message : Message}
    {envelope : Envelope} (encodes : connection.codec.encode message = .ok envelope)
    (closed : connection.isClosed = true) :
    connection.requestResponse message =
      (.error connection.closedError,
        { connection with
          nextStreamId := connection.nextStreamId + 2
          replies := connection.replies ++ [⟨connection.nextStreamId, none, true⟩]
          sinks := connection.sinks.remove connection.nextStreamId }) := by
  simp [requestResponse, encodes, allocate, registerSink, closed, removeSink,
    updateReply, closedError, modify_concat]

theorem requestResponse_open {connection : Connection} {message : Message}
    {envelope : Envelope} (encodes : connection.codec.encode message = .ok envelope)
    (running : connection.isClosed = false) (writing : connection.writes = true) :
    connection.requestResponse message =
      (.ok connection.replies.length,
        { connection with
          nextStreamId := connection.nextStreamId + 2
          replies := connection.replies ++ [⟨connection.nextStreamId, none, false⟩]
          sinks := connection.sinks.put connection.nextStreamId
            (.reply connection.replies.length)
          queue := connection.queue ++
            [.request .requestResponse connection.nextStreamId envelope] }) := by
  simp [requestResponse, encodes, allocate, registerSink, running, send, writing]

theorem openStream_of_encode_error {connection : Connection} {mode : Mode}
    {message : Message} {error : CallError}
    (fails : connection.codec.encode message = .error error) :
    connection.openStream mode message = (.error error, connection) := by
  simp [openStream, fails]

theorem openStream_closed {connection : Connection} {mode : Mode} {message : Message}
    {envelope : Envelope} (encodes : connection.codec.encode message = .ok envelope)
    (closed : connection.isClosed = true) :
    connection.openStream mode message =
      (.error connection.closedError,
        { connection with
          nextStreamId := connection.nextStreamId + 2
          inbound := connection.inbound ++ [⟨connection.nextStreamId, true, [], 0, true⟩]
          sinks := connection.sinks.remove connection.nextStreamId }) := by
  simp [openStream, encodes, allocate, registerSink, closed, removeSink,
    updateInbound, closedError, modify_concat]

theorem openStream_open {connection : Connection} {mode : Mode} {message : Message}
    {envelope : Envelope} (encodes : connection.codec.encode message = .ok envelope)
    (running : connection.isClosed = false) (writing : connection.writes = true) :
    connection.openStream mode message =
      (.ok (connection.nextStreamId, connection.inbound.length),
        { connection with
          nextStreamId := connection.nextStreamId + 2
          inbound := connection.inbound ++ [⟨connection.nextStreamId, true, [], 0, false⟩]
          sinks := connection.sinks.put connection.nextStreamId
            (.stream connection.inbound.length)
          queue := connection.queue ++ [.request mode connection.nextStreamId envelope] }) := by
  simp [openStream, encodes, allocate, registerSink, running, send, writing]

/-- The three ways in which a call for one response can go. -/
theorem requestResponse_cases {connection : Connection} (wired : Wired connection)
    (message : Message) :
    (∃ error, connection.codec.encode message = .error error ∧
      connection.requestResponse message = (.error error, connection)) ∨
    (∃ envelope, connection.codec.encode message = .ok envelope ∧ connection.isClosed = true ∧
      connection.requestResponse message =
        (.error connection.closedError,
          { connection with
            nextStreamId := connection.nextStreamId + 2
            replies := connection.replies ++ [⟨connection.nextStreamId, none, true⟩]
            sinks := connection.sinks.remove connection.nextStreamId })) ∨
    ∃ envelope, connection.codec.encode message = .ok envelope ∧ connection.isClosed = false ∧
      connection.requestResponse message =
        (.ok connection.replies.length,
          { connection with
            nextStreamId := connection.nextStreamId + 2
            replies := connection.replies ++ [⟨connection.nextStreamId, none, false⟩]
            sinks := connection.sinks.put connection.nextStreamId
              (.reply connection.replies.length)
            queue := connection.queue ++
              [.request .requestResponse connection.nextStreamId envelope] }) := by
  cases encodes : connection.codec.encode message with
  | error error => exact .inl ⟨error, rfl, requestResponse_of_encode_error encodes⟩
  | ok envelope =>
      by_cases closed : connection.isClosed = true
      · exact .inr (.inl ⟨envelope, rfl, closed, requestResponse_closed encodes closed⟩)
      · have running := Bool.not_eq_true _ ▸ closed
        exact .inr (.inr ⟨envelope, rfl, running,
          requestResponse_open encodes running (wired.writing running)⟩)

/-- The three ways in which opening a stream can go. -/
theorem openStream_cases {connection : Connection} (wired : Wired connection) (mode : Mode)
    (message : Message) :
    (∃ error, connection.codec.encode message = .error error ∧
      connection.openStream mode message = (.error error, connection)) ∨
    (∃ envelope, connection.codec.encode message = .ok envelope ∧ connection.isClosed = true ∧
      connection.openStream mode message =
        (.error connection.closedError,
          { connection with
            nextStreamId := connection.nextStreamId + 2
            inbound := connection.inbound ++ [⟨connection.nextStreamId, true, [], 0, true⟩]
            sinks := connection.sinks.remove connection.nextStreamId })) ∨
    ∃ envelope, connection.codec.encode message = .ok envelope ∧ connection.isClosed = false ∧
      connection.openStream mode message =
        (.ok (connection.nextStreamId, connection.inbound.length),
          { connection with
            nextStreamId := connection.nextStreamId + 2
            inbound := connection.inbound ++ [⟨connection.nextStreamId, true, [], 0, false⟩]
            sinks := connection.sinks.put connection.nextStreamId
              (.stream connection.inbound.length)
            queue := connection.queue ++ [.request mode connection.nextStreamId envelope] }) := by
  cases encodes : connection.codec.encode message with
  | error error => exact .inl ⟨error, rfl, openStream_of_encode_error encodes⟩
  | ok envelope =>
      by_cases closed : connection.isClosed = true
      · exact .inr (.inl ⟨envelope, rfl, closed, openStream_closed encodes closed⟩)
      · have running := Bool.not_eq_true _ ▸ closed
        exact .inr (.inr ⟨envelope, rfl, running,
          openStream_open encodes running (wired.writing running)⟩)

theorem extends_startProducer (connection : Connection) (streamId : UInt64)
    (credits : Nat) (phase : ProducerPhase) :
    Extends connection (connection.startProducer streamId credits phase).2 :=
  { Extends.refl connection with
    producers := by
      intro number producer present
      have within := (List.getElem?_eq_some_iff.mp present).1
      exact ⟨producer, by simpa [startProducer, List.getElem?_append_left within]
        using present, rfl⟩ }

theorem Wired.startProducer {connection : Connection} (wired : Wired connection)
    (streamId : UInt64) (credits : Nat) (phase : ProducerPhase) :
    Wired (connection.startProducer streamId credits phase).2 where
  writing := wired.writing
  reply := wired.reply
  stream := wired.stream
  producer other number listed := by
    simp only [Connection.startProducer, Table.find?_put] at listed ⊢
    split at listed
    · rename_i same
      simp only [Option.some.injEq] at listed
      exact ⟨⟨streamId, credits, phase⟩, by simp [← listed], same.symm⟩
    · rcases wired.producer other number listed with ⟨producer, present, carries⟩
      have within := (List.getElem?_eq_some_iff.mp present).1
      exact ⟨producer, by simpa [List.getElem?_append_left within] using present, carries⟩

theorem Wired.putReply {connection : Connection} (wired : Wired connection)
    (number : Nat) (reply : PendingReply)
    (present : connection.replies[number]? = some reply) :
    Wired { connection with
      sinks := connection.sinks.put reply.streamId (.reply number) } where
  writing := wired.writing
  reply other found sink := by
    simp only [Table.find?_put] at sink
    split at sink
    · rename_i same
      simp only [Option.some.injEq, Sink.reply.injEq] at sink
      subst sink
      exact ⟨reply, present, same.symm⟩
    · exact wired.reply other found sink
  stream other found sink := by
    simp only [Table.find?_put] at sink
    split at sink
    · simp at sink
    · exact wired.stream other found sink
  producer := wired.producer

theorem Wired.putStream {connection : Connection} (wired : Wired connection)
    (number : Nat) (stream : InboundStream)
    (present : connection.inbound[number]? = some stream) :
    Wired { connection with
      sinks := connection.sinks.put stream.streamId (.stream number) } where
  writing := wired.writing
  reply other found sink := by
    simp only [Table.find?_put] at sink
    split at sink
    · simp at sink
    · exact wired.reply other found sink
  stream other found sink := by
    simp only [Table.find?_put] at sink
    split at sink
    · rename_i same
      simp only [Option.some.injEq, Sink.stream.injEq] at sink
      subst sink
      exact ⟨stream, present, same.symm⟩
    · exact wired.stream other found sink
  producer := wired.producer

theorem thins_awaiting (connection : Connection) (reply : PendingReply)
    (streamId : UInt64) :
    Thins connection
      { connection with
        nextStreamId := connection.nextStreamId + 2
        replies := connection.replies ++ [reply]
        sinks := connection.sinks.remove streamId } :=
  { (narrows_removeSink connection streamId).toThins with
    replies := by
      intro number old present
      have within := (List.getElem?_eq_some_iff.mp present).1
      exact ⟨old, by simpa [List.getElem?_append_left within] using present, rfl⟩ }

theorem thins_pulling (connection : Connection) (stream : InboundStream)
    (streamId : UInt64) :
    Thins connection
      { connection with
        nextStreamId := connection.nextStreamId + 2
        inbound := connection.inbound ++ [stream]
        sinks := connection.sinks.remove streamId } :=
  { (narrows_removeSink connection streamId).toThins with
    inbound := by
      intro number old present
      have within := (List.getElem?_eq_some_iff.mp present).1
      exact ⟨old, by simpa [List.getElem?_append_left within] using present, rfl, rfl⟩ }

theorem extends_requestResponse {connection : Connection} (wired : Wired connection)
    (message : Message) :
    Extends connection (connection.requestResponse message).2 ∧
      Wired (connection.requestResponse message).2 := by
  rcases requestResponse_cases wired message with
    ⟨_, _, equal⟩ | ⟨_, _, _, equal⟩ | ⟨_, _, _, equal⟩
  · rw [equal]
    exact ⟨.refl connection, wired⟩
  · rw [equal]
    have thins := thins_awaiting connection
      ⟨connection.nextStreamId, none, true⟩ connection.nextStreamId
    exact ⟨thins.toExtends, wired.thins thins⟩
  · rw [equal]
    have thins := thins_awaiting connection
      ⟨connection.nextStreamId, none, false⟩ connection.nextStreamId
    have placed := (wired.thins thins).putReply connection.replies.length
      ⟨connection.nextStreamId, none, false⟩ (by simp)
    simp only [Table.put_remove] at placed
    exact ⟨{ thins.toExtends with }, { placed with }⟩

theorem extends_openStream {connection : Connection} (wired : Wired connection)
    (mode : Mode) (message : Message) :
    Extends connection (connection.openStream mode message).2 ∧
      Wired (connection.openStream mode message).2 := by
  rcases openStream_cases wired mode message with
    ⟨_, _, equal⟩ | ⟨_, _, _, equal⟩ | ⟨_, _, _, equal⟩
  · rw [equal]
    exact ⟨.refl connection, wired⟩
  · rw [equal]
    have thins := thins_pulling connection
      ⟨connection.nextStreamId, true, [], 0, true⟩ connection.nextStreamId
    exact ⟨thins.toExtends, wired.thins thins⟩
  · rw [equal]
    have thins := thins_pulling connection
      ⟨connection.nextStreamId, true, [], 0, false⟩ connection.nextStreamId
    have placed := (wired.thins thins).putStream connection.inbound.length
      ⟨connection.nextStreamId, true, [], 0, false⟩ (by simp)
    simp only [Table.put_remove] at placed
    exact ⟨{ thins.toExtends with }, { placed with }⟩

theorem extends_requestChannel {connection : Connection} (wired : Wired connection)
    (first : Option (Outcome Message)) :
    Extends connection (connection.requestChannel first).2 ∧
      Wired (connection.requestChannel first).2 := by
  unfold requestChannel
  split
  · exact ⟨.refl connection, wired⟩
  · exact ⟨.refl connection, wired⟩
  · rename_i message
    have opened := extends_openStream wired .requestChannel message
    split
    · rename_i _ failed equal
      rw [equal] at opened
      exact opened
    · rename_i _ _ started equal
      rw [equal] at opened
      exact ⟨opened.1.trans (extends_startProducer _ _ _ _),
        opened.2.startProducer _ _ _⟩

theorem extends_fireAndForget {connection : Connection} (wired : Wired connection)
    (message : Message) :
    Extends connection (connection.fireAndForget message).2 ∧
      Wired (connection.fireAndForget message).2 := by
  have thins : Thins connection (connection.fireAndForget message).2 := by
    simp only [fireAndForget, send_eq]
    split
    · exact (Narrows.refl connection).toThins
    · have allocated : Thins connection connection.allocate.2 :=
        { (Narrows.refl connection).toThins with }
      have posted := fun frame => (narrows_post connection.allocate.2 frame).toThins
      split <;>
        (rename_i sent; rw [Prod.mk.injEq] at sent; rw [← sent.2]
         exact allocated.trans (posted _))
  exact ⟨thins.toExtends, wired.thins thins⟩

theorem extends_openRequests {connection : Connection} (wired : Wired connection)
    (streamId : UInt64) :
    Extends connection (connection.openRequests streamId).2 ∧
      Wired (connection.openRequests streamId).2 := by
  have thins := thins_pulling connection ⟨streamId, false, [], 0, false⟩ streamId
  have placed := (wired.thins thins).putStream connection.inbound.length
    ⟨streamId, false, [], 0, false⟩ (by simp)
  simp only [Table.put_remove] at placed
  exact ⟨{ thins.toExtends with }, { placed with }⟩

theorem extends_accept {connection : Connection} (wired : Wired connection)
    (mode : Mode) (streamId : UInt64) (message : Message) :
    Extends connection (connection.accept mode streamId message).2 ∧
      Wired (connection.accept mode streamId message).2 := by
  cases mode with
  | fireAndForget => exact ⟨.refl connection, wired⟩
  | requestResponse =>
      exact ⟨extends_startProducer _ _ _ _, wired.startProducer _ _ _⟩
  | requestStream =>
      exact ⟨extends_startProducer _ _ _ _, wired.startProducer _ _ _⟩
  | requestChannel =>
      rcases extends_openRequests wired streamId with ⟨wide, registered⟩
      exact ⟨wide.trans (extends_startProducer _ _ _ _), registered.startProducer _ _ _⟩

theorem narrows_reject (connection : Connection) (mode : Mode) (streamId : UInt64)
    (error : CallError) :
    Narrows connection (connection.reject mode streamId error) := by
  unfold reject
  split
  · exact .refl connection
  · exact narrows_post _ _

theorem extends_receiveRequest {connection : Connection} (wired : Wired connection)
    (mode : Mode) (streamId : UInt64) (envelope : Envelope) :
    Extends connection (connection.receiveRequest mode streamId envelope).2 ∧
      Wired (connection.receiveRequest mode streamId envelope).2 := by
  unfold receiveRequest
  split
  · have narrows := narrows_reject connection mode streamId
    exact ⟨(narrows _).toExtends, wired.narrows (narrows _)⟩
  · split
    · have narrows := narrows_reject connection mode streamId
      exact ⟨(narrows _).toExtends, wired.narrows (narrows _)⟩
    · exact extends_accept wired mode streamId _

/-- Whether an action may open a call or accept one. -/
def Action.mayAdd : Action → Bool
  | .receive (.request _ _ _) => true
  | action => action.opensCall

theorem narrows_receive (connection : Connection) {frame : Frame}
    (settled : (Action.receive frame).mayAdd = false) :
    Narrows connection (connection.receive frame).2 := by
  cases reading : connection.reads with
  | false =>
      rw [receive_stopped reading]
      exact .refl connection
  | true =>
      cases frame with
      | request mode streamId envelope => simp [Action.mayAdd] at settled
      | next streamId envelope =>
          rw [receive_next reading]
          exact narrows_receiveNext _ _ _
      | complete streamId =>
          rw [receive_complete reading]
          exact narrows_removeSink _ _
      | error streamId code text =>
          rw [receive_error reading]
          exact narrows_failSink _ _ _
      | cancel streamId =>
          cases side : connection.role with
          | client =>
              rw [receive_cancel_client reading side]
              exact narrows_cancelOutbound _ _
          | server =>
              rw [receive_cancel_server reading side]
              exact (narrows_cancelOutbound _ _).trans (narrows_removeSink _ _)
      | requestN streamId count =>
          rw [receive_requestN reading]
          exact narrows_receiveGrant _ _ _

theorem extends_receive {connection : Connection} (wired : Wired connection)
    (frame : Frame) :
    Extends connection (connection.receive frame).2 ∧
      Wired (connection.receive frame).2 := by
  cases adds : (Action.receive frame).mayAdd with
  | false =>
      have narrows := narrows_receive connection adds
      exact ⟨narrows.toExtends, wired.narrows narrows⟩
  | true =>
      cases frame with
      | request mode streamId envelope =>
          cases reading : connection.reads with
          | false =>
              rw [receive_stopped reading]
              exact ⟨.refl connection, wired⟩
          | true =>
              cases side : connection.role with
              | client =>
                  rw [receive_request_client reading side]
                  exact ⟨.refl connection, wired⟩
              | server =>
                  rw [receive_request_server reading side]
                  exact extends_receiveRequest wired mode streamId envelope
      | _ => simp [Action.mayAdd, Action.opensCall] at adds

/-- An action that opens and accepts no call adds nothing. -/
theorem narrows_perform (connection : Connection) {action : Action}
    (settled : action.mayAdd = false) :
    Narrows connection (connection.perform action).2 := by
  cases action with
  | fireAndForget message => simp [Action.mayAdd, Action.opensCall] at settled
  | requestResponse message => simp [Action.mayAdd, Action.opensCall] at settled
  | requestStream message => simp [Action.mayAdd, Action.opensCall] at settled
  | requestChannel first => simp [Action.mayAdd, Action.opensCall] at settled
  | pollReply number => exact narrows_pollReply _ _
  | dropReply number => exact narrows_dropReply _ _
  | pullInbound number => exact narrows_pullInbound _ _
  | dropInbound number => exact narrows_dropInbound _ _
  | takeCredit number => exact narrows_takeCredit _ _
  | produce number signal => exact narrows_produce _ _ _
  | respond number result => exact narrows_respond _ _ _
  | receive frame => exact narrows_receive _ settled
  | transmit => exact narrows_write _
  | close => exact narrows_close _
  | endReader => exact narrows_endReader _
  | endWriter => exact narrows_endWriter _

/--
No action renames what is there already, and what stands under a stream id
after it carries that id.
-/
theorem extends_perform {connection : Connection} (wired : Wired connection)
    (action : Action) :
    Extends connection (connection.perform action).2 ∧
      Wired (connection.perform action).2 := by
  cases adds : action.mayAdd with
  | false =>
      have narrows := narrows_perform connection adds
      exact ⟨narrows.toExtends, wired.narrows narrows⟩
  | true =>
      cases action with
      | fireAndForget message => exact extends_fireAndForget wired message
      | requestResponse message => exact extends_requestResponse wired message
      | requestStream message => exact extends_openStream wired .requestStream message
      | requestChannel first => exact extends_requestChannel wired first
      | receive frame => exact extends_receive wired frame
      | _ => simp [Action.mayAdd, Action.opensCall] at adds

theorem wired_spawn (role : Role) (peer : String) (codec : MessageCodec)
    (config : Config) :
    Wired (spawn role peer codec config) where
  writing _ := rfl
  reply _ _ sink := by simp [spawn] at sink
  stream _ _ sink := by simp [spawn] at sink
  producer _ _ listed := by simp [spawn] at listed

theorem wired_after {connection : Connection} (wired : Wired connection)
    (actions : List Action) :
    Wired (connection.after actions) := by
  induction actions generalizing connection with
  | nil => exact wired
  | cons action actions induction =>
      exact induction (extends_perform wired action).2

theorem extends_after {connection : Connection} (wired : Wired connection)
    (actions : List Action) :
    Extends connection (connection.after actions) := by
  induction actions generalizing connection with
  | nil => exact .refl connection
  | cons action actions induction =>
      have step := extends_perform wired action
      exact step.1.trans (induction step.2)

/-- Every action of a run is taken on a connection between the first one and the last one. -/
theorem wired_of_mem_history {start : Connection} (wired : Wired start)
    {actions : List Action} {step : Step} (member : step ∈ start.history actions) :
    Wired step.before ∧ Extends start step.before ∧
      Extends step.after (start.after actions) := by
  induction actions generalizing start with
  | nil => simp [history] at member
  | cons action actions induction =>
      have now := extends_perform wired action
      rcases List.mem_cons.mp member with same | later
      · subst same
        exact ⟨wired, .refl start, extends_after now.2 actions⟩
      · rcases induction now.2 later with ⟨wiredThere, fromThere, toEnd⟩
        exact ⟨wiredThere, now.1.trans fromThere, toEnd⟩

end Connection

end ServiceMesh
