import ServiceMesh.Proofs.Connection.Closing
import ServiceMesh.Proofs.Flow.Signals

/-!
# Calls that cannot start

A call is registered before its request is queued, so a call that fails to start has to be taken
back.  Why it fails is one of few obstacles (`failure_iff`).  What is left of it is a record that
nobody holds and, unless its message could not be encoded, the stream id that it has used up
(`leavesNoTrace_of_obstacle`).

This needs that nothing stands under the id of a call that is refused.  On a client it is so
(`fresh_of_reached`): ids are used once, and on a closed connection nothing is registered.  The main
statement is `failed_starts_leave_no_trace`.
-/

namespace ServiceMesh.Connection

/-- The message that a call starts with. -/
def Action.firstMessage? : Action → Option Message
  | .fireAndForget message | .requestResponse message | .requestStream message => some message
  | .requestChannel (some (.ok message)) => some message
  | _ => none

/-- Whether an action opens a call that gets responses. -/
def Action.awaits : Action → Bool
  | .requestResponse _ | .requestStream _ | .requestChannel _ => true
  | _ => false

/-- The error that an action which starts a call gives in place of the call. -/
def Observation.failure? : Observation → Option CallError
  | .sent (.error error) | .opened (.error error) | .channel (.error error) => some error
  | _ => none

/-- Why a call cannot start, and the error for it. -/
inductive Obstacle (connection : Connection) : Action → CallError → Prop where
  /-- A channel has no request. -/
  | noRequest : Obstacle connection (.requestChannel none) Dispatcher.missingRequest
  /-- A channel begins with an error. -/
  | failedRequest (error : CallError) :
      Obstacle connection (.requestChannel (some (.error error))) error
  /-- The first message cannot be encoded. -/
  | unencodable {action : Action} {message : Message} {error : CallError}
      (begins : action.firstMessage? = some message)
      (fails : connection.codec.encode message = .error error) :
      Obstacle connection action error
  /-- No more responses can come. -/
  | closed {action : Action} {message : Message} {envelope : Envelope}
      (begins : action.firstMessage? = some message)
      (encodes : connection.codec.encode message = .ok envelope)
      (awaits : action.awaits = true) (closed : connection.isClosed = true) :
      Obstacle connection action connection.closedError
  /-- The queue takes no more frames. -/
  | stopped {action : Action} {message : Message} {envelope : Envelope}
      (begins : action.firstMessage? = some message)
      (encodes : connection.codec.encode message = .ok envelope)
      (stopped : connection.writes = false) :
      Obstacle connection action connection.closedError

/-- A later connection is as an earlier one, but for a record that nobody holds and an id that is
used up. -/
structure LeavesNoTrace (connection later : Connection) : Prop where
  settings : (later.role, later.peer, later.codec, later.window) =
    (connection.role, connection.peer, connection.codec, connection.window)
  sinks : later.sinks = connection.sinks
  outbound : later.outbound = connection.outbound
  queue : later.queue = connection.queue
  producers : later.producers = connection.producers
  status : later.status = connection.status
  replies : ∃ own, later.replies = connection.replies ++ own ∧
    ∀ reply ∈ own, reply.isFinished = true ∧ reply.result = none
  inbound : ∃ own, later.inbound = connection.inbound ++ own ∧
    ∀ stream ∈ own, stream.isDone = true ∧ stream.buffer = []
  nextStreamId : later.nextStreamId = connection.nextStreamId ∨
    later.nextStreamId = connection.nextStreamId + 2

/-- The connection with a reply that nobody waits for, under an id of its own. -/
def withLostReply (connection : Connection) : Connection :=
  { connection with
    nextStreamId := connection.nextStreamId + 2
    replies := connection.replies ++ [⟨connection.nextStreamId, none, true⟩]
    sinks := connection.sinks.remove connection.nextStreamId }

/-- The connection with an inbound stream that nobody pulls, under an id of its own. -/
def withLostStream (connection : Connection) : Connection :=
  { connection with
    nextStreamId := connection.nextStreamId + 2
    inbound := connection.inbound ++ [⟨connection.nextStreamId, true, [], 0, true⟩]
    sinks := connection.sinks.remove connection.nextStreamId }

/-- Nothing stands under the id of the next call. -/
structure Fresh (connection : Connection) : Prop where
  sink : connection.sinks.find? connection.nextStreamId = none
  producer : connection.outbound.find? connection.nextStreamId = none

/-- The states of a client, each with the number of calls that were opened on the way.  The queue
may be lost at any moment, also on a connection that nobody has closed. -/
inductive ClientState (peer : String) (codec : MessageCodec) (config : Config) :
    Nat → Connection → Prop where
  /-- Nothing has happened yet. -/
  | start : ClientState peer codec config 0 (spawn .client peer codec config)
  /-- An action is taken. -/
  | step {count : Nat} {connection : Connection}
      (reached : ClientState peer codec config count connection) (action : Action) :
      ClientState peer codec config (count + if action.opensCall then 1 else 0)
        (connection.perform action).2
  /-- The queue is lost. -/
  | loss {count : Nat} {connection : Connection}
      (reached : ClientState peer codec config count connection) :
      ClientState peer codec config count { connection with writes := false }

/-! ## The ways in which a call starts, or does not -/

section

variable {connection : Connection} {message : Message} {envelope : Envelope}
  (encodes : connection.codec.encode message = .ok envelope)

theorem fireAndForget_of_encode_error {error : CallError}
    (fails : connection.codec.encode message = .error error) :
    connection.fireAndForget message = (.error error, connection) := by
  simp [fireAndForget, fails]

include encodes

theorem fireAndForget_writing (writing : connection.writes = true) :
    connection.fireAndForget message =
      (.ok (), { connection with
        nextStreamId := connection.nextStreamId + 2
        queue := connection.queue ++
          [.request .fireAndForget connection.nextStreamId envelope] }) := by
  simp [fireAndForget, encodes, allocate, send, writing]

theorem fireAndForget_stopped (stopped : connection.writes = false) :
    connection.fireAndForget message =
      (.error connection.closedError,
        { connection with nextStreamId := connection.nextStreamId + 2 }) := by
  simp [fireAndForget, encodes, allocate, send, stopped, closedError]

theorem requestResponse_stopped (running : connection.isClosed = false)
    (stopped : connection.writes = false) :
    connection.requestResponse message =
      (.error connection.closedError, connection.withLostReply) := by
  simp [requestResponse, encodes, allocate, registerSink, running, send, stopped, dropReply,
    cancelSink_eq, admitted, removeSink, updateReply, closedError, modify_concat, withLostReply]

theorem openStream_stopped (mode : Mode) (running : connection.isClosed = false)
    (stopped : connection.writes = false) :
    connection.openStream mode message =
      (.error connection.closedError,
        connection.withLostStream.cancelOutbound connection.nextStreamId) := by
  simp [openStream, encodes, allocate, registerSink, running, send, stopped, dropInbound,
    cancelSink_eq, admitted, removeSink, updateInbound, closedError, modify_concat, withLostStream]

end

/-! ## Why a call fails to start -/

section

variable {connection : Connection} {action : Action} {message : Message} {envelope : Envelope}

/-- The four actions that start a call with a message. -/
theorem firstMessage?_cases (begins : action.firstMessage? = some message) :
    action = .fireAndForget message ∨ action = .requestResponse message ∨
      action = .requestStream message ∨ action = .requestChannel (some (.ok message)) := by
  cases action with
  | fireAndForget other => exact .inl (congrArg _ (Option.some.inj begins))
  | requestResponse other => exact .inr (.inl (congrArg _ (Option.some.inj begins)))
  | requestStream other => exact .inr (.inr (.inl (congrArg _ (Option.some.inj begins))))
  | requestChannel first =>
      rcases first with _ | _ | other
      · cases begins
      · cases begins
      · obtain rfl := Option.some.inj begins
        exact .inr (.inr (.inr rfl))
  | _ => cases begins

theorem perform_of_encode_error {error : CallError} (begins : action.firstMessage? = some message)
    (fails : connection.codec.encode message = .error error) :
    (connection.perform action).1.failure? = some error ∧
      (connection.perform action).2 = connection := by
  have unopened (mode : Mode) :
      connection.openStream mode message = (.error error, connection) :=
    openStream_of_encode_error fails
  rcases firstMessage?_cases begins with rfl | rfl | rfl | rfl
  · simp [perform, fireAndForget_of_encode_error fails, Observation.failure?]
  · simp [perform, requestResponse_of_encode_error fails, Observation.failure?]
  · simp [perform, requestStream, unopened, Observation.failure?, Except.map]
  · simp [perform, requestChannel_of_error (unopened _), Observation.failure?]

theorem failure_of_closed (begins : action.firstMessage? = some message)
    (encodes : connection.codec.encode message = .ok envelope) (awaits : action.awaits = true)
    (closed : connection.isClosed = true) :
    (connection.perform action).1.failure? = some connection.closedError := by
  have unopened (mode : Mode) :
      connection.openStream mode message =
        (.error connection.closedError, connection.withLostStream) :=
    openStream_closed encodes closed
  rcases firstMessage?_cases begins with rfl | rfl | rfl | rfl
  · cases awaits
  · simp [perform, requestResponse_closed encodes closed, Observation.failure?]
  · simp [perform, requestStream, unopened, Observation.failure?, Except.map]
  · simp [perform, requestChannel_of_error (unopened _), Observation.failure?]

theorem failure_of_stopped (begins : action.firstMessage? = some message)
    (encodes : connection.codec.encode message = .ok envelope)
    (stopped : connection.writes = false) :
    (connection.perform action).1.failure? = some connection.closedError := by
  by_cases late : action.awaits = true ∧ connection.isClosed = true
  · exact failure_of_closed begins encodes late.1 late.2
  · have running : action.awaits = true → connection.isClosed = false :=
      fun awaits => Bool.eq_false_iff.mpr fun closed => late ⟨awaits, closed⟩
    rcases firstMessage?_cases begins with rfl | rfl | rfl | rfl
    · simp [perform, fireAndForget_stopped encodes stopped, Observation.failure?]
    · simp [perform, requestResponse_stopped encodes (running rfl) stopped, Observation.failure?]
    · simp [perform, requestStream, openStream_stopped encodes _ (running rfl) stopped,
        Observation.failure?, Except.map]
    · simp [perform, requestChannel_of_error (openStream_stopped encodes _ (running rfl) stopped),
        Observation.failure?]

theorem failure_of_writing (begins : action.firstMessage? = some message)
    (encodes : connection.codec.encode message = .ok envelope)
    (writing : connection.writes = true)
    (running : action.awaits = true → connection.isClosed = false) :
    (connection.perform action).1.failure? = none := by
  rcases firstMessage?_cases begins with rfl | rfl | rfl | rfl
  · simp [perform, fireAndForget_writing encodes writing, Observation.failure?]
  · simp [perform, requestResponse_open encodes (running rfl) writing, Observation.failure?]
  · simp [perform, requestStream, openStream_open encodes (running rfl) writing,
      Observation.failure?, Except.map]
  · simp [perform, requestChannel_of_ok (openStream_open encodes (running rfl) writing),
      Observation.failure?]

/-- What starts no call with a message fails only for want of a first request. -/
theorem obstacle_of_no_message {error : CallError} (nothing : action.firstMessage? = none)
    (fails : (connection.perform action).1.failure? = some error) :
    Obstacle connection action error := by
  cases action with
  | fireAndForget message => cases nothing
  | requestResponse message => cases nothing
  | requestStream message => cases nothing
  | requestChannel first =>
      rcases first with _ | _ | message
      · obtain rfl := Option.some.inj fails
        exact .noRequest
      · obtain rfl := Option.some.inj fails
        exact .failedRequest _
      · cases nothing
  | _ => simp [perform, Observation.failure?] at fails

/-- A call fails to start just if there is an obstacle, and with the error for it. -/
theorem failure_iff {error : CallError} :
    (connection.perform action).1.failure? = some error ↔ Obstacle connection action error := by
  constructor
  · intro fails
    cases begins : action.firstMessage? with
    | none => exact obstacle_of_no_message begins fails
    | some message =>
        cases encodes : connection.codec.encode message with
        | error reason =>
            rw [(perform_of_encode_error begins encodes).1, Option.some.injEq] at fails
            exact fails ▸ .unencodable begins encodes
        | ok envelope =>
            cases writing : connection.writes with
            | false =>
                rw [failure_of_stopped begins encodes writing, Option.some.injEq] at fails
                exact fails ▸ .stopped begins encodes writing
            | true =>
                by_cases late : action.awaits = true ∧ connection.isClosed = true
                · rw [failure_of_closed begins encodes late.1 late.2, Option.some.injEq] at fails
                  exact fails ▸ .closed begins encodes late.1 late.2
                · have running : action.awaits = true → connection.isClosed = false :=
                    fun awaits => Bool.eq_false_iff.mpr fun closed => late ⟨awaits, closed⟩
                  rw [failure_of_writing begins encodes writing running] at fails
                  cases fails
  · intro obstacle
    cases obstacle with
    | noRequest => rfl
    | failedRequest error => rfl
    | unencodable begins fails => exact (perform_of_encode_error begins fails).1
    | closed begins encodes awaits closed => exact failure_of_closed begins encodes awaits closed
    | stopped begins encodes stopped => exact failure_of_stopped begins encodes stopped

end

/-! ## What is left of a call that has not started -/

theorem LeavesNoTrace.refl (connection : Connection) : LeavesNoTrace connection connection where
  settings := rfl
  sinks := rfl
  outbound := rfl
  queue := rfl
  producers := rfl
  status := rfl
  replies := ⟨[], (List.append_nil _).symm, nofun⟩
  inbound := ⟨[], (List.append_nil _).symm, nofun⟩
  nextStreamId := .inl rfl

section

variable {connection : Connection} {action : Action} {message : Message} {envelope : Envelope}

theorem leavesNoTrace_allocate (connection : Connection) :
    LeavesNoTrace connection { connection with nextStreamId := connection.nextStreamId + 2 } :=
  { LeavesNoTrace.refl connection with nextStreamId := .inr rfl }

theorem leavesNoTrace_reply (fresh : Fresh connection) :
    LeavesNoTrace connection connection.withLostReply :=
  { leavesNoTrace_allocate connection with
    sinks := Table.remove_of_find?_eq_none fresh.sink
    replies := ⟨_, rfl, fun reply own => by
      obtain rfl := List.mem_singleton.mp own
      exact ⟨rfl, rfl⟩⟩ }

theorem leavesNoTrace_stream (fresh : Fresh connection) :
    LeavesNoTrace connection connection.withLostStream :=
  { leavesNoTrace_allocate connection with
    sinks := Table.remove_of_find?_eq_none fresh.sink
    inbound := ⟨_, rfl, fun stream own => by
      obtain rfl := List.mem_singleton.mp own
      exact ⟨rfl, rfl⟩⟩ }

/-- A call that gets responses is taken back, whether its sink or its request was refused. -/
theorem leavesNoTrace_of_refused (fresh : Fresh connection)
    (begins : action.firstMessage? = some message) (awaits : action.awaits = true)
    (encodes : connection.codec.encode message = .ok envelope)
    (refused : connection.isClosed = true ∨ connection.writes = false) :
    LeavesNoTrace connection (connection.perform action).2 := by
  have reply : LeavesNoTrace connection (connection.requestResponse message).2 := by
    cases running : connection.isClosed with
    | true =>
        rw [requestResponse_closed encodes running]
        exact leavesNoTrace_reply fresh
    | false =>
        rw [requestResponse_stopped encodes running (refused.resolve_left (by simp [running]))]
        exact leavesNoTrace_reply fresh
  have stream (mode : Mode) : ∃ later,
      connection.openStream mode message = (.error connection.closedError, later) ∧
        LeavesNoTrace connection later := by
    cases running : connection.isClosed with
    | true => exact ⟨_, openStream_closed encodes running, leavesNoTrace_stream fresh⟩
    | false =>
        refine ⟨_, openStream_stopped encodes mode running
          (refused.resolve_left (by simp [running])), ?_⟩
        rw [cancelOutbound_of_none (by exact fresh.producer)]
        exact leavesNoTrace_stream fresh
  rcases firstMessage?_cases begins with rfl | rfl | rfl | rfl
  · cases awaits
  · exact reply
  · rcases stream .requestStream with ⟨later, equal, traceless⟩
    rw [perform, requestStream, equal]
    exact traceless
  · rcases stream .requestChannel with ⟨later, equal, traceless⟩
    rw [perform, requestChannel_of_error equal]
    exact traceless

theorem leavesNoTrace_of_obstacle {error : CallError}
    (fresh : connection.isClosed = true ∨ connection.writes = false → Fresh connection)
    (obstacle : Obstacle connection action error) :
    LeavesNoTrace connection (connection.perform action).2 := by
  cases obstacle with
  | noRequest => exact .refl connection
  | failedRequest error => exact .refl connection
  | unencodable begins fails =>
      rw [(perform_of_encode_error begins fails).2]
      exact .refl connection
  | closed begins encodes awaits closed =>
      exact leavesNoTrace_of_refused (fresh (.inl closed)) begins awaits encodes (.inl closed)
  | stopped begins encodes stopped =>
      cases awaits : action.awaits with
      | true =>
          exact leavesNoTrace_of_refused (fresh (.inr stopped)) begins awaits encodes
            (.inr stopped)
      | false =>
          rcases firstMessage?_cases begins with rfl | rfl | rfl | rfl
          · rw [perform, fireAndForget_stopped encodes stopped]
            exact leavesNoTrace_allocate connection
          · cases awaits
          · cases awaits
          · cases awaits

end

/-! ## The ids of a client -/

/-- The ids that are used up are the first odd numbers, and nothing stands under another id.  Once
the connection is closed nothing is registered at all. -/
structure Numbered (issued : Nat) (connection : Connection) : Prop where
  role : connection.role = .client
  next : connection.nextStreamId = UInt64.ofNat (1 + 2 * issued)
  sinks : ∀ streamId sink, connection.sinks.find? streamId = some sink →
    streamId ∈ oddIds issued
  outbound : ∀ streamId number, connection.outbound.find? streamId = some number →
    streamId ∈ oddIds issued
  bare : connection.isClosed = true → Bare connection

/-- One id is used up, and entries are added under no other id, and on an open connection only. -/
structure Registers (first second : Connection) : Prop where
  role : second.role = first.role
  isClosed : second.isClosed = first.isClosed
  next : second.nextStreamId = first.nextStreamId + 2
  sinks : ∀ streamId sink, second.sinks.find? streamId = some sink →
    first.sinks.find? streamId = some sink ∨
      first.isClosed = false ∧ streamId = first.nextStreamId
  outbound : ∀ streamId number, second.outbound.find? streamId = some number →
    first.outbound.find? streamId = some number ∨
      first.isClosed = false ∧ streamId = first.nextStreamId

theorem registers_of_thins {first second : Connection} (thins : Thins first second)
    (isClosed : second.isClosed = first.isClosed)
    (next : second.nextStreamId = first.nextStreamId + 2) : Registers first second where
  role := thins.role
  isClosed := isClosed
  next := next
  sinks _ _ present := .inl (thins.sinks _ _ present)
  outbound _ _ present := .inl (thins.outbound _ _ present)

section

variable {connection : Connection} {action : Action} {message : Message} {envelope : Envelope}
  {issued : Nat}

theorem registers_requestResponse (encodes : connection.codec.encode message = .ok envelope) :
    Registers connection (connection.requestResponse message).2 := by
  cases running : connection.isClosed with
  | true =>
      rw [requestResponse_closed encodes running]
      exact registers_of_thins (thins_awaiting _ _ _) rfl rfl
  | false =>
      cases writing : connection.writes with
      | false =>
          rw [requestResponse_stopped encodes running writing]
          exact registers_of_thins (thins_awaiting _ _ _) rfl rfl
      | true =>
          rw [requestResponse_open encodes running writing]
          refine ⟨rfl, rfl, rfl, ?_, fun _ _ present => .inl present⟩
          intro streamId sink present
          simp only [Table.find?_put] at present
          split at present
          · rename_i same
            exact .inr ⟨running, same⟩
          · exact .inl present

theorem registers_openStream (mode : Mode)
    (encodes : connection.codec.encode message = .ok envelope) :
    Registers connection (connection.openStream mode message).2 := by
  cases running : connection.isClosed with
  | true =>
      rw [openStream_closed encodes running]
      exact registers_of_thins (thins_pulling _ _ _) rfl rfl
  | false =>
      cases writing : connection.writes with
      | false =>
          rw [openStream_stopped encodes mode running writing]
          have stops := narrows_cancelOutbound connection.withLostStream connection.nextStreamId
          have status := status_cancelOutbound connection.withLostStream connection.nextStreamId
          exact registers_of_thins ((thins_pulling _ _ _).trans stops.toThins)
            (congrArg (·.2.2) status) stops.nextStreamId
      | true =>
          rw [openStream_open encodes running writing]
          refine ⟨rfl, rfl, rfl, ?_, fun _ _ present => .inl present⟩
          intro streamId sink present
          simp only [Table.find?_put] at present
          split at present
          · rename_i same
            exact .inr ⟨running, same⟩
          · exact .inl present

theorem Registers.startPump {first second : Connection} (registers : Registers first second)
    (running : first.isClosed = false) :
    Registers first (second.startPump first.nextStreamId).2 :=
  { registers with
    outbound := by
      intro streamId number present
      simp only [Connection.startPump, startProducer, Table.find?_put] at present
      split at present
      · rename_i same
        exact .inr ⟨running, same⟩
      · exact registers.outbound _ _ present }

theorem registers_requestChannel (encodes : connection.codec.encode message = .ok envelope) :
    Registers connection (connection.requestChannel (some (.ok message))).2 := by
  have opened := registers_openStream .requestChannel encodes
  cases running : connection.isClosed with
  | true =>
      have equal : connection.openStream .requestChannel message =
          (.error connection.closedError, connection.withLostStream) :=
        openStream_closed encodes running
      rw [equal] at opened
      rw [requestChannel_of_error equal]
      exact opened
  | false =>
      cases writing : connection.writes with
      | false =>
          have equal := openStream_stopped encodes .requestChannel running writing
          rw [equal] at opened
          rw [requestChannel_of_error equal]
          exact opened
      | true =>
          rw [openStream_open encodes running writing] at opened
          rw [requestChannel_of_ok (openStream_open encodes running writing)]
          exact opened.startPump running

theorem registers_fireAndForget (encodes : connection.codec.encode message = .ok envelope) :
    Registers connection (connection.fireAndForget message).2 := by
  have allocated : Registers connection
      { connection with nextStreamId := connection.nextStreamId + 2 } :=
    registers_of_thins { (Narrows.refl connection).toThins with } rfl rfl
  cases writing : connection.writes with
  | false =>
      rw [fireAndForget_stopped encodes writing]
      exact allocated
  | true =>
      rw [fireAndForget_writing encodes writing]
      exact { allocated with }

theorem registers_perform (begins : action.firstMessage? = some message)
    (encodes : connection.codec.encode message = .ok envelope) :
    Registers connection (connection.perform action).2 := by
  rcases firstMessage?_cases begins with rfl | rfl | rfl | rfl
  · exact registers_fireAndForget encodes
  · exact registers_requestResponse encodes
  · exact registers_openStream .requestStream encodes
  · exact registers_requestChannel encodes

theorem Numbered.registers {later : Connection} (numbered : Numbered issued connection)
    (registers : Registers connection later) : Numbered (issued + 1) later where
  role := registers.role.trans numbered.role
  next := by rw [registers.next, numbered.next, oddId_add_two]
  sinks streamId sink present := by
    rw [oddIds_succ, List.mem_append, List.mem_singleton, ← numbered.next]
    exact (registers.sinks _ _ present).imp (numbered.sinks _ _) And.right
  outbound streamId number present := by
    rw [oddIds_succ, List.mem_append, List.mem_singleton, ← numbered.next]
    exact (registers.outbound _ _ present).imp (numbered.outbound _ _) And.right
  bare closed := by
    rw [registers.isClosed] at closed
    have bare := numbered.bare closed
    constructor
    · refine Table.eq_nil_of_find? fun streamId => Option.eq_none_iff_forall_ne_some.mpr ?_
      intro sink present
      rcases registers.sinks _ _ present with before | ⟨running, -⟩
      · exact nomatch (bare.find?_sinks streamId).symm.trans before
      · exact nomatch closed.symm.trans running
    · refine Table.eq_nil_of_find? fun streamId => Option.eq_none_iff_forall_ne_some.mpr ?_
      intro number present
      rcases registers.outbound _ _ present with before | ⟨running, -⟩
      · exact nomatch (bare.find?_outbound streamId).symm.trans before
      · exact nomatch closed.symm.trans running

theorem Numbered.settled (numbered : Numbered issued connection)
    (settled : action.mayAdd = false) : Numbered issued (connection.perform action).2 := by
  have narrows := narrows_perform connection settled
  refine ⟨narrows.role.trans numbered.role, narrows.nextStreamId.trans numbered.next,
    fun _ _ present => numbered.sinks _ _ (narrows.sinks _ _ present),
    fun _ _ present => numbered.outbound _ _ (narrows.outbound _ _ present), fun closed => ?_⟩
  cases running : connection.isClosed with
  | true => exact bare_of_thins narrows.toThins (numbered.bare running)
  | false =>
      cases closing : action.closes with
      | true => exact bare_of_closes running closing
      | false =>
          have same : (connection.perform action).2.isClosed = connection.isClosed := by
            rcases status_of_settled settled closing with same | ⟨-, same⟩ <;>
              exact congrArg (·.2.2) same
          exact nomatch closed.symm.trans (same.trans running)

/-- What an action does to the ids of a client. -/
theorem Numbered.perform (numbered : Numbered issued connection) (action : Action) :
    ∃ later, later ≤ issued + (if action.opensCall then 1 else 0) ∧
      Numbered later (connection.perform action).2 := by
  have unchanged (same : (connection.perform action).2 = connection) :
      ∃ later, later ≤ issued + (if action.opensCall then 1 else 0) ∧
        Numbered later (connection.perform action).2 :=
    ⟨issued, Nat.le_add_right _ _, by rwa [same]⟩
  cases adds : action.mayAdd with
  | false => exact ⟨issued, Nat.le_add_right _ _, numbered.settled adds⟩
  | true =>
      cases begins : action.firstMessage? with
      | some message =>
          cases encodes : connection.codec.encode message with
          | error error => exact unchanged (perform_of_encode_error begins encodes).2
          | ok envelope =>
              have opens : action.opensCall = true := by
                rcases firstMessage?_cases begins with rfl | rfl | rfl | rfl <;> rfl
              rw [opens]
              exact ⟨issued + 1, Nat.le_refl _,
                numbered.registers (registers_perform begins encodes)⟩
      | none =>
          cases action with
          | requestChannel first =>
              rcases first with _ | _ | message
              · exact unchanged rfl
              · exact unchanged rfl
              · cases begins
          | receive frame =>
              cases frame with
              | request mode streamId envelope =>
                  apply unchanged
                  change (connection.receive (.request mode streamId envelope)).2 = connection
                  cases reading : connection.reads with
                  | false => rw [receive_stopped reading]
                  | true => rw [receive_request_client reading numbered.role]
              | _ => simp [Action.mayAdd, Action.opensCall] at adds
          | fireAndForget message => cases begins
          | requestResponse message => cases begins
          | requestStream message => cases begins
          | _ => simp [Action.mayAdd, Action.opensCall] at adds

/-- Ids do not repeat among the first 2^63 ones. -/
theorem next_not_mem_oddIds (numbered : Numbered issued connection) (few : issued < 2 ^ 63) :
    connection.nextStreamId ∉ oddIds issued := by
  have distinct : (oddIds (issued + 1)).Nodup := nodup_oddIds few
  rw [oddIds_succ, List.nodup_append] at distinct
  rw [numbered.next]
  exact fun member => distinct.2.2 _ member _ (List.mem_singleton_self _) rfl

theorem Numbered.fresh (numbered : Numbered issued connection)
    (few : connection.isClosed = false → issued < 2 ^ 63) : Fresh connection := by
  cases running : connection.isClosed with
  | true =>
      have bare := numbered.bare running
      exact ⟨bare.find?_sinks _, bare.find?_outbound _⟩
  | false =>
      have absent := next_not_mem_oddIds numbered (few running)
      constructor
      · exact Option.eq_none_iff_forall_ne_some.mpr fun sink present =>
          absent (numbered.sinks _ _ present)
      · exact Option.eq_none_iff_forall_ne_some.mpr fun number present =>
          absent (numbered.outbound _ _ present)

end

section

variable {peer : String} {codec : MessageCodec} {config : Config} {count : Nat}
  {connection : Connection}

theorem numbered_of_reached (reached : ClientState peer codec config count connection) :
    ∃ issued ≤ count, Numbered issued connection := by
  induction reached with
  | start => exact ⟨0, Nat.le_refl 0, rfl, rfl, nofun, nofun, nofun⟩
  | step reached action induction =>
      rcases induction with ⟨issued, within, numbered⟩
      rcases numbered.perform action with ⟨later, more, numbered⟩
      exact ⟨later, Nat.le_trans more (Nat.add_le_add_right within _), numbered⟩
  | loss reached induction =>
      rcases induction with ⟨issued, within, numbered⟩
      exact ⟨issued, within, numbered.role, numbered.next, numbered.sinks, numbered.outbound,
        fun closed => ⟨(numbered.bare closed).sinks, (numbered.bare closed).outbound⟩⟩

/-- Where calls are refused nothing stands under the id of the next one, unless an open connection
has had as many calls as there are ids. -/
theorem fresh_of_reached (reached : ClientState peer codec config count connection)
    (few : connection.isClosed = false → connection.writes = false → count < 2 ^ 63)
    (refused : connection.isClosed = true ∨ connection.writes = false) : Fresh connection := by
  rcases numbered_of_reached reached with ⟨issued, within, numbered⟩
  refine numbered.fresh fun running => Nat.lt_of_le_of_lt within (few running ?_)
  exact refused.resolve_left (Bool.eq_false_iff.mp running)

/--
A call of a client fails to start just if there is an obstacle.  It gives one error, which is the
only item where a stream is wanted, and leaves no trace; if its message could not be encoded,
nothing at all has changed.
-/
theorem failed_starts_leave_no_trace (reached : ClientState peer codec config count connection)
    (few : connection.isClosed = false → connection.writes = false → count < 2 ^ 63)
    (action : Action) :
    (∀ error, (connection.perform action).1.failure? = some error ↔
      Obstacle connection action error) ∧
    ∀ error, Obstacle connection action error →
      LeavesNoTrace connection (connection.perform action).2 ∧
      (Source.failed error : Source Unit (Outcome Message)).Yields [.error error] ∧
      ((∀ message envelope, action.firstMessage? = some message →
        connection.codec.encode message ≠ .ok envelope) →
          (connection.perform action).2 = connection) := by
  refine ⟨fun error => failure_iff, fun error obstacle => ⟨?_, Source.yields_failed error, ?_⟩⟩
  · exact leavesNoTrace_of_obstacle (fresh_of_reached reached few) obstacle
  · intro unencodable
    cases obstacle with
    | noRequest => rfl
    | failedRequest error => rfl
    | unencodable begins fails => exact (perform_of_encode_error begins fails).2
    | closed begins encodes => exact (unencodable _ _ begins encodes).elim
    | stopped begins encodes => exact (unencodable _ _ begins encodes).elim

end

/-- A client that waits for a reply when the queue is lost. -/
def bereft : Connection :=
  { ((spawn .client "peer" (.ofRegistry .withJson) .standard).perform
      (.requestResponse .blank)).2 with writes := false }

/-- A channel cannot start there, and the reply is waited for as before. -/
theorem bereft_keeps_waiting :
    ClientState "peer" (.ofRegistry .withJson) .standard 1 bereft ∧
      bereft.sinks = [(1, .reply 0)] ∧
      (bereft.perform (.requestChannel (some (.ok .blank)))).1.failure? =
        some bereft.closedError ∧
      LeavesNoTrace bereft (bereft.perform (.requestChannel (some (.ok .blank)))).2 := by
  have reached : ClientState "peer" (.ofRegistry .withJson) .standard 1 bereft :=
    .loss (.step .start (.requestResponse .blank))
  have failed := failed_starts_leave_no_trace reached (fun _ _ => by decide)
    (.requestChannel (some (.ok .blank)))
  have obstacle : Obstacle bereft (.requestChannel (some (.ok .blank))) bereft.closedError :=
    .stopped rfl (show MessageCodec.encode _ .blank = .ok ⟨[], []⟩ from rfl) rfl
  exact ⟨reached, rfl, (failed.1 _).mpr obstacle, (failed.2 _ obstacle).1⟩

end ServiceMesh.Connection
