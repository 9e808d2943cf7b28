import ServiceMesh.Proofs.Connection.Opening

/-!
# Whether a connection still runs

No action but a close, or the end of the reader or of the writer, changes whether a connection reads,
writes and is open.  The one exception is a grant of more credits than a producer can hold, which
brings the reader down (`status_perform`).
-/

namespace ServiceMesh.Connection

/-- Whether a connection writes, whether it reads and whether it is closed. -/
def status (connection : Connection) : Bool × Bool × Bool :=
  (connection.writes, connection.reads, connection.isClosed)

/-- Whether an action ends something for all calls. -/
def Action.closes : Action → Bool
  | .close | .endReader | .endWriter => true
  | _ => false

/-- Whether an action is the end of the reader. -/
def Action.endsReader : Action → Bool
  | .endReader => true
  | _ => false

section

variable (connection : Connection)

@[simp]
theorem status_post (frame : Frame) :
    (connection.post frame).status = connection.status := by
  rw [post_eq]
  rfl

@[simp]
theorem status_deliverTo (sink : Sink) (item : Outcome Message) :
    (connection.deliverTo sink item).status = connection.status := by
  cases sink <;> rfl

@[simp]
theorem status_failSink (streamId : UInt64) (error : CallError) :
    (connection.failSink streamId error).status = connection.status := by
  cases sink : connection.sinks.find? streamId with
  | none => rw [failSink_of_none sink]
  | some found =>
      rw [failSink_of_some sink, status_deliverTo]
      rfl

@[simp]
theorem status_cancelSink (streamId : UInt64) :
    (connection.cancelSink streamId).status = connection.status := by
  rw [cancelSink_eq]
  rfl

@[simp]
theorem status_cancelOutbound (streamId : UInt64) :
    (connection.cancelOutbound streamId).status = connection.status := by
  cases listed : connection.outbound.find? streamId with
  | none => rw [cancelOutbound_of_none listed]
  | some number =>
      rw [cancelOutbound_of_some listed]
      rfl

theorem status_failSinks (error : CallError) :
    (connection.failSinks error).status = connection.status := by
  rw [failSinks]
  generalize connection.sinks.keys = streamIds
  induction streamIds generalizing connection with
  | nil => rfl
  | cons streamId streamIds induction => rw [List.foldl_cons, induction, status_failSink]

theorem status_cancelOutbounds :
    connection.cancelOutbounds.status = connection.status := by
  rw [cancelOutbounds]
  generalize connection.outbound.keys = streamIds
  induction streamIds generalizing connection with
  | nil => rfl
  | cons streamId streamIds induction => rw [List.foldl_cons, induction, status_cancelOutbound]

theorem status_close :
    connection.close.status = (connection.writes, connection.reads, true) := by
  cases running : connection.isClosed with
  | true =>
      rw [close_of_closed running, status, running]
  | false =>
      rw [close_of_open running, status_cancelOutbounds, status_failSinks]
      rfl

@[simp]
theorem status_pollReply (number : Nat) :
    (connection.pollReply number).2.status = connection.status := by
  simp only [pollReply]
  repeat' split
  all_goals rfl

@[simp]
theorem status_dropReply (number : Nat) :
    (connection.dropReply number).status = connection.status := by
  simp only [dropReply]
  repeat' split
  · rfl
  · rfl
  · exact status_cancelSink _ _

@[simp]
theorem status_pullInbound (number : Nat) :
    (connection.pullInbound number).2.status = connection.status := by
  simp only [pullInbound, replenish]
  repeat' split
  all_goals first
    | rfl
    | exact status_post _ _

@[simp]
theorem status_dropInbound (number : Nat) :
    (connection.dropInbound number).status = connection.status := by
  simp only [dropInbound]
  repeat' split
  · rfl
  · rfl
  · rw [status_cancelOutbound]
    exact status_cancelSink _ _
  · exact status_cancelSink _ _

@[simp]
theorem status_takeCredit (number : Nat) :
    (connection.takeCredit number).status = connection.status := by
  simp only [takeCredit]
  split <;> rfl

@[simp]
theorem status_produce (number : Nat) (signal : Signal (Outcome Message)) :
    (connection.produce number signal).status = connection.status := by
  simp only [produce, send_eq]
  repeat' split
  all_goals first
    | rfl
    | exact status_post _ _

@[simp]
theorem status_respond (number : Nat) (result : Outcome Message) :
    (connection.respond number result).status = connection.status := by
  simp only [respond]
  split
  · exact status_post _ _
  · rfl

@[simp]
theorem status_receiveNext (streamId : UInt64) (envelope : Envelope) :
    (connection.receiveNext streamId envelope).status = connection.status := by
  simp only [receiveNext]
  split
  · rfl
  · rfl
  · rfl
  · rw [status_post, status_failSink]

@[simp]
theorem status_write : connection.write.2.status = connection.status := by
  simp only [write, transmit]
  cases connection.queue <;> rfl

@[simp]
theorem status_fireAndForget (message : Message) :
    (connection.fireAndForget message).2.status = connection.status := by
  simp only [fireAndForget, send_eq]
  split
  · rfl
  · split <;> (rename_i sent; rw [Prod.mk.injEq] at sent; rw [← sent.2, status_post]; rfl)

end

section

variable {connection : Connection}

theorem status_requestResponse (wired : Wired connection) (message : Message) :
    (connection.requestResponse message).2.status = connection.status := by
  rcases requestResponse_cases wired message with
    ⟨_, _, equal⟩ | ⟨_, _, _, equal⟩ | ⟨_, _, _, equal⟩ <;> rw [equal] <;> rfl

theorem status_openStream (wired : Wired connection) (mode : Mode) (message : Message) :
    (connection.openStream mode message).2.status = connection.status := by
  rcases openStream_cases wired mode message with
    ⟨_, _, equal⟩ | ⟨_, _, _, equal⟩ | ⟨_, _, _, equal⟩ <;> rw [equal] <;> rfl

theorem status_requestChannel (wired : Wired connection)
    (first : Option (Outcome Message)) :
    (connection.requestChannel first).2.status = connection.status := by
  rcases first with _ | _ | message
  · rfl
  · rfl
  · rcases openStream_cases wired .requestChannel message with
      ⟨_, _, equal⟩ | ⟨_, _, _, equal⟩ | ⟨_, _, _, equal⟩
    · rw [requestChannel_of_error equal]
    · rw [requestChannel_of_error equal]
      rfl
    · rw [requestChannel_of_ok equal]
      rfl

theorem status_request (mode : Mode) (streamId : UInt64) (envelope : Envelope) :
    (connection.receive (.request mode streamId envelope)).2.status = connection.status := by
  rcases receive_request_cases connection mode streamId envelope with
    equal | ⟨error, equal⟩ | ⟨_, _, message, equal⟩
  · rw [equal]
  · rw [equal]
    simp only [reject]
    split
    · rfl
    · exact status_post _ _
  · rw [equal]
    cases mode <;> rfl

/-- Some producer has more credits than it can hold. -/
def overflows (connection : Connection) : Prop :=
  ∃ (number : Nat) (producer : Producer),
    connection.producers[number]? = some producer ∧ creditLimit < producer.credits

theorem status_receive (connection : Connection) (frame : Frame) :
    (connection.receive frame).2.status = connection.status ∨
      (connection.receive frame).2.overflows ∧
      (connection.receive frame).2.status =
        (connection.writes, false, connection.isClosed) := by
  cases reading : connection.reads with
  | false => exact .inl (by rw [receive_stopped reading])
  | true =>
      cases frame with
      | request mode streamId envelope => exact .inl (status_request mode streamId envelope)
      | next streamId envelope =>
          exact .inl (by rw [receive_next reading, status_receiveNext])
      | complete streamId =>
          rw [receive_complete reading]
          exact .inl rfl
      | error streamId code text =>
          exact .inl (by rw [receive_error reading, status_failSink])
      | cancel streamId =>
          cases side : connection.role with
          | client => exact .inl (by rw [receive_cancel_client reading side, status_cancelOutbound])
          | server =>
              rw [receive_cancel_server reading side]
              exact .inl (status_cancelOutbound _ _)
      | requestN streamId count =>
          rw [receive_requestN reading]
          simp only [receiveGrant]
          split
          · exact .inl rfl
          · rename_i number listed
            split
            · exact .inl rfl
            · rename_i exceeded
              simp only [Option.all_eq_true, not_forall, decide_eq_true_eq, Nat.not_le] at exceeded
              rcases exceeded with ⟨producer, present, much⟩
              exact .inr ⟨⟨number, producer, present, much⟩, rfl⟩

/-- An action that opens and accepts no call and ends nothing for all calls changes nothing, unless a
producer gets more credits than it can hold. -/
theorem status_of_settled {action : Action} (settled : action.mayAdd = false)
    (calm : action.closes = false) :
    (connection.perform action).2.status = connection.status ∨
      (connection.perform action).2.overflows ∧
      (connection.perform action).2.status =
        (connection.writes, false, connection.isClosed) := by
  cases action with
  | pollReply number => exact .inl (status_pollReply _ _)
  | dropReply number => exact .inl (status_dropReply _ _)
  | pullInbound number => exact .inl (status_pullInbound _ _)
  | dropInbound number => exact .inl (status_dropInbound _ _)
  | takeCredit number => exact .inl (status_takeCredit _ _)
  | produce number signal => exact .inl (status_produce _ _ _)
  | respond number result => exact .inl (status_respond _ _ _)
  | receive frame => exact status_receive _ _
  | transmit => exact .inl (status_write _)
  | fireAndForget message => simp [Action.mayAdd, Action.opensCall] at settled
  | requestResponse message => simp [Action.mayAdd, Action.opensCall] at settled
  | requestStream message => simp [Action.mayAdd, Action.opensCall] at settled
  | requestChannel first => simp [Action.mayAdd, Action.opensCall] at settled
  | _ => simp [Action.closes] at calm

/-- An action that ends nothing for all calls changes nothing, unless a producer gets more credits
than it can hold. -/
theorem status_perform (wired : Wired connection) {action : Action}
    (calm : action.closes = false) :
    (connection.perform action).2.status = connection.status ∨
      (connection.perform action).2.overflows ∧
      (connection.perform action).2.status =
        (connection.writes, false, connection.isClosed) := by
  cases adds : action.mayAdd with
  | false => exact status_of_settled adds calm
  | true =>
      cases action with
      | fireAndForget message => exact .inl (status_fireAndForget _ _)
      | requestResponse message => exact .inl (status_requestResponse wired message)
      | requestStream message => exact .inl (status_openStream wired _ message)
      | requestChannel first => exact .inl (status_requestChannel wired first)
      | receive frame => exact status_receive _ _
      | _ => simp [Action.mayAdd, Action.opensCall] at adds

theorem calm_perform (wired : Wired connection) {action : Action}
    (calm : action.closes = false) :
    (connection.perform action).2.writes = connection.writes ∧
      (connection.perform action).2.isClosed = connection.isClosed := by
  rcases status_perform wired calm with same | ⟨_, same⟩ <;>
    (simp only [status, Prod.mk.injEq] at same; exact ⟨same.1, same.2.2⟩)

theorem isClosed_of_closes {action : Action} (closing : action.closes = true) :
    (connection.perform action).2.isClosed = true := by
  cases action <;> first | exact isClosed_close _ | simp [Action.closes] at closing

/-- A writer that runs has run before. -/
theorem writes_earlier (wired : Wired connection) {action : Action}
    (writing : (connection.perform action).2.writes = true) :
    connection.writes = true := by
  cases closing : action.closes with
  | false => exact (calm_perform wired closing).1 ▸ writing
  | true =>
      have closed := status_close connection
      simp only [status, Prod.mk.injEq] at closed
      cases action with
      | close => exact closed.1 ▸ writing
      | endReader => exact closed.1 ▸ writing
      | endWriter => simp [perform, endWriter] at writing
      | _ => simp [Action.closes] at closing

/-- A reader that runs has run before. -/
theorem reads_earlier (wired : Wired connection) {action : Action}
    (reading : (connection.perform action).2.reads = true) :
    connection.reads = true := by
  cases closing : action.closes with
  | false =>
      rcases status_perform wired closing with same | ⟨_, same⟩
      · simp only [status, Prod.mk.injEq] at same
        exact same.2.1 ▸ reading
      · simp only [status, Prod.mk.injEq] at same
        simp [same.2.1] at reading
  | true =>
      have closed := status_close connection
      simp only [status, Prod.mk.injEq] at closed
      cases action with
      | close => exact closed.2.1 ▸ reading
      | endReader => simp [perform, endReader] at reading
      | endWriter => exact closed.2.1 ▸ reading
      | _ => simp [Action.closes] at closing

/-- Without a producer that has more credits than it can hold, the reader stops by its own end only. -/
theorem reads_of_calm (wired : Wired connection) {action : Action}
    (calm : ¬ (connection.perform action).2.overflows) :
    (connection.perform action).2.reads = (connection.reads && !action.endsReader) := by
  cases closing : action.closes with
  | false =>
      have stays : action.endsReader = false := by
        cases action <;> first | rfl | cases closing
      rcases status_perform wired closing with same | ⟨exceeded, _⟩
      · simp only [status, Prod.mk.injEq] at same
        rw [same.2.1, stays, Bool.not_false, Bool.and_true]
      · exact (calm exceeded).elim
  | true =>
      have closed := status_close connection
      simp only [status, Prod.mk.injEq] at closed
      cases action with
      | close | endWriter => exact closed.2.1.trans (Bool.and_true _).symm
      | endReader => exact (Bool.and_false _).symm
      | _ => cases closing

/-- The reader of an open connection stops only if a producer has got more credits than it can
hold. -/
theorem reads_perform (wired : Wired connection) {action : Action}
    (running : (connection.perform action).2.isClosed = false)
    (reading : connection.reads = true) :
    (connection.perform action).2.reads = true ∨
      (connection.perform action).2.overflows := by
  cases closing : action.closes with
  | false =>
      rcases status_perform wired closing with same | ⟨exceeded, _⟩
      · simp only [status, Prod.mk.injEq] at same
        exact .inl (same.2.1.trans reading)
      · exact .inr exceeded
  | true =>
      rw [isClosed_of_closes closing] at running
      simp at running

end

end ServiceMesh.Connection
