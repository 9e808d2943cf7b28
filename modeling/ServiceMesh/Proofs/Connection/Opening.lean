import ServiceMesh.Proofs.Connection.Posting
import ServiceMesh.Proofs.Connection.Separation

/-!
# What an action adds

At most one reply, one inbound stream and one producer come to be with an action.  They carry the
next stream id if a caller has opened a call, and the id of the request if one was accepted
(`Origin`).  What comes to be stands under its stream id from then on, unless the connection was
closed.
-/

namespace ServiceMesh.Connection

/-- Where the stream id of something new comes from. -/
inductive Origin (connection : Connection) (action : Action) : UInt64 → Prop where
  /-- A caller has opened a call. -/
  | called (opens : action.opensCall = true)
      (advances : (connection.perform action).2.nextStreamId = connection.nextStreamId + 2) :
      Origin connection action connection.nextStreamId
  /-- A request was accepted. -/
  | accepted {mode : Mode} {streamId : UInt64} {envelope : Envelope} {call : Accepted}
      (serves : connection.role = .server) (reading : connection.reads = true)
      (request : action = .receive (.request mode streamId envelope))
      (accepts : (connection.perform action).1 = .accepted (some call)) :
      Origin connection action streamId

/-- What is new under a stream id comes with an action that is about the id. -/
theorem Origin.eq_of_concerned {connection : Connection} {action : Action}
    {streamId other : UInt64} (origin : Origin connection action other)
    (concerned : ConcernsInbox connection streamId action) :
    other = streamId := by
  cases origin with
  | called opens advances =>
      cases action <;> first
        | exact concerned
        | exact concerned.elim
        | simp [Action.opensCall] at opens
  | accepted serves reading request accepts =>
      subst request
      exact concerned

/-- A producer that comes to be comes with an action that is about its stream id, too. -/
theorem Origin.eq_of_concernsOutbox {connection : Connection} {action : Action}
    {streamId other : UInt64} (origin : Origin connection action other)
    (concerned : ConcernsOutbox connection streamId action) :
    other = streamId := by
  cases origin with
  | called opens advances =>
      cases action <;> first
        | exact concerned
        | exact concerned.elim
        | simp [Action.opensCall] at opens
  | accepted serves reading request accepts =>
      subst request
      exact concerned

/-- Whether a reply is handed to its caller. -/
def Step.handsReply (number : Nat) (step : Step) : Bool :=
  match step.action, step.observation with
  | .requestResponse _, .opened (.ok opened) => opened = number
  | _, _ => false

/-- Whether an inbound stream is handed to its consumer. -/
def Step.hands (number : Nat) (step : Step) : Bool :=
  match step.action, step.observation with
  | .requestStream _, .opened (.ok opened) => opened = number
  | .requestChannel _, .channel (.ok channel) => channel.responses = number
  | .receive _, .accepted (some call) => call.requests = some number
  | _, _ => false

/-- Nothing comes to be that takes what arrives for a call. -/
structure OpensNothing (connection : Connection) (action : Action) : Prop where
  inbox : action.mayAdd = true → (connection.perform action).2.inbox = connection.inbox
  handsReply : ∀ number, Step.handsReply number ⟨connection, action⟩ = false
  hands : ∀ number, Step.hands number ⟨connection, action⟩ = false

/-- What is known of a reply that comes to be.  One that the caller has not got is finished from the
start. -/
structure NewReply (connection : Connection) (action : Action) (streamId : UInt64)
    (isHanded : Bool) : Prop where
  origin : Origin connection action streamId
  replies : (connection.perform action).2.replies =
    connection.replies ++ [⟨streamId, none, !isHanded⟩]
  inbound : (connection.perform action).2.inbound = connection.inbound
  sink : (connection.perform action).2.sinks.find? streamId =
    if isHanded then some (.reply connection.replies.length) else none
  handsReply : ∀ number, Step.handsReply number ⟨connection, action⟩ =
    (isHanded && decide (connection.replies.length = number))
  hands : ∀ number, Step.hands number ⟨connection, action⟩ = false

/-- What is known of an inbound stream that comes to be.  One that the consumer has not got is done
from the start. -/
structure NewStream (connection : Connection) (action : Action) (streamId : UInt64)
    (isRequester isHanded : Bool) : Prop where
  origin : Origin connection action streamId
  replies : (connection.perform action).2.replies = connection.replies
  inbound : (connection.perform action).2.inbound =
    connection.inbound ++ [⟨streamId, isRequester, [], 0, !isHanded⟩]
  sink : (connection.perform action).2.sinks.find? streamId =
    if isHanded then some (.stream connection.inbound.length) else none
  handsReply : ∀ number, Step.handsReply number ⟨connection, action⟩ = false
  hands : ∀ number, Step.hands number ⟨connection, action⟩ =
    (isHanded && decide (connection.inbound.length = number))
  closed : isHanded = false → connection.isClosed = true

/-- How a producer starts: with a window of credits for a stream of messages, or without credits for
the one response of a request. -/
inductive Starts (connection : Connection) (action : Action) (streamId : UInt64) :
    Producer → Prop where
  /-- It sends the further requests of a channel. -/
  | calling {envelope : Envelope}
      (sends : .request .requestChannel streamId envelope ∈ connection.sends action) :
      Starts connection action streamId ⟨streamId, connection.window, .waiting⟩
  /-- It sends a stream of responses. -/
  | streaming {mode : Mode} {envelope : Envelope}
      (streams : mode = .requestStream ∨ mode = .requestChannel)
      (takes : Step.taken ⟨connection, action⟩ = some (.request mode streamId envelope)) :
      Starts connection action streamId ⟨streamId, connection.window, .waiting⟩
  /-- It sends a single response. -/
  | answering {envelope : Envelope}
      (takes : Step.taken ⟨connection, action⟩ =
        some (.request .requestResponse streamId envelope)) :
      Starts connection action streamId ⟨streamId, 0, .answering⟩

/-- What is known of a producer that comes to be. -/
structure NewProducer (connection : Connection) (action : Action) (streamId : UInt64)
    (producer : Producer) : Prop where
  origin : Origin connection action streamId
  producers : (connection.perform action).2.producers = connection.producers ++ [producer]
  listed : (connection.perform action).2.outbound.find? streamId =
    some connection.producers.length
  starts : Starts connection action streamId producer

theorem NewProducer.carries {connection : Connection} {action : Action}
    {streamId : UInt64} {producer : Producer}
    (opened : NewProducer connection action streamId producer) :
    producer.streamId = streamId := by
  cases opened.starts <;> rfl

section

variable {connection : Connection}

theorem requestChannel_of_error {message : Message} {error : CallError}
    {later : Connection}
    (fails : connection.openStream .requestChannel message = (.error error, later)) :
    connection.requestChannel (some (.ok message)) = (.error error, later) := by
  simp only [requestChannel, fails]

theorem requestChannel_of_ok {message : Message} {streamId : UInt64} {number : Nat}
    {later : Connection}
    (opens : connection.openStream .requestChannel message = (.ok (streamId, number), later)) :
    connection.requestChannel (some (.ok message)) =
      (.ok ⟨number, later.producers.length⟩, (later.startPump streamId).2) := by
  simp only [requestChannel, opens]
  rfl

/-- The ways in which taking a request can go. -/
theorem receive_request_cases (connection : Connection) (mode : Mode)
    (streamId : UInt64) (envelope : Envelope) :
    connection.receive (.request mode streamId envelope) = (none, connection) ∨
      (∃ error, connection.receive (.request mode streamId envelope) =
        (none, connection.reject mode streamId error)) ∨
      connection.role = .server ∧ connection.reads = true ∧
        ∃ message, connection.receive (.request mode streamId envelope) =
          (some (connection.accept mode streamId message).1,
            (connection.accept mode streamId message).2) := by
  cases reading : connection.reads with
  | false => exact .inl (receive_stopped reading _)
  | true =>
      cases side : connection.role with
      | client => exact .inl (receive_request_client reading side _ _ _)
      | server =>
          rw [receive_request_server reading side, receiveRequest]
          cases connection.codec.decode envelope with
          | error error => exact .inr (.inl ⟨error, rfl⟩)
          | ok message =>
              by_cases named : message.qualifier = ""
              · exact .inr (.inl ⟨Dispatcher.missingQualifier, by simp [named]⟩)
              · exact .inr (.inr ⟨rfl, rfl, message, by simp [named]⟩)

theorem nextStreamId_perform (wired : Wired connection) (action : Action) :
    (connection.perform action).2.nextStreamId = connection.nextStreamId ∨
      action.opensCall = true ∧
        (connection.perform action).2.nextStreamId = connection.nextStreamId + 2 := by
  cases adds : action.mayAdd with
  | false => exact .inl (narrows_perform connection adds).nextStreamId
  | true =>
      cases action with
      | fireAndForget message =>
          simp only [perform, fireAndForget, send_eq]
          split
          · exact .inl rfl
          · refine .inr ⟨rfl, ?_⟩
            split <;> (rename_i sent; rw [Prod.mk.injEq] at sent; rw [← sent.2, post_eq]; rfl)
      | requestResponse message =>
          rcases requestResponse_cases wired message with
            ⟨_, _, equal⟩ | ⟨_, _, _, equal⟩ | ⟨_, _, _, equal⟩
          · exact .inl (by simp [perform, equal])
          · exact .inr ⟨rfl, by simp [perform, equal]⟩
          · exact .inr ⟨rfl, by simp [perform, equal]⟩
      | requestStream message =>
          rcases openStream_cases wired .requestStream message with
            ⟨_, _, equal⟩ | ⟨_, _, _, equal⟩ | ⟨_, _, _, equal⟩
          · exact .inl (by simp [perform, requestStream, equal])
          · exact .inr ⟨rfl, by simp [perform, requestStream, equal]⟩
          · exact .inr ⟨rfl, by simp [perform, requestStream, equal]⟩
      | requestChannel first =>
          rcases first with _ | _ | message
          · exact .inl rfl
          · exact .inl rfl
          · rcases openStream_cases wired .requestChannel message with
              ⟨_, _, equal⟩ | ⟨_, _, _, equal⟩ | ⟨_, _, _, equal⟩
            · exact .inl (by simp [perform, requestChannel_of_error equal])
            · exact .inr ⟨rfl, by simp [perform, requestChannel_of_error equal]⟩
            · exact .inr ⟨rfl, by simp [perform, requestChannel_of_ok equal, startPump,
                startProducer]⟩
      | receive frame =>
          cases frame with
          | request mode streamId envelope =>
              refine .inl ?_
              rcases receive_request_cases connection mode streamId envelope with
                equal | ⟨error, equal⟩ | ⟨_, _, message, equal⟩
              · simp [perform, equal]
              · simp only [perform, equal, reject]
                split
                · rfl
                · show (connection.post _).nextStreamId = _
                  rw [post_eq]
              · cases mode <;> simp [perform, equal, accept, startPump, startProducer,
                  openRequests]
          | _ => simp [Action.mayAdd, Action.opensCall] at adds
      | _ => simp [Action.mayAdd, Action.opensCall] at adds

/-! ## What comes to be -/

theorem handsReply_of_settled {action : Action} (settled : action.mayAdd = false)
    (number : Nat) :
    Step.handsReply number ⟨connection, action⟩ = false := by
  cases action <;> first | rfl | simp [Action.mayAdd, Action.opensCall] at settled

theorem hands_of_settled {action : Action} (settled : action.mayAdd = false)
    (number : Nat) :
    Step.hands number ⟨connection, action⟩ = false := by
  cases action with
  | receive frame =>
      cases frame with
      | request mode streamId envelope => simp [Action.mayAdd] at settled
      | _ =>
          cases reading : connection.reads <;> cases side : connection.role <;>
            simp [Step.hands, Step.observation, perform, receive, reading, side]
  | _ => first | rfl | simp [Action.mayAdd, Action.opensCall] at settled

theorem opens_requestResponse (wired : Wired connection) (message : Message) :
    OpensNothing connection (.requestResponse message) ∨
      ∃ streamId isHanded, NewReply connection (.requestResponse message) streamId isHanded := by
  rcases requestResponse_cases wired message with
    ⟨_, _, equal⟩ | ⟨_, _, _, equal⟩ | ⟨_, _, _, equal⟩
  · exact .inl ⟨fun _ => by simp [perform, equal],
      by simp [Step.handsReply, Step.observation, perform, equal], fun _ => rfl⟩
  · exact .inr ⟨connection.nextStreamId, false, {
      origin := .called rfl (by simp [perform, equal])
      replies := by simp [perform, equal]
      inbound := by simp [perform, equal]
      sink := by simp [perform, equal]
      handsReply := by simp [Step.handsReply, Step.observation, perform, equal]
      hands := fun _ => rfl }⟩
  · exact .inr ⟨connection.nextStreamId, true, {
      origin := .called rfl (by simp [perform, equal])
      replies := by simp [perform, equal]
      inbound := by simp [perform, equal]
      sink := by simp [perform, equal]
      handsReply := by simp [Step.handsReply, Step.observation, perform, equal]
      hands := fun _ => rfl }⟩

theorem opens_requestStream (wired : Wired connection) (message : Message) :
    OpensNothing connection (.requestStream message) ∨
      ∃ streamId isRequester isHanded,
        NewStream connection (.requestStream message) streamId isRequester isHanded := by
  rcases openStream_cases wired .requestStream message with
    ⟨_, _, equal⟩ | ⟨_, _, closed, equal⟩ | ⟨_, _, _, equal⟩
  · exact .inl ⟨fun _ => by simp [perform, requestStream, equal], fun _ => rfl,
      by simp [Step.hands, Step.observation, perform, requestStream, equal, Except.map]⟩
  · exact .inr ⟨connection.nextStreamId, true, false, {
      origin := .called rfl (by simp [perform, requestStream, equal])
      replies := by simp [perform, requestStream, equal]
      inbound := by simp [perform, requestStream, equal]
      sink := by simp [perform, requestStream, equal]
      handsReply := fun _ => rfl
      hands := by
        simp [Step.hands, Step.observation, perform, requestStream, equal, Except.map]
      closed := fun _ => closed }⟩
  · exact .inr ⟨connection.nextStreamId, true, true, {
      origin := .called rfl (by simp [perform, requestStream, equal])
      replies := by simp [perform, requestStream, equal]
      inbound := by simp [perform, requestStream, equal]
      sink := by simp [perform, requestStream, equal]
      handsReply := fun _ => rfl
      hands := by
        simp [Step.hands, Step.observation, perform, requestStream, equal, Except.map]
      closed := by simp }⟩

theorem opens_requestChannel (wired : Wired connection)
    (first : Option (Outcome Message)) :
    OpensNothing connection (.requestChannel first) ∨
      ∃ streamId isRequester isHanded,
        NewStream connection (.requestChannel first) streamId isRequester isHanded := by
  rcases first with _ | _ | message
  · exact .inl ⟨fun _ => rfl, fun _ => rfl, fun _ => rfl⟩
  · exact .inl ⟨fun _ => rfl, fun _ => rfl, fun _ => rfl⟩
  · rcases openStream_cases wired .requestChannel message with
      ⟨_, _, equal⟩ | ⟨_, _, closed, equal⟩ | ⟨_, _, _, equal⟩
    · have equal := requestChannel_of_error equal
      exact .inl ⟨fun _ => by simp [perform, equal], fun _ => rfl,
        by simp [Step.hands, Step.observation, perform, equal]⟩
    · have equal := requestChannel_of_error equal
      exact .inr ⟨connection.nextStreamId, true, false, {
        origin := .called rfl (by simp [perform, equal])
        replies := by simp [perform, equal]
        inbound := by simp [perform, equal]
        sink := by simp [perform, equal]
        handsReply := fun _ => rfl
        hands := by simp [Step.hands, Step.observation, perform, equal]
        closed := fun _ => closed }⟩
    · have equal := requestChannel_of_ok equal
      exact .inr ⟨connection.nextStreamId, true, true, {
        origin := .called rfl (by simp [perform, equal, startPump, startProducer])
        replies := by simp [perform, equal, startPump, startProducer]
        inbound := by simp [perform, equal, startPump, startProducer]
        sink := by simp [perform, equal, startPump, startProducer]
        handsReply := fun _ => rfl
        hands := by simp [Step.hands, Step.observation, perform, equal]
        closed := by simp }⟩

theorem accepts_of_equal {mode : Mode} {streamId : UInt64} {envelope : Envelope}
    {message : Message}
    (equal : connection.receive (.request mode streamId envelope) =
      (some (connection.accept mode streamId message).1,
        (connection.accept mode streamId message).2)) :
    (connection.perform (.receive (.request mode streamId envelope))).1 =
      .accepted (some (connection.accept mode streamId message).1) := by
  simp [perform, equal]

theorem opens_request (mode : Mode) (streamId : UInt64) (envelope : Envelope) :
    OpensNothing connection (.receive (.request mode streamId envelope)) ∨
      ∃ streamId' isRequester isHanded,
        NewStream connection (.receive (.request mode streamId envelope)) streamId'
          isRequester isHanded := by
  rcases receive_request_cases connection mode streamId envelope with
    equal | ⟨error, equal⟩ | ⟨serves, reading, message, equal⟩
  · exact .inl ⟨fun _ => by simp [perform, equal], fun _ => rfl,
      by simp [Step.hands, Step.observation, perform, equal]⟩
  · exact .inl ⟨fun _ => by simp [perform, equal], fun _ => rfl,
      by simp [Step.hands, Step.observation, perform, equal]⟩
  · have accepts := accepts_of_equal equal
    cases mode with
    | requestChannel =>
        exact .inr ⟨streamId, false, true, {
          origin := .accepted serves reading rfl accepts
          replies := by
            simp [perform, equal, accept, startPump, startProducer, openRequests]
          inbound := by
            simp [perform, equal, accept, startPump, startProducer, openRequests]
          sink := by
            simp [perform, equal, accept, startPump, startProducer, openRequests]
          handsReply := fun _ => rfl
          hands := by
            simp [Step.hands, Step.observation, perform, equal, accept, openRequests]
          closed := by simp }⟩
    | _ =>
        exact .inl ⟨fun _ => by simp [perform, equal, accept, startPump, startProducer, inbox],
          fun _ => rfl,
          by simp [Step.hands, Step.observation, perform, equal, accept]⟩

/-- An action opens nothing, or one reply, or one inbound stream. -/
theorem inbox_perform (wired : Wired connection) (action : Action) :
    OpensNothing connection action ∨
      (∃ streamId isHanded, NewReply connection action streamId isHanded) ∨
      ∃ streamId isRequester isHanded,
        NewStream connection action streamId isRequester isHanded := by
  cases adds : action.mayAdd with
  | false =>
      exact .inl ⟨by simp [adds], handsReply_of_settled adds, hands_of_settled adds⟩
  | true =>
      cases action with
      | fireAndForget message =>
          exact .inl ⟨fun _ => inbox_fireAndForget _ _, fun _ => rfl, fun _ => rfl⟩
      | requestResponse message => exact (opens_requestResponse wired message).imp_right .inl
      | requestStream message => exact (opens_requestStream wired message).imp_right .inr
      | requestChannel first => exact (opens_requestChannel wired first).imp_right .inr
      | receive frame =>
          cases frame with
          | request mode streamId envelope =>
              exact (opens_request mode streamId envelope).imp_right .inr
          | _ => simp [Action.mayAdd, Action.opensCall] at adds
      | _ => simp [Action.mayAdd, Action.opensCall] at adds

theorem OpensNothing.lengths {action : Action} (nothing : OpensNothing connection action) :
    (connection.perform action).2.replies.length = connection.replies.length ∧
      (connection.perform action).2.inbound.length = connection.inbound.length := by
  cases adds : action.mayAdd with
  | false =>
      have narrows := narrows_perform connection adds
      exact ⟨narrows.replies_length, narrows.inbound_length⟩
  | true =>
      have same := nothing.inbox adds
      simp only [Connection.inbox, Prod.mk.injEq] at same
      rw [same.2.1, same.2.2]
      exact ⟨rfl, rfl⟩

/-- An action adds no reply, or one. -/
theorem replies_perform (wired : Wired connection) (action : Action) :
    ((connection.perform action).2.replies.length = connection.replies.length ∧
        ∀ number, Step.handsReply number ⟨connection, action⟩ = false) ∨
      ∃ streamId isHanded, NewReply connection action streamId isHanded := by
  rcases inbox_perform wired action with nothing | reply | ⟨_, _, _, stream⟩
  · exact .inl ⟨nothing.lengths.1, nothing.handsReply⟩
  · exact .inr reply
  · exact .inl ⟨by rw [stream.replies], stream.handsReply⟩

/-- An action adds no inbound stream, or one. -/
theorem inbound_perform (wired : Wired connection) (action : Action) :
    ((connection.perform action).2.inbound.length = connection.inbound.length ∧
        ∀ number, Step.hands number ⟨connection, action⟩ = false) ∨
      ∃ streamId isRequester isHanded,
        NewStream connection action streamId isRequester isHanded := by
  rcases inbox_perform wired action with nothing | ⟨_, _, reply⟩ | stream
  · exact .inl ⟨nothing.lengths.2, nothing.hands⟩
  · exact .inl ⟨by rw [reply.inbound], reply.hands⟩
  · exact .inr stream

theorem outbox_requestChannel (wired : Wired connection)
    (first : Option (Outcome Message)) :
    (connection.requestChannel first).2.outbox = connection.outbox ∨
      ∃ streamId producer, NewProducer connection (.requestChannel first) streamId producer := by
  rcases first with _ | _ | message
  · exact .inl rfl
  · exact .inl rfl
  · rcases openStream_cases wired .requestChannel message with
      ⟨_, _, equal⟩ | ⟨_, _, _, equal⟩ | ⟨envelope, encodes, running, equal⟩
    · exact .inl (by rw [requestChannel_of_error equal])
    · exact .inl (by rw [requestChannel_of_error equal]; rfl)
    · have equal := requestChannel_of_ok equal
      exact .inr ⟨connection.nextStreamId,
        ⟨connection.nextStreamId, connection.window, .waiting⟩, {
        origin := .called rfl (by simp [perform, equal, startPump, startProducer])
        producers := by simp [perform, equal, startPump, startProducer]
        listed := by simp [perform, equal, startPump, startProducer]
        starts := .calling (by simp [sends, running, openingFrames, encodes]; rfl) }⟩

theorem outbox_request (mode : Mode) (streamId : UInt64) (envelope : Envelope) :
    (connection.receive (.request mode streamId envelope)).2.outbox = connection.outbox ∨
      ∃ streamId' producer, NewProducer connection
        (.receive (.request mode streamId envelope)) streamId' producer := by
  rcases receive_request_cases connection mode streamId envelope with
    equal | ⟨error, equal⟩ | ⟨serves, reading, message, equal⟩
  · exact .inl (by rw [equal])
  · exact .inl (by rw [equal]; exact outbox_reject connection mode streamId error)
  · have origin := Origin.accepted serves reading rfl (accepts_of_equal equal)
    cases mode with
    | fireAndForget => exact .inl (by rw [equal]; rfl)
    | requestResponse =>
        exact .inr ⟨streamId, ⟨streamId, 0, .answering⟩, {
          origin
          producers := by simp [perform, equal, accept, startProducer]
          listed := by simp [perform, equal, accept, startProducer]
          starts := .answering (by simp [Step.taken, reading]; rfl) }⟩
    | requestStream =>
        exact .inr ⟨streamId, ⟨streamId, connection.window, .waiting⟩, {
          origin
          producers := by simp [perform, equal, accept, startPump, startProducer]
          listed := by simp [perform, equal, accept, startPump, startProducer]
          starts := .streaming (.inl rfl) (by simp [Step.taken, reading]; rfl) }⟩
    | requestChannel =>
        exact .inr ⟨streamId, ⟨streamId, connection.window, .waiting⟩, {
          origin
          producers := by
            simp [perform, equal, accept, startPump, startProducer, openRequests]
          listed := by
            simp [perform, equal, accept, startPump, startProducer, openRequests]
          starts := .streaming (.inr rfl) (by simp [Step.taken, reading]; rfl) }⟩

/-- An action that may add something adds no producer, or one. -/
theorem outbox_perform (wired : Wired connection) (action : Action) :
    (action.mayAdd = true → (connection.perform action).2.outbox = connection.outbox) ∨
      ∃ streamId producer, NewProducer connection action streamId producer := by
  cases action with
  | fireAndForget message => exact .inl fun _ => outbox_fireAndForget _ _
  | requestResponse message => exact .inl fun _ => outbox_requestResponse wired message
  | requestStream message => exact .inl fun _ => outbox_openStream wired _ message
  | requestChannel first => exact (outbox_requestChannel wired first).imp_left fun same _ => same
  | receive frame =>
      cases frame with
      | request mode streamId envelope =>
          exact (outbox_request mode streamId envelope).imp_left fun same _ => same
      | _ => exact .inl fun adds => by simp [Action.mayAdd, Action.opensCall] at adds
  | _ => exact .inl fun adds => by simp [Action.mayAdd, Action.opensCall] at adds

/-- An action adds no producer, or one. -/
theorem producers_perform (wired : Wired connection) (action : Action) :
    (connection.perform action).2.producers.length = connection.producers.length ∨
      ∃ streamId producer, NewProducer connection action streamId producer := by
  rcases outbox_perform wired action with same | opened
  · refine .inl ?_
    cases adds : action.mayAdd with
    | false => exact (narrows_perform connection adds).producers_length
    | true => exact congrArg (fun outbox => outbox.2.length) (same adds)
  · exact .inr opened

theorem origin_of_new_stream (wired : Wired connection) {action : Action} {number : Nat}
    {stream : InboundStream} (absent : connection.inbound[number]? = none)
    (present : (connection.perform action).2.inbound[number]? = some stream) :
    Origin connection action stream.streamId := by
  have beyond := List.getElem?_eq_none_iff.mp absent
  have within := (List.getElem?_eq_some_iff.mp present).1
  rcases inbound_perform wired action with ⟨same, _⟩ | ⟨streamId, _, _, opened⟩
  · omega
  · have length := congrArg List.length opened.inbound
    rw [List.length_append, List.length_singleton] at length
    have last : number = connection.inbound.length := by omega
    rw [opened.inbound, last, List.getElem?_concat_length, Option.some.injEq] at present
    rw [← present]
    exact opened.origin

theorem origin_of_new_producer (wired : Wired connection) {action : Action} {number : Nat}
    {producer : Producer} (absent : connection.producers[number]? = none)
    (present : (connection.perform action).2.producers[number]? = some producer) :
    Origin connection action producer.streamId := by
  have beyond := List.getElem?_eq_none_iff.mp absent
  have within := (List.getElem?_eq_some_iff.mp present).1
  rcases producers_perform wired action with same | ⟨streamId, added, opened⟩
  · omega
  · have length := congrArg List.length opened.producers
    rw [List.length_append, List.length_singleton] at length
    have last : number = connection.producers.length := by omega
    rw [opened.producers, last, List.getElem?_concat_length, Option.some.injEq] at present
    rw [← present, opened.carries]
    exact opened.origin

end

end ServiceMesh.Connection
