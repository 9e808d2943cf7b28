import ServiceMesh.Proofs.Connection.Opening
import ServiceMesh.Proofs.Connection.Posting

/-!
# An inbound stream by itself

As long as its stream id belongs to no other call, an inbound stream is a small machine of its own.
It has the stream and whether it is still fed, it takes what arrives for its call, its consumer asks
for the next item or leaves, and all of this makes it queue grants and cancellations.

The main statements are `streamPart_perform`, `seen_eq_shows` and `feedback_sends`: an action does to
the stream, shows its consumer and queues for it what the event of the action does, whatever else
happens on the connection.
-/

namespace ServiceMesh

/-- Whether a frame is what the receiver of a stream sends back to its sender. -/
def Frame.isFeedback (streamId : UInt64) : Frame → Bool
  | .cancel id | .requestN id _ => id = streamId
  | _ => false

/-- What arrives for a call. -/
inductive Arrival where
  /-- A message. -/
  | message (envelope : Envelope)
  /-- The regular end. -/
  | completed
  /-- The end by a failure at the peer. -/
  | failed (code : UInt16) (text : String)
  /-- The caller's cancellation, which also ends its requests. -/
  | cancelled
  /-- The close of the connection. -/
  | closed
  deriving DecidableEq

/-- What happens to a call at the side that receives. -/
inductive CallEvent where
  /-- Something arrives. -/
  | arrived (arrival : Arrival)
  /-- The consumer or the caller asks for what is there. -/
  | asked
  /-- The consumer or the caller gives up. -/
  | left
  deriving DecidableEq

/-- An inbound stream, and whether what arrives still reaches it. -/
structure StreamPart where
  /-- The stream. -/
  stream : InboundStream
  /-- Whether the sink of the call leads to the stream. -/
  isFed : Bool

namespace StreamPart

/-- The stream with one more item to be pulled. -/
def push (part : StreamPart) (item : Outcome Message) : StreamPart :=
  { part with stream := { part.stream with buffer := part.stream.buffer ++ [item] } }

/-- The stream that nothing reaches any more. -/
def cut (part : StreamPart) : StreamPart := { part with isFed := false }

/-- The stream whose consumer sees nothing more. -/
def finish (part : StreamPart) : StreamPart :=
  { part with stream := { part.stream with isDone := true } }

/-- The stream without the first message to be pulled, which counts towards the next grant. -/
def pull (threshold : Nat) (rest : List (Outcome Message)) (part : StreamPart) : StreamPart :=
  { part with
    stream := { part.stream with
      buffer := rest
      consumed :=
        if threshold ≤ part.stream.consumed + 1 then 0 else part.stream.consumed + 1 } }

/-- The stream after an arrival that reaches it. -/
def take (connection : Connection) (part : StreamPart) : Arrival → StreamPart
  | .message envelope =>
    match connection.codec.decode envelope with
    | .ok message => part.push (.ok message)
    | .error error => (part.push (.error error)).cut
  | .completed | .cancelled => part.cut
  | .failed code text => (part.push (.error (.remote code text))).cut
  | .closed => (part.push (.error connection.closedError)).cut

/-- The stream after an event. -/
def step (connection : Connection) (part : StreamPart) : CallEvent → StreamPart
  | .arrived arrival => if part.isFed then part.take connection arrival else part
  | .asked =>
    if part.stream.isDone then part
    else match part.stream.buffer with
      | .ok _ :: rest => part.pull connection.threshold rest
      | .error _ :: rest =>
        { part with stream := { part.stream with buffer := rest, isDone := true } }
      | [] => if part.isFed then part else part.finish
  | .left => if part.stream.isDone then part else part.finish.cut

/-- The stream after an event, if there is one. -/
def advance (connection : Connection) (part : StreamPart) :
    Option CallEvent → StreamPart
  | none => part
  | some event => part.step connection event

/-- What the consumer sees at an event. -/
def shows (part : StreamPart) : CallEvent → Option (Signal (Outcome Message))
  | .asked =>
    if part.stream.isDone then none
    else match part.stream.buffer with
      | item :: _ => some (.item item)
      | [] => if part.isFed then none else some .ended
  | _ => none

/-- What a pull gives. -/
def signal (part : StreamPart) : Signal (Outcome Message) :=
  if part.stream.isDone then .ended
  else match part.stream.buffer with
    | item :: _ => .item item
    | [] => if part.isFed then .pending else .ended

/-- The feedback that an event makes the stream queue. -/
def posts (connection : Connection) (part : StreamPart) : CallEvent → List Frame
  | .arrived (.message envelope) =>
    match part.isFed, connection.codec.decode envelope with
    | true, .error _ => [.cancel part.stream.streamId]
    | _, _ => []
  | .arrived _ => []
  | .asked =>
    match part.stream.isDone, part.stream.buffer with
    | false, .ok _ :: _ =>
      if connection.threshold ≤ part.stream.consumed + 1 then
        [.requestN part.stream.streamId (UInt32.ofNat (part.stream.consumed + 1))]
      else []
    | _, _ => []
  | .left =>
    if part.isFed && !part.stream.isDone then [.cancel part.stream.streamId] else []

end StreamPart

namespace Connection

/-- An inbound stream of a connection by itself. -/
def streamPart (connection : Connection) (number : Nat) : Option StreamPart :=
  (connection.inbound[number]?).map (fun stream =>
    ⟨stream, connection.sinks.find? stream.streamId = some (.stream number)⟩)

/-- What an action brings to a call. -/
def arrival (connection : Connection) (streamId : UInt64) : Action → Option Arrival
  | .receive frame =>
    if connection.reads ∧ frame.streamId = streamId then
      match frame with
      | .next _ envelope => some (.message envelope)
      | .complete _ => some .completed
      | .error _ code text => some (.failed code text)
      | .cancel _ => if connection.role = .server then some .cancelled else none
      | _ => none
    else none
  | .close | .endReader | .endWriter => if connection.isClosed then none else some .closed
  | _ => none

/-- What an action is for an inbound stream. -/
def streamEvent (connection : Connection) (number : Nat) (action : Action) :
    Option CallEvent :=
  match connection.inbound[number]? with
  | none => none
  | some stream =>
    match action with
    | .pullInbound pulled => if pulled = number then some .asked else none
    | .dropInbound dropped => if dropped = number then some .left else none
    | action => (connection.arrival stream.streamId action).map .arrived

/-- No other inbound stream, and no reply, has the stream id of an inbound stream. -/
structure SoleStream (connection : Connection) (number : Nat) (streamId : UInt64) :
    Prop where
  streams : ∀ (other : Nat) stream, connection.inbound[other]? = some stream →
    stream.streamId = streamId → other = number
  replies : ∀ (other : Nat) reply, connection.replies[other]? = some reply →
    reply.streamId ≠ streamId

theorem SoleStream.earlier {first second : Connection} {number : Nat} {streamId : UInt64}
    (sole : SoleStream second number streamId) (grown : Extends first second) :
    SoleStream first number streamId where
  streams other stream present carries := by
    rcases grown.inbound other stream present with ⟨later, atLater, same, _⟩
    exact sole.streams other later atLater (same.trans carries)
  replies other reply present carries := by
    rcases grown.replies other reply present with ⟨later, atLater, same⟩
    exact sole.replies other later atLater (same.trans carries)

theorem streamPart_eq_some {connection : Connection} {number : Nat} {part : StreamPart} :
    connection.streamPart number = some part ↔
      connection.inbound[number]? = some part.stream ∧
        part.isFed =
          decide (connection.sinks.find? part.stream.streamId = some (.stream number)) := by
  rw [streamPart, Option.map_eq_some_iff]
  constructor
  · rintro ⟨stream, present, rfl⟩
    exact ⟨present, rfl⟩
  · rintro ⟨present, fed⟩
    exact ⟨part.stream, present, by rw [← fed]⟩

theorem streamPart_of_present {connection : Connection} {number : Nat}
    {stream : InboundStream} (present : connection.inbound[number]? = some stream) :
    connection.streamPart number =
      some ⟨stream, connection.sinks.find? stream.streamId = some (.stream number)⟩ := by
  rw [streamPart, present, Option.map_some]

theorem streamPart_keeps {first second : Connection} {number : Nat} {part : StreamPart}
    (present : first.streamPart number = some part)
    (keeps : KeepsInbox part.stream.streamId first second) :
    second.streamPart number = some part := by
  rw [streamPart_eq_some] at present ⊢
  exact ⟨keeps.inbound number _ present.1 rfl, by rw [keeps.sink, present.2]⟩

/-- The sink of a call that has no one else leads to its stream, or is not there. -/
theorem SoleStream.sink {connection : Connection} (wired : Wired connection)
    {number : Nat} {part : StreamPart}
    (present : connection.streamPart number = some part)
    (sole : SoleStream connection number part.stream.streamId) :
    connection.sinks.find? part.stream.streamId =
      if part.isFed then some (.stream number) else none := by
  have fed := (streamPart_eq_some.mp present).2
  cases found : connection.sinks.find? part.stream.streamId with
  | none => simp [fed, found]
  | some sink =>
      cases sink with
      | reply other =>
          rcases wired.reply _ _ found with ⟨reply, atOther, carries⟩
          exact (sole.replies other reply atOther carries).elim
      | stream other =>
          rcases wired.stream _ _ found with ⟨stream, atOther, carries⟩
          have same := sole.streams other stream atOther carries
          subst same
          simp [fed, found]

/-! ## What an operation does to the stream it is about -/

theorem streamPart_congr {first second : Connection} (same : second.inbox = first.inbox)
    (number : Nat) :
    second.streamPart number = first.streamPart number := by
  simp only [inbox, Prod.mk.injEq] at same
  rw [streamPart, streamPart, same.1, same.2.2]

section

variable {connection : Connection} {number : Nat} {part : StreamPart}

theorem streamPart_updateInbound
    (present : connection.streamPart number = some part)
    (change : InboundStream → InboundStream)
    (same : (change part.stream).streamId = part.stream.streamId) :
    (connection.updateInbound number change).streamPart number =
      some { part with stream := change part.stream } := by
  rw [streamPart_eq_some] at present ⊢
  exact ⟨by simp [updateInbound, present.1], by simp only [same, present.2]; rfl⟩

theorem streamPart_removeSink (present : connection.streamPart number = some part) :
    (connection.removeSink part.stream.streamId).streamPart number = some part.cut := by
  rw [streamPart_eq_some] at present ⊢
  exact ⟨present.1, by simp [StreamPart.cut, removeSink]⟩

theorem streamPart_deliverTo (present : connection.streamPart number = some part)
    (item : Outcome Message) :
    (connection.deliverTo (.stream number) item).streamPart number =
      some (part.push item) :=
  streamPart_updateInbound present _ rfl

theorem streamPart_failSink (wired : Wired connection)
    (present : connection.streamPart number = some part)
    (sole : SoleStream connection number part.stream.streamId) (error : CallError) :
    (connection.failSink part.stream.streamId error).streamPart number =
      some (if part.isFed then (part.push (.error error)).cut else part) := by
  have sink := sole.sink wired present
  cases fed : part.isFed with
  | false =>
      rw [fed, if_neg (by decide)] at sink
      rw [failSink_of_none sink, present, if_neg (by decide)]
  | true =>
      rw [fed, if_pos rfl] at sink
      rw [failSink_of_some sink, deliverTo_removeSink, if_pos rfl]
      exact streamPart_removeSink (streamPart_deliverTo present _)

theorem streamPart_cancelSink (present : connection.streamPart number = some part) :
    (connection.cancelSink part.stream.streamId).streamPart number = some part.cut := by
  rw [cancelSink_eq]
  rw [← streamPart_removeSink present]
  exact streamPart_congr rfl number

theorem streamPart_pullInbound (present : connection.streamPart number = some part) :
    (connection.pullInbound number).2.streamPart number =
      some (part.step connection .asked) := by
  rcases streamPart_eq_some.mp present with ⟨atNumber, fed⟩
  rcases part with ⟨⟨streamId, isRequester, buffer, consumed, isDone⟩, isFed⟩
  cases isDone with
  | true => simpa [pullInbound, atNumber, StreamPart.step] using present
  | false =>
      rcases buffer with _ | ⟨_ | message, rest⟩
      · cases isFed with
        | true =>
            rw [eq_comm, decide_eq_true_iff] at fed
            simpa [pullInbound, atNumber, fed, StreamPart.step] using present
        | false =>
            rw [eq_comm, decide_eq_false_iff_not] at fed
            simp only [pullInbound, atNumber, fed, StreamPart.step]
            exact streamPart_updateInbound present _ rfl
      · simp only [pullInbound, atNumber, StreamPart.step]
        exact streamPart_updateInbound present _ rfl
      · have granted := streamPart_updateInbound present
          (fun stream => { stream with buffer := rest, consumed := 0 }) rfl
        have counted := streamPart_updateInbound present
          (fun stream => { stream with buffer := rest, consumed := consumed + 1 }) rfl
        by_cases enough : connection.threshold ≤ consumed + 1
        · simp only [pullInbound, atNumber, StreamPart.step, StreamPart.pull, replenish,
            Bool.false_eq_true, if_false, enough, if_true]
          exact (streamPart_congr (inbox_post _ _) number).trans granted
        · simp only [pullInbound, atNumber, StreamPart.step, StreamPart.pull, replenish,
            Bool.false_eq_true, if_false, enough]
          exact counted

theorem streamPart_dropInbound (present : connection.streamPart number = some part) :
    (connection.dropInbound number).streamPart number =
      some (part.step connection .left) := by
  rcases streamPart_eq_some.mp present with ⟨atNumber, _⟩
  cases done : part.stream.isDone with
  | true => simpa [dropInbound, atNumber, done, StreamPart.step] using present
  | false =>
      have dropped := streamPart_updateInbound (streamPart_cancelSink present)
        (fun stream => { stream with isDone := true }) rfl
      simp only [dropInbound, atNumber, done, StreamPart.step, Bool.false_eq_true, if_false]
      split
      · exact (streamPart_congr (inbox_cancelOutbound _ _) number).trans dropped
      · exact dropped

end

/-! ## What an action does to a stream -/

section

variable {connection : Connection} {number : Nat} {part : StreamPart}

/-- Nothing opens under the stream id of a stream that has no other beside it. -/
theorem SoleStream.inbox {action : Action} {streamId : UInt64} {stream : InboundStream}
    (sole : SoleStream (connection.perform action).2 number streamId)
    (wired : Wired connection)
    (present : connection.inbound[number]? = some stream)
    (concerned : ConcernsInbox connection streamId action)
    (adds : action.mayAdd = true) :
    (connection.perform action).2.inbox = connection.inbox := by
  rcases inbox_perform wired action with nothing | ⟨_, _, reply⟩ | ⟨_, _, _, opened⟩
  · exact nothing.inbox adds
  · have same := reply.origin.eq_of_concerned concerned
    exact (sole.replies connection.replies.length _ (by simp [reply.replies]; rfl) same).elim
  · have same := opened.origin.eq_of_concerned concerned
    have before := (List.getElem?_eq_some_iff.mp present).1
    have last := sole.streams connection.inbound.length _ (by simp [opened.inbound]; rfl) same
    omega

theorem streamPart_receiveNext (wired : Wired connection)
    (present : connection.streamPart number = some part)
    (sole : SoleStream connection number part.stream.streamId) (envelope : Envelope) :
    (connection.receiveNext part.stream.streamId envelope).streamPart number =
      some (part.step connection (.arrived (.message envelope))) := by
  have sink := sole.sink wired present
  have failed := fun error => streamPart_failSink wired present sole error
  cases fed : part.isFed with
  | false =>
      rw [fed, if_neg (by decide)] at sink
      cases decodes : connection.codec.decode envelope <;>
        simpa [receiveNext, sink, decodes, StreamPart.step, fed] using present
  | true =>
      simp only [fed, if_true] at sink failed
      cases decodes : connection.codec.decode envelope with
      | error error =>
          simp only [receiveNext, sink, decodes, StreamPart.step, StreamPart.take, fed]
          exact (streamPart_congr (inbox_post _ _) number).trans (failed error)
      | ok message =>
          simp only [receiveNext, sink, decodes, StreamPart.step, StreamPart.take, fed]
          exact streamPart_deliverTo present _

theorem streamPart_receive (wired : Wired connection)
    (present : connection.streamPart number = some part) {frame : Frame}
    (about : frame.streamId = part.stream.streamId)
    (settled : (Action.receive frame).mayAdd = false)
    (sole : SoleStream connection number part.stream.streamId) :
    (connection.receive frame).2.streamPart number =
      some (part.advance connection (connection.streamEvent number (.receive frame))) := by
  have atNumber := (streamPart_eq_some.mp present).1
  cases reading : connection.reads with
  | false =>
      rw [receive_stopped reading, present]
      simp [streamEvent, atNumber, arrival, reading, StreamPart.advance]
  | true =>
      have event : connection.streamEvent number (.receive frame) =
          (connection.arrival part.stream.streamId (.receive frame)).map .arrived := by
        simp [streamEvent, atNumber]
      rw [event]
      simp only [arrival, reading, about, and_self, if_true]
      cases frame with
      | request mode streamId envelope => simp [Action.mayAdd] at settled
      | next streamId envelope =>
          rw [Frame.streamId] at about
          subst about
          rw [receive_next reading]
          exact streamPart_receiveNext wired present sole envelope
      | complete streamId =>
          rw [Frame.streamId] at about
          subst about
          rw [receive_complete reading]
          simp only [Option.map_some, StreamPart.advance, StreamPart.step, StreamPart.take]
          rw [streamPart_removeSink present]
          cases fed : part.isFed <;> simp [StreamPart.cut, ← fed]
      | error streamId code text =>
          rw [Frame.streamId] at about
          subst about
          rw [receive_error reading]
          exact streamPart_failSink wired present sole _
      | cancel streamId =>
          rw [Frame.streamId] at about
          subst about
          have stopped := (streamPart_congr (inbox_cancelOutbound connection
            part.stream.streamId) number).trans present
          cases side : connection.role with
          | client =>
              rw [receive_cancel_client reading side]
              exact stopped
          | server =>
              rw [receive_cancel_server reading side]
              simp only [if_true, Option.map_some, StreamPart.advance, StreamPart.step,
                StreamPart.take]
              rw [streamPart_removeSink stopped]
              cases fed : part.isFed <;> simp [StreamPart.cut, ← fed]
      | requestN streamId count =>
          rw [receive_requestN reading]
          exact (streamPart_congr (inbox_receiveGrant _ _ _) number).trans present

theorem streamPart_close (wired : Wired connection)
    (present : connection.streamPart number = some part)
    (sole : SoleStream connection number part.stream.streamId)
    (running : connection.isClosed = false) :
    connection.close.streamPart number =
      some (part.step connection (.arrived .closed)) := by
  have failed := streamPart_failSink wired present sole connection.closedError
  have carries :
      (if part.isFed then (part.push (.error connection.closedError)).cut
        else part).stream.streamId = part.stream.streamId := by
    split <;> rfl
  have kept := keepsInbox_close wired running part.stream.streamId
  rw [← carries] at kept
  exact streamPart_keeps (carries ▸ failed) (carries ▸ kept)

theorem streamEvent_of_apart (present : connection.streamPart number = some part)
    {action : Action}
    (apart : ¬ ConcernsInbox connection part.stream.streamId action) :
    connection.streamEvent number action = none := by
  have atNumber := (streamPart_eq_some.mp present).1
  cases action with
  | pullInbound pulled =>
      have other : pulled ≠ number := by
        rintro rfl
        exact apart ⟨part.stream, atNumber, rfl⟩
      simp [streamEvent, atNumber, other]
  | dropInbound dropped =>
      have other : dropped ≠ number := by
        rintro rfl
        exact apart ⟨part.stream, atNumber, rfl⟩
      simp [streamEvent, atNumber, other]
  | receive frame =>
      have other : frame.streamId ≠ part.stream.streamId := apart
      simp [streamEvent, atNumber, arrival, other]
  | close | endReader | endWriter =>
      simpa [streamEvent, atNumber, arrival, ConcernsInbox] using apart
  | _ => simp [streamEvent, atNumber, arrival]

theorem streamEvent_of_adds (present : connection.streamPart number = some part)
    {action : Action} (adds : action.mayAdd = true) :
    connection.streamEvent number action = none := by
  have atNumber := (streamPart_eq_some.mp present).1
  cases action with
  | receive frame =>
      cases frame with
      | request mode streamId envelope => simp [streamEvent, atNumber, arrival]
      | _ => simp [Action.mayAdd, Action.opensCall] at adds
  | fireAndForget _ | requestResponse _ | requestStream _ | requestChannel _ =>
      simp [streamEvent, atNumber, arrival]
  | _ => simp [Action.mayAdd, Action.opensCall] at adds

/-- An action does to a stream what its event does. -/
theorem streamPart_perform (wired : Wired connection)
    (present : connection.streamPart number = some part) (action : Action)
    (sole : SoleStream (connection.perform action).2 number part.stream.streamId) :
    (connection.perform action).2.streamPart number =
      some (part.advance connection (connection.streamEvent number action)) := by
  have atNumber := (streamPart_eq_some.mp present).1
  have before := sole.earlier (extends_perform wired action).1
  by_cases concerned : ConcernsInbox connection part.stream.streamId action
  · cases action with
    | requestResponse message | requestStream message | requestChannel message =>
        have same := sole.inbox wired atNumber concerned rfl
        rw [streamEvent_of_adds present rfl]
        exact (streamPart_congr same number).trans present
    | pollReply polled =>
        rcases concerned with ⟨reply, atPolled, carries⟩
        exact (before.replies polled reply atPolled carries).elim
    | dropReply dropped =>
        rcases concerned with ⟨reply, atDropped, carries⟩
        exact (before.replies dropped reply atDropped carries).elim
    | pullInbound pulled =>
        rcases concerned with ⟨stream, atPulled, carries⟩
        have same := before.streams pulled stream atPulled carries
        subst same
        have event : connection.streamEvent pulled (.pullInbound pulled) = some .asked := by
          simp [streamEvent, atNumber]
        rw [event]
        exact streamPart_pullInbound present
    | dropInbound dropped =>
        rcases concerned with ⟨stream, atDropped, carries⟩
        have same := before.streams dropped stream atDropped carries
        subst same
        have event : connection.streamEvent dropped (.dropInbound dropped) = some .left := by
          simp [streamEvent, atNumber]
        rw [event]
        exact streamPart_dropInbound present
    | receive frame =>
        cases adds : (Action.receive frame).mayAdd with
        | false => exact streamPart_receive wired present concerned adds before
        | true =>
            have same := sole.inbox wired atNumber concerned adds
            rw [streamEvent_of_adds present adds]
            exact (streamPart_congr same number).trans present
    | close | endReader | endWriter =>
        have running : connection.isClosed = false := concerned
        simp only [streamEvent, atNumber, arrival, running, Bool.false_eq_true, if_false,
          Option.map_some]
        exact (streamPart_congr rfl number).trans (streamPart_close wired present before running)
    | _ => exact concerned.elim
  · rw [streamEvent_of_apart present concerned, StreamPart.advance]
    exact streamPart_keeps present (keepsInbox_perform wired concerned)

/-- A pull gives the signal that the stream holds. -/
theorem pullInbound_signal (present : connection.streamPart number = some part) :
    (connection.pullInbound number).1 = part.signal := by
  rcases streamPart_eq_some.mp present with ⟨atNumber, fed⟩
  rcases part with ⟨⟨streamId, isRequester, buffer, consumed, isDone⟩, isFed⟩
  cases isDone with
  | true => simp [pullInbound, atNumber, StreamPart.signal]
  | false =>
      rcases buffer with _ | ⟨_ | message, rest⟩
      · cases isFed with
        | true =>
            rw [eq_comm, decide_eq_true_iff] at fed
            simp [pullInbound, atNumber, fed, StreamPart.signal]
        | false =>
            rw [eq_comm, decide_eq_false_iff_not] at fed
            simp [pullInbound, atNumber, fed, StreamPart.signal]
      · simp [pullInbound, atNumber, StreamPart.signal]
      · simp [pullInbound, atNumber, StreamPart.signal]

/-- What the consumer sees at an action is what the stream shows at its event. -/
theorem seen_eq_shows (present : connection.streamPart number = some part)
    (action : Action) :
    Step.seen number ⟨connection, action⟩ =
      (connection.streamEvent number action).bind part.shows := by
  have atNumber := (streamPart_eq_some.mp present).1
  cases action with
  | pullInbound pulled =>
      by_cases same : pulled = number
      · subst same
        have gives := pullInbound_signal present
        simp only [Step.seen, Step.observation, perform, Prod.map_fst, gives, streamEvent, atNumber]
        rcases part with ⟨⟨streamId, isRequester, buffer, consumed, isDone⟩, isFed⟩
        rcases isDone with _ | _ <;> rcases buffer with _ | _ <;> rcases isFed with _ | _ <;>
          simp [StreamPart.signal, StreamPart.shows]
      · simp [Step.seen, streamEvent, atNumber, same, Step.observation, perform]
  | dropInbound dropped =>
      by_cases same : dropped = number <;>
        simp [Step.seen, streamEvent, atNumber, same, StreamPart.shows]
  | _ =>
      simp only [Step.seen, streamEvent, atNumber]
      cases arrival connection part.stream.streamId _ <;> rfl

/-! ## The feedback of a stream -/

/-- What a producer sends is no feedback. -/
theorem Framed.isFeedback {codec : MessageCodec} {streamId other : UInt64}
    {signal : Signal (Outcome Message)} {frame : Frame} {isLast : Bool}
    (framed : Framed codec other signal frame isLast) :
    frame.isFeedback streamId = false := by
  cases framed <;> rfl

/-- An action that is not about a stream id sends no feedback for it. -/
theorem feedback_sends_of_ne {streamId : UInt64} {action : Action}
    (streams : ∀ (other : Nat) stream,
      action = .pullInbound other ∨ action = .dropInbound other →
        connection.inbound[other]? = some stream → stream.streamId ≠ streamId)
    (replies : ∀ (other : Nat) reply, action = .dropReply other →
      connection.replies[other]? = some reply → reply.streamId ≠ streamId)
    (frames : ∀ frame, action = .receive frame → frame.streamId ≠ streamId) :
    (connection.sends action).filter (Frame.isFeedback streamId) = [] := by
  rw [List.filter_eq_nil_iff]
  intro frame member feedback
  cases reason_of_mem member with
  | reply present => exact replies _ _ rfl present (of_decide_eq_true feedback)
  | stream present _ => exact streams _ _ (.inr rfl) present (of_decide_eq_true feedback)
  | grant _ present => exact streams _ _ (.inl rfl) present (of_decide_eq_true feedback)
  | unreadable _ _ _ => exact frames _ rfl (of_decide_eq_true feedback)
  | signal _ framed | response _ framed =>
      rw [framed.isFeedback] at feedback
      cases feedback
  | opening | refusal => cases feedback

theorem feedback_pullInbound (present : connection.streamPart number = some part) :
    (connection.sends (.pullInbound number)).filter
        (Frame.isFeedback part.stream.streamId) =
      part.posts connection .asked := by
  have atNumber := (streamPart_eq_some.mp present).1
  rcases part with ⟨⟨streamId, isRequester, buffer, consumed, isDone⟩, isFed⟩
  cases isDone with
  | true => simp [sends, atNumber, StreamPart.posts]
  | false =>
      rcases buffer with _ | ⟨_ | message, rest⟩
      · simp [sends, atNumber, StreamPart.posts]
      · simp [sends, atNumber, StreamPart.posts]
      · simp only [sends, atNumber, StreamPart.posts]
        split <;> simp [Frame.isFeedback]

theorem cancelFrames_of_sole (wired : Wired connection)
    (present : connection.streamPart number = some part)
    (sole : SoleStream connection number part.stream.streamId) :
    connection.cancelFrames part.stream.streamId =
      if part.isFed then [.cancel part.stream.streamId] else [] := by
  rw [cancelFrames, sole.sink wired present]
  cases part.isFed <;> rfl

theorem feedback_dropInbound (wired : Wired connection)
    (present : connection.streamPart number = some part)
    (sole : SoleStream connection number part.stream.streamId) :
    (connection.sends (.dropInbound number)).filter
        (Frame.isFeedback part.stream.streamId) =
      part.posts connection .left := by
  have atNumber := (streamPart_eq_some.mp present).1
  simp only [sends, atNumber, cancelFrames_of_sole wired present sole, StreamPart.posts]
  cases part.stream.isDone <;> cases part.isFed <;> simp [Frame.isFeedback]

theorem feedback_receive {streamId : UInt64} {frame : Frame}
    (about : frame.streamId = streamId) :
    (connection.sends (.receive frame)).filter (Frame.isFeedback streamId) =
      match connection.arrival streamId (.receive frame) with
      | some (.message envelope) =>
        match connection.codec.decode envelope with
        | .ok _ => []
        | .error _ => connection.cancelFrames streamId
      | _ => [] := by
  have cancels : (connection.cancelFrames streamId).filter (Frame.isFeedback streamId) =
      connection.cancelFrames streamId := by
    rw [cancelFrames]
    split <;> simp [Frame.isFeedback]
  simp only [sends, arrival, about]
  cases reading : connection.reads with
  | false => simp
  | true =>
      cases frame with
      | request mode other envelope =>
          simp only [answersTo]
          split
          · split <;> simp [Frame.isFeedback, Frame.ofError]
          · simp
      | next other envelope =>
          rw [Frame.streamId] at about
          subst about
          cases decodes : connection.codec.decode envelope <;>
            simp [answersTo, decodes, cancels]
      | cancel other => cases connection.role <;> simp [answersTo]
      | _ => simp [answersTo]

/-- The feedback that an action sends for a stream is what the stream posts at its event. -/
theorem feedback_sends (wired : Wired connection)
    (present : connection.streamPart number = some part)
    (sole : SoleStream connection number part.stream.streamId) (action : Action) :
    (connection.sends action).filter (Frame.isFeedback part.stream.streamId) =
      (connection.streamEvent number action).elim [] (part.posts connection) := by
  have atNumber := (streamPart_eq_some.mp present).1
  have elsewhere {taken : Nat} (other : taken ≠ number) (stream : InboundStream)
      (atTaken : connection.inbound[taken]? = some stream) :
      stream.streamId ≠ part.stream.streamId :=
    fun carries => other (sole.streams taken stream atTaken carries)
  cases action with
  | pullInbound pulled =>
      by_cases same : pulled = number
      · subst same
        simpa [streamEvent, atNumber] using feedback_pullInbound present
      · refine (feedback_sends_of_ne ?_ (by simp) (by simp)).trans ?_
        · rintro other stream (taken | taken) <;> cases taken
          exact elsewhere same stream
        · simp [streamEvent, atNumber, same]
  | dropInbound dropped =>
      by_cases same : dropped = number
      · subst same
        simpa [streamEvent, atNumber] using feedback_dropInbound wired present sole
      · refine (feedback_sends_of_ne ?_ (by simp) (by simp)).trans ?_
        · rintro other stream (taken | taken) <;> cases taken
          exact elsewhere same stream
        · simp [streamEvent, atNumber, same]
  | receive frame =>
      by_cases about : frame.streamId = part.stream.streamId
      · have event : connection.streamEvent number (.receive frame) =
            (connection.arrival part.stream.streamId (.receive frame)).map .arrived := by
          simp [streamEvent, atNumber]
        rw [feedback_receive about, event]
        rcases connection.arrival part.stream.streamId (.receive frame) with _ | arrival
        · rfl
        · cases arrival with
          | message envelope =>
              rw [cancelFrames_of_sole wired present sole]
              cases decodes : connection.codec.decode envelope <;>
                cases fed : part.isFed <;> simp [StreamPart.posts, decodes, fed]
          | _ => rfl
      · refine (feedback_sends_of_ne (by simp) (by simp) ?_).trans ?_
        · rintro other taken
          cases taken
          exact about
        · simp [streamEvent, atNumber, arrival, about]
  | _ =>
      rw [feedback_sends_of_ne (by simp) (fun other reply _ => sole.replies other reply) (by simp)]
      simp only [streamEvent, atNumber, arrival]
      repeat' split
      all_goals rfl

/-- There is no feedback for a stream id that nobody has. -/
theorem feedback_sends_of_unused (wired : Wired connection)
    (absent : connection.inbound[number]? = none) {streamId : UInt64}
    (sole : SoleStream connection number streamId) (action : Action) :
    (connection.sends action).filter (Frame.isFeedback streamId) = [] := by
  have unused (other : Nat) (stream : InboundStream)
      (present : connection.inbound[other]? = some stream) :
      stream.streamId ≠ streamId := by
    intro carries
    have same := sole.streams other stream present carries
    simp [← same, present] at absent
  rw [List.filter_eq_nil_iff]
  intro frame member feedback
  cases reason_of_mem member with
  | reply present => exact sole.replies _ _ present (of_decide_eq_true feedback)
  | stream present _ | grant _ present => exact unused _ _ present (of_decide_eq_true feedback)
  | unreadable _ _ fed =>
      rw [of_decide_eq_true feedback] at fed
      rcases Option.ne_none_iff_exists'.mp fed with ⟨sink, found⟩
      cases sink with
      | reply other =>
          rcases wired.reply _ _ found with ⟨reply, present, carries⟩
          exact sole.replies other reply present carries
      | stream other =>
          rcases wired.stream _ _ found with ⟨stream, present, carries⟩
          exact unused other stream present carries
  | signal _ framed | response _ framed =>
      rw [framed.isFeedback] at feedback
      cases feedback
  | opening | refusal => cases feedback

end

end Connection

end ServiceMesh
