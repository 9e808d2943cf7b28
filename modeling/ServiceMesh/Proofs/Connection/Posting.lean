import ServiceMesh.Proofs.Connection.Wiring

/-!
# What an action queues

An action other than a write only adds frames at the end of the queue.  `sends` lists them by what
the action finds, and `queue_perform` says that nothing else is queued.  `reason_of_mem` gives each
frame among them its reason, and what a frame says of the step that queued it is read off that.
-/

namespace ServiceMesh.Connection

/-- The frame that opens a call. -/
def openingFrames (connection : Connection) (mode : Mode) (message : Message) :
    List Frame :=
  match connection.codec.encode message with
  | .ok envelope => [.request mode connection.nextStreamId envelope]
  | .error _ => []

/-- The cancellation of a call that has a sink. -/
def cancelFrames (connection : Connection) (streamId : UInt64) : List Frame :=
  if connection.sinks.find? streamId = none then [] else [.cancel streamId]

/-- Why a request is refused, if it is. -/
def refusal (connection : Connection) (envelope : Envelope) : Option CallError :=
  match connection.codec.decode envelope with
  | .error error => some error
  | .ok message => if message.qualifier = "" then some Dispatcher.missingQualifier else none

/-- The frame for the one response of a handler. -/
def responseFrame (codec : MessageCodec) (streamId : UInt64)
    (result : Outcome Message) : Frame :=
  match result.bind codec.encode with
  | .ok envelope => .next streamId envelope
  | .error error => .ofError streamId error

/-- What is queued when a frame is taken. -/
def answersTo (connection : Connection) : Frame → List Frame
  | .request mode streamId envelope =>
    match connection.role, connection.refusal envelope with
    | .server, some error => if mode = .fireAndForget then [] else [.ofError streamId error]
    | _, _ => []
  | .next streamId envelope =>
    match connection.codec.decode envelope with
    | .ok _ => []
    | .error _ => connection.cancelFrames streamId
  | _ => []

/-- What an action queues, as long as frames are still taken into the queue. -/
def sends (connection : Connection) : Action → List Frame
  | .fireAndForget message => connection.openingFrames .fireAndForget message
  | .requestResponse message =>
    if connection.isClosed then [] else connection.openingFrames .requestResponse message
  | .requestStream message =>
    if connection.isClosed then [] else connection.openingFrames .requestStream message
  | .requestChannel (some (.ok message)) =>
    if connection.isClosed then [] else connection.openingFrames .requestChannel message
  | .dropReply number =>
    match connection.replies[number]? with
    | some reply => if reply.isFinished then [] else connection.cancelFrames reply.streamId
    | none => []
  | .pullInbound number =>
    match connection.inbound[number]? with
    | some stream =>
      match stream.isDone, stream.buffer with
      | false, .ok _ :: _ =>
        if connection.threshold ≤ stream.consumed + 1 then
          [.requestN stream.streamId (UInt32.ofNat (stream.consumed + 1))]
        else []
      | _, _ => []
    | none => []
  | .dropInbound number =>
    match connection.inbound[number]? with
    | some stream => if stream.isDone then [] else connection.cancelFrames stream.streamId
    | none => []
  | .produce number signal =>
    match connection.producers[number]? with
    | some ⟨streamId, _, .pulling⟩ =>
      ((frameFor connection.codec streamId signal).map Prod.fst).toList
    | _ => []
  | .respond number result =>
    match connection.producers[number]? with
    | some ⟨streamId, _, .answering⟩ => [responseFrame connection.codec streamId result]
    | _ => []
  | .receive frame => if connection.reads then connection.answersTo frame else []
  | _ => []

@[simp]
theorem admitted_nil (connection : Connection) : connection.admitted [] = [] := by
  simp [admitted]

@[simp]
theorem queue_post (connection : Connection) (frame : Frame) :
    (connection.post frame).queue = connection.queue ++ connection.admitted [frame] := by
  rw [post_eq]

/-! ## What producers do, by their phase -/

section

variable {connection : Connection} {number : Nat}

theorem takeCredit_of_waiting {streamId : UInt64} {credits : Nat}
    (present : connection.producers[number]? = some ⟨streamId, credits + 1, .waiting⟩) :
    connection.takeCredit number =
      connection.updateProducer number (fun producer =>
        { producer with credits := producer.credits - 1, phase := .pulling }) := by
  simp [takeCredit, present]

theorem takeCredit_of_idle
    (idle : ∀ producer, connection.producers[number]? = some producer →
      producer.phase ≠ .waiting ∨ producer.credits = 0) :
    connection.takeCredit number = connection := by
  simp only [takeCredit]
  split
  · rename_i present
    rcases idle _ present with phase | credits
    · exact (phase rfl).elim
    · simp at credits
  · rfl

theorem produce_of_given {streamId : UInt64} {credits : Nat}
    {signal : Signal (Outcome Message)} {frame : Frame} {isLast : Bool}
    (present : connection.producers[number]? = some ⟨streamId, credits, .pulling⟩)
    (given : frameFor connection.codec streamId signal = some (frame, isLast)) :
    connection.produce number signal =
      if isLast || !connection.writes then
        (connection.post frame).endProducer number streamId
      else
        (connection.post frame).updateProducer number (fun producer =>
          { producer with phase := .waiting }) := by
  simp [produce, present, given, send_eq]

theorem produce_of_nothing {streamId : UInt64} {credits : Nat}
    {signal : Signal (Outcome Message)}
    (present : connection.producers[number]? = some ⟨streamId, credits, .pulling⟩)
    (nothing : frameFor connection.codec streamId signal = none) :
    connection.produce number signal = connection := by
  simp [produce, present, nothing]

theorem produce_of_idle {signal : Signal (Outcome Message)}
    (idle : ∀ producer, connection.producers[number]? = some producer →
      producer.phase ≠ .pulling) :
    connection.produce number signal = connection := by
  simp only [produce]
  split
  · rename_i present
    exact (idle _ present rfl).elim
  · rfl

theorem sends_produce_of_idle {signal : Signal (Outcome Message)}
    (idle : ∀ producer, connection.producers[number]? = some producer →
      producer.phase ≠ .pulling) :
    connection.sends (.produce number signal) = [] := by
  simp only [sends]
  split
  · rename_i present
    exact (idle _ present rfl).elim
  · rfl

theorem respond_of_answering {streamId : UInt64} {credits : Nat}
    {result : Outcome Message}
    (present : connection.producers[number]? = some ⟨streamId, credits, .answering⟩) :
    connection.respond number result =
      (connection.post (responseFrame connection.codec streamId result)).endProducer
        number streamId := by
  simp only [respond, present]
  rfl

theorem respond_of_idle {result : Outcome Message}
    (idle : ∀ producer, connection.producers[number]? = some producer →
      producer.phase ≠ .answering) :
    connection.respond number result = connection := by
  simp only [respond]
  split
  · rename_i present
    exact (idle _ present rfl).elim
  · rfl

theorem sends_respond_of_idle {result : Outcome Message}
    (idle : ∀ producer, connection.producers[number]? = some producer →
      producer.phase ≠ .answering) :
    connection.sends (.respond number result) = [] := by
  simp only [sends]
  split
  · rename_i present
    exact (idle _ present rfl).elim
  · rfl

end

/-! ## Operations that queue nothing -/

@[simp]
theorem queue_deliverTo (connection : Connection) (sink : Sink)
    (item : Outcome Message) :
    (connection.deliverTo sink item).queue = connection.queue := by
  cases sink <;> rfl

@[simp]
theorem writes_deliverTo (connection : Connection) (sink : Sink)
    (item : Outcome Message) :
    (connection.deliverTo sink item).writes = connection.writes := by
  cases sink <;> rfl

@[simp]
theorem queue_failSink (connection : Connection) (streamId : UInt64)
    (error : CallError) :
    (connection.failSink streamId error).queue = connection.queue := by
  cases sink : connection.sinks.find? streamId with
  | none => rw [failSink_of_none sink]
  | some found =>
      rw [failSink_of_some sink, queue_deliverTo]
      rfl

@[simp]
theorem writes_failSink (connection : Connection) (streamId : UInt64)
    (error : CallError) :
    (connection.failSink streamId error).writes = connection.writes := by
  cases sink : connection.sinks.find? streamId with
  | none => rw [failSink_of_none sink]
  | some found =>
      rw [failSink_of_some sink, writes_deliverTo]
      rfl

@[simp]
theorem queue_cancelOutbound (connection : Connection) (streamId : UInt64) :
    (connection.cancelOutbound streamId).queue = connection.queue := by
  cases listed : connection.outbound.find? streamId with
  | none => rw [cancelOutbound_of_none listed]
  | some number =>
      rw [cancelOutbound_of_some listed]
      rfl

@[simp]
theorem queue_close (connection : Connection) :
    connection.close.queue = connection.queue := by
  cases running : connection.isClosed with
  | true => rw [close_of_closed running]
  | false =>
      have failed (streamIds : List UInt64) (error : CallError) (start : Connection) :
          (streamIds.foldl (fun connection streamId => connection.failSink streamId error)
            start).queue = start.queue := by
        induction streamIds generalizing start with
        | nil => rfl
        | cons streamId streamIds induction =>
            rw [List.foldl_cons, induction, queue_failSink]
      have stopped (streamIds : List UInt64) (start : Connection) :
          (streamIds.foldl Connection.cancelOutbound start).queue = start.queue := by
        induction streamIds generalizing start with
        | nil => rfl
        | cons streamId streamIds induction =>
            rw [List.foldl_cons, induction, queue_cancelOutbound]
      rw [close_of_open running, cancelOutbounds, stopped, failSinks, failed]

/-! ## Operations that queue a frame -/

theorem queue_cancelSink (connection : Connection) (streamId : UInt64) :
    (connection.cancelSink streamId).queue =
      connection.queue ++ connection.admitted (connection.cancelFrames streamId) := by
  rw [cancelSink_eq]
  rfl

theorem queue_pollReply (connection : Connection) (number : Nat) :
    (connection.pollReply number).2.queue = connection.queue := by
  simp only [pollReply]
  repeat' split
  all_goals rfl

theorem queue_dropReply (connection : Connection) (number : Nat) :
    (connection.dropReply number).queue =
      connection.queue ++ connection.admitted (connection.sends (.dropReply number)) := by
  cases present : connection.replies[number]? with
  | none => simp [dropReply, sends, present]
  | some reply =>
      cases finished : reply.isFinished with
      | true => simp [dropReply, sends, present, finished]
      | false =>
          simp only [dropReply, sends, present, finished]
          exact queue_cancelSink _ _

theorem queue_pullInbound (connection : Connection) (number : Nat) :
    (connection.pullInbound number).2.queue =
      connection.queue ++ connection.admitted (connection.sends (.pullInbound number)) := by
  cases present : connection.inbound[number]? with
  | none => simp [pullInbound, sends, present]
  | some stream =>
      rcases stream with ⟨streamId, isRequester, buffer, consumed, isDone⟩
      cases isDone with
      | true => simp [pullInbound, sends, present]
      | false =>
          rcases buffer with _ | ⟨_ | message, rest⟩
          · simp only [pullInbound, sends, present, Bool.false_eq_true, if_false]
            split <;> simp [updateInbound]
          · simp [pullInbound, sends, present, updateInbound]
          · simp only [pullInbound, sends, present, replenish, Bool.false_eq_true, if_false]
            split
            · exact queue_post _ _
            · simp [updateInbound]

theorem queue_dropInbound (connection : Connection) (number : Nat) :
    (connection.dropInbound number).queue =
      connection.queue ++ connection.admitted (connection.sends (.dropInbound number)) := by
  cases present : connection.inbound[number]? with
  | none => simp [dropInbound, sends, present]
  | some stream =>
      cases done : stream.isDone with
      | true => simp [dropInbound, sends, present, done]
      | false =>
          simp only [dropInbound, sends, present, done, Bool.false_eq_true, if_false]
          split
          · rw [queue_cancelOutbound]
            exact queue_cancelSink _ _
          · exact queue_cancelSink _ _

theorem queue_takeCredit (connection : Connection) (number : Nat) :
    (connection.takeCredit number).queue = connection.queue := by
  simp only [takeCredit]
  split <;> rfl

theorem queue_produce (connection : Connection) (number : Nat)
    (signal : Signal (Outcome Message)) :
    (connection.produce number signal).queue =
      connection.queue ++ connection.admitted (connection.sends (.produce number signal)) := by
  by_cases pulling : ∃ streamId credits,
      connection.producers[number]? = some ⟨streamId, credits, .pulling⟩
  · rcases pulling with ⟨streamId, credits, present⟩
    cases given : frameFor connection.codec streamId signal with
    | none => simp [produce_of_nothing present given, sends, present, given]
    | some sent =>
        rcases sent with ⟨frame, isLast⟩
        rw [produce_of_given present given]
        simp only [sends, present, given]
        split <;> exact queue_post _ _
  · have idle (producer : Producer)
        (present : connection.producers[number]? = some producer) :
        producer.phase ≠ .pulling := by
      intro phase
      exact pulling ⟨producer.streamId, producer.credits, by rw [present, ← phase]⟩
    rw [produce_of_idle idle, sends_produce_of_idle idle, admitted_nil, List.append_nil]

theorem queue_respond (connection : Connection) (number : Nat)
    (result : Outcome Message) :
    (connection.respond number result).queue =
      connection.queue ++ connection.admitted (connection.sends (.respond number result)) := by
  by_cases answering : ∃ streamId credits,
      connection.producers[number]? = some ⟨streamId, credits, .answering⟩
  · rcases answering with ⟨streamId, credits, present⟩
    rw [respond_of_answering present]
    simp only [sends, present]
    exact queue_post _ _
  · have idle (producer : Producer)
        (present : connection.producers[number]? = some producer) :
        producer.phase ≠ .answering := by
      intro phase
      exact answering ⟨producer.streamId, producer.credits, by rw [present, ← phase]⟩
    rw [respond_of_idle idle, sends_respond_of_idle idle, admitted_nil, List.append_nil]

theorem queue_fireAndForget (connection : Connection) (message : Message) :
    (connection.fireAndForget message).2.queue =
      connection.queue ++ connection.admitted (connection.sends (.fireAndForget message)) := by
  simp only [fireAndForget, sends, openingFrames, send_eq]
  split
  · rename_i fails
    simp [fails]
  · rename_i encodes
    rw [encodes]
    split <;>
      (rename_i sent; rw [Prod.mk.injEq] at sent; rw [← sent.2]; exact queue_post _ _)

theorem queue_requestResponse {connection : Connection} (wired : Wired connection)
    (message : Message) :
    (connection.requestResponse message).2.queue =
      connection.queue ++ connection.admitted (connection.sends (.requestResponse message)) := by
  rcases requestResponse_cases wired message with
    ⟨error, fails, equal⟩ | ⟨_, _, closed, equal⟩ | ⟨envelope, encodes, running, equal⟩
  · simp [equal, sends, openingFrames, fails]
  · simp [equal, sends, closed]
  · have writing := wired.writing running
    simp [equal, sends, openingFrames, encodes, running, admitted, writing]

theorem queue_openStream {connection : Connection} (wired : Wired connection)
    (mode : Mode) (message : Message) :
    (connection.openStream mode message).2.queue =
      connection.queue ++ connection.admitted
        (if connection.isClosed then [] else connection.openingFrames mode message) := by
  rcases openStream_cases wired mode message with
    ⟨error, fails, equal⟩ | ⟨_, _, closed, equal⟩ | ⟨envelope, encodes, running, equal⟩
  · simp [equal, openingFrames, fails]
  · simp [equal, closed]
  · have writing := wired.writing running
    simp [equal, openingFrames, encodes, running, admitted, writing]

theorem queue_requestChannel {connection : Connection} (wired : Wired connection)
    (first : Option (Outcome Message)) :
    (connection.requestChannel first).2.queue =
      connection.queue ++ connection.admitted (connection.sends (.requestChannel first)) := by
  rcases first with _ | _ | message
  · simp [requestChannel, sends]
  · simp [requestChannel, sends]
  · have opened := queue_openStream wired .requestChannel message
    simp only [requestChannel, sends]
    split
    · rename_i equal
      rw [equal] at opened
      exact opened
    · rename_i equal
      rw [equal] at opened
      exact opened

theorem queue_reject (connection : Connection) (mode : Mode) (streamId : UInt64)
    (error : CallError) :
    (connection.reject mode streamId error).queue =
      connection.queue ++ connection.admitted
        (if mode = .fireAndForget then [] else [.ofError streamId error]) := by
  simp only [reject]
  split
  · simp
  · exact queue_post _ _

theorem queue_accept (connection : Connection) (mode : Mode) (streamId : UInt64)
    (message : Message) :
    (connection.accept mode streamId message).2.queue = connection.queue := by
  cases mode <;> rfl

theorem queue_receiveRequest (connection : Connection) (mode : Mode)
    (streamId : UInt64) (envelope : Envelope) (serves : connection.role = .server) :
    (connection.receiveRequest mode streamId envelope).2.queue =
      connection.queue ++
        connection.admitted (connection.answersTo (.request mode streamId envelope)) := by
  cases decodes : connection.codec.decode envelope with
  | error error =>
      simp only [receiveRequest, answersTo, refusal, decodes, serves]
      exact queue_reject _ _ _ _
  | ok message =>
      simp only [receiveRequest, answersTo, refusal, decodes, serves]
      by_cases named : message.qualifier = ""
      · simp only [named, if_true]
        exact queue_reject _ _ _ _
      · simp [named, queue_accept]

theorem queue_receiveNext (connection : Connection) (streamId : UInt64)
    (envelope : Envelope) :
    (connection.receiveNext streamId envelope).queue =
      connection.queue ++
        connection.admitted (connection.answersTo (.next streamId envelope)) := by
  cases decodes : connection.codec.decode envelope with
  | error error =>
      cases found : connection.sinks.find? streamId with
      | none => simp [receiveNext, answersTo, cancelFrames, decodes, found]
      | some sink =>
          simp [receiveNext, answersTo, cancelFrames, decodes, found, admitted]
  | ok message =>
      simp only [receiveNext, answersTo, decodes, admitted_nil, List.append_nil]
      cases connection.sinks.find? streamId with
      | none => rfl
      | some sink => cases sink <;> rfl

theorem queue_receiveGrant (connection : Connection) (streamId : UInt64)
    (count : UInt32) :
    (connection.receiveGrant streamId count).queue = connection.queue := by
  simp only [receiveGrant]
  repeat' split
  all_goals rfl

theorem queue_receive (connection : Connection) (frame : Frame) :
    (connection.receive frame).2.queue =
      connection.queue ++ connection.admitted (connection.sends (.receive frame)) := by
  cases reading : connection.reads with
  | false => simp [receive_stopped reading, sends, reading]
  | true =>
      simp only [sends, reading, if_true]
      cases frame with
      | request mode streamId envelope =>
          cases side : connection.role with
          | client => simp [receive_request_client reading side, answersTo, side]
          | server =>
              rw [receive_request_server reading side]
              exact queue_receiveRequest connection mode streamId envelope side
      | next streamId envelope =>
          rw [receive_next reading]
          exact queue_receiveNext connection streamId envelope
      | complete streamId => simp [receive_complete reading, answersTo, removeSink]
      | error streamId code text => simp [receive_error reading, answersTo]
      | cancel streamId =>
          cases side : connection.role with
          | client => simp [receive_cancel_client reading side, answersTo]
          | server => simp [receive_cancel_server reading side, answersTo, removeSink]
      | requestN streamId count =>
          simp [receive_requestN reading, answersTo, queue_receiveGrant]

/-- An action other than a write adds to the queue what it sends, and nothing else. -/
theorem queue_perform {connection : Connection} (wired : Wired connection)
    (action : Action) (stays : action ≠ .transmit) :
    (connection.perform action).2.queue =
      connection.queue ++ connection.admitted (connection.sends action) := by
  cases action with
  | fireAndForget message => exact queue_fireAndForget _ _
  | requestResponse message => exact queue_requestResponse wired message
  | requestStream message => exact queue_openStream wired .requestStream message
  | requestChannel first => exact queue_requestChannel wired first
  | pollReply number =>
      exact (queue_pollReply connection number).trans (by simp [sends])
  | dropReply number => exact queue_dropReply _ _
  | pullInbound number => exact queue_pullInbound _ _
  | dropInbound number => exact queue_dropInbound _ _
  | takeCredit number =>
      exact (queue_takeCredit connection number).trans (by simp [sends])
  | produce number signal => exact queue_produce _ _ _
  | respond number result => exact queue_respond _ _ _
  | receive frame => exact queue_receive _ _
  | transmit => exact (stays rfl).elim
  | close | endReader | endWriter =>
      exact (queue_close connection).trans (by simp [sends])

/-- The frames that a step has queued are those that its action sends. -/
theorem Step.posted_eq {step : Step} (wired : Wired step.before) :
    step.posted = step.before.admitted (step.before.sends step.action) := by
  have queued := queue_perform wired step.action
  simp only [Step.posted, Step.after]
  split
  · rename_i writes
    simp [writes, sends]
  · rename_i writes
    rw [queued writes, List.drop_left]

/-! ## Why a frame is queued -/

/-- How a signal of a source becomes a frame, and whether it is the last frame of the call. -/
inductive Framed (codec : MessageCodec) (streamId : UInt64) :
    Signal (Outcome Message) → Frame → Bool → Prop where
  /-- A message is sent. -/
  | message {message : Message} {envelope : Envelope}
      (encodes : codec.encode message = .ok envelope) :
      Framed codec streamId (.item (.ok message)) (.next streamId envelope) false
  /-- A message cannot be encoded. -/
  | unencodable {message : Message} {error : CallError}
      (fails : codec.encode message = .error error) :
      Framed codec streamId (.item (.ok message)) (.ofError streamId error) true
  /-- The source has failed. -/
  | failed (error : CallError) :
      Framed codec streamId (.item (.error error)) (.ofError streamId error) true
  /-- The source has ended. -/
  | ended : Framed codec streamId .ended (.complete streamId) true
  /-- The source has crashed. -/
  | crashed (cause : Option String) :
      Framed codec streamId (.crashed cause) (.ofError streamId (crashError cause)) true

theorem frameFor_eq_some_iff {codec : MessageCodec} {streamId : UInt64}
    {signal : Signal (Outcome Message)} {frame : Frame} {isLast : Bool} :
    frameFor codec streamId signal = some (frame, isLast) ↔
      Framed codec streamId signal frame isLast := by
  constructor
  · intro made
    rcases signal with (error | message) | _ | _ | cause
    · cases made
      exact .failed error
    · cases encodes : codec.encode message with
      | ok envelope =>
          rw [frameFor, encodes] at made
          cases made
          exact .message encodes
      | error error =>
          rw [frameFor, encodes] at made
          cases made
          exact .unencodable encodes
    · cases made
    · cases made
      exact .ended
    · cases made
      exact .crashed cause
  · intro framed
    cases framed with
    | message encodes => rw [frameFor, encodes]
    | unencodable fails => rw [frameFor, fails]
    | failed | ended | crashed => rfl

/-- The one response of a handler is sent like an item of a source. -/
theorem framed_responseFrame (codec : MessageCodec) (streamId : UInt64)
    (result : Outcome Message) :
    ∃ isLast, Framed codec streamId (.item result) (responseFrame codec streamId result) isLast := by
  rcases result with error | message
  · exact ⟨true, .failed error⟩
  · cases encodes : codec.encode message with
    | ok envelope =>
        refine ⟨false, ?_⟩
        simpa [responseFrame, Except.bind, encodes] using .message encodes
    | error error =>
        refine ⟨true, ?_⟩
        simpa [responseFrame, Except.bind, encodes] using .unencodable encodes

/-- Why an action queues a frame. -/
inductive Reason (connection : Connection) : Action → Frame → Prop where
  /-- It opens a call. -/
  | opening {action : Action} (mode : Mode) (envelope : Envelope)
      (opens : action.opensCall = true) :
      Reason connection action (.request mode connection.nextStreamId envelope)
  /-- The caller of a reply gives up. -/
  | reply {number : Nat} {reply : PendingReply}
      (present : connection.replies[number]? = some reply) :
      Reason connection (.dropReply number) (.cancel reply.streamId)
  /-- The consumer of a stream gives up. -/
  | stream {number : Nat} {stream : InboundStream}
      (present : connection.inbound[number]? = some stream) (waits : stream.isDone = false) :
      Reason connection (.dropInbound number) (.cancel stream.streamId)
  /-- The consumer of a stream has pulled enough. -/
  | grant {number : Nat} {stream : InboundStream} (count : UInt32)
      (present : connection.inbound[number]? = some stream) :
      Reason connection (.pullInbound number) (.requestN stream.streamId count)
  /-- A source gives a signal. -/
  | signal {number credits : Nat} {streamId : UInt64} {signal : Signal (Outcome Message)}
      {frame : Frame} {isLast : Bool}
      (present : connection.producers[number]? = some ⟨streamId, credits, .pulling⟩)
      (framed : Framed connection.codec streamId signal frame isLast) :
      Reason connection (.produce number signal) frame
  /-- The handler of a single request comes to its end. -/
  | response {number credits : Nat} {streamId : UInt64} {result : Outcome Message}
      {frame : Frame} {isLast : Bool}
      (present : connection.producers[number]? = some ⟨streamId, credits, .answering⟩)
      (framed : Framed connection.codec streamId (.item result) frame isLast) :
      Reason connection (.respond number result) frame
  /-- A request is refused. -/
  | refusal {mode : Mode} {streamId : UInt64} {envelope : Envelope} (error : CallError)
      (reading : connection.reads = true) (serves : connection.role = .server) :
      Reason connection (.receive (.request mode streamId envelope)) (.ofError streamId error)
  /-- A message of a call cannot be read. -/
  | unreadable {streamId : UInt64} {envelope : Envelope} {error : CallError}
      (reading : connection.reads = true)
      (fails : connection.codec.decode envelope = .error error)
      (fed : connection.sinks.find? streamId ≠ none) :
      Reason connection (.receive (.next streamId envelope)) (.cancel streamId)

section

variable {connection : Connection} {frame : Frame}

theorem mem_openingFrames {mode : Mode} {message : Message}
    (member : frame ∈ connection.openingFrames mode message) :
    ∃ envelope, frame = .request mode connection.nextStreamId envelope := by
  rw [openingFrames] at member
  split at member
  · exact ⟨_, List.mem_singleton.mp member⟩
  · cases member

theorem mem_cancelFrames {streamId : UInt64}
    (member : frame ∈ connection.cancelFrames streamId) :
    connection.sinks.find? streamId ≠ none ∧ frame = .cancel streamId := by
  rw [cancelFrames] at member
  split at member
  · cases member
  · rename_i found
    exact ⟨found, List.mem_singleton.mp member⟩

theorem reason_of_mem_answersTo {received : Frame} (reading : connection.reads = true)
    (member : frame ∈ connection.answersTo received) :
    Reason connection (.receive received) frame := by
  cases received with
  | request mode streamId envelope =>
      simp only [answersTo] at member
      split at member
      · rename_i serves _
        split at member
        · cases member
        · rw [List.mem_singleton] at member
          exact member ▸ .refusal _ reading serves
      · cases member
  | next streamId envelope =>
      simp only [answersTo] at member
      split at member
      · cases member
      · rename_i fails
        rcases mem_cancelFrames member with ⟨fed, rfl⟩
        exact .unreadable reading fails fed
  | _ => cases member

/-- Every frame that an action queues has its reason. -/
theorem reason_of_mem {action : Action} (member : frame ∈ connection.sends action) :
    Reason connection action frame := by
  have opening {action : Action} {mode : Mode} {message : Message}
      (opens : action.opensCall = true)
      (among : frame ∈ connection.openingFrames mode message) :
      Reason connection action frame := by
    rcases mem_openingFrames among with ⟨envelope, rfl⟩
    exact .opening mode envelope opens
  cases action with
  | fireAndForget message => exact opening rfl member
  | requestResponse message | requestStream message =>
      rw [sends] at member
      split at member
      · cases member
      · exact opening rfl member
  | requestChannel first =>
      rcases first with _ | _ | message
      · cases member
      · cases member
      · rw [sends] at member
        split at member
        · cases member
        · exact opening rfl member
  | dropReply number =>
      simp only [sends] at member
      split at member
      · rename_i present
        split at member
        · cases member
        · rw [(mem_cancelFrames member).2]
          exact .reply present
      · cases member
  | pullInbound number =>
      simp only [sends] at member
      split at member
      · rename_i present
        split at member
        · split at member
          · rw [List.mem_singleton] at member
            exact member ▸ .grant _ present
          · cases member
        · cases member
      · cases member
  | dropInbound number =>
      simp only [sends] at member
      split at member
      · rename_i present
        split at member
        · cases member
        · rename_i waits
          rw [(mem_cancelFrames member).2]
          exact .stream present (by simpa using waits)
      · cases member
  | produce number signal =>
      simp only [sends] at member
      split at member
      · rename_i present
        rw [Option.mem_toList, Option.map_eq_some_iff] at member
        rcases member with ⟨⟨made, isLast⟩, framed, rfl⟩
        exact .signal present (frameFor_eq_some_iff.mp framed)
      · cases member
  | respond number result =>
      simp only [sends] at member
      split at member
      · rename_i present
        rw [List.mem_singleton] at member
        rcases framed_responseFrame connection.codec _ result with ⟨isLast, framed⟩
        exact .response present (member ▸ framed)
      · cases member
  | receive received =>
      rw [sends] at member
      split at member
      · rename_i reading
        exact reason_of_mem_answersTo reading member
      · cases member
  | _ => cases member

end

end ServiceMesh.Connection
