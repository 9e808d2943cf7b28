import ServiceMesh.Proofs.Connection.Identity
import ServiceMesh.Proofs.Connection.Status

/-!
# The trace of a call

The trace of a stream id is what a client does by itself, together with the frames of that id that its
reader has taken.  The frames of other ids are not in it.

What arrives for a stream id is more than its trace, as a reader that was brought down takes nothing
more.  As long as no producer gets more credits than it can hold, the trace follows from what arrives
(`trace_eq_of_arriving`).

The outline of a client is what no frame can change: whether it is closed, and which ids its calls
have.  It follows from what the client does by itself, and so do the events of every call whose id
the trace is for: `streamEvents_eq_traced` and `replyEvents_eq_traced` read them off the trace.
-/

namespace ServiceMesh

namespace Connection

/-- Whether a step is in the trace of a stream id. -/
def Step.isTraced (streamId : UInt64) (step : Step) : Bool :=
  match step.action with
  | .receive frame => step.before.reads && frame.streamId = streamId
  | _ => true

/-- What a client does by itself, and the frames of a stream id that its reader has taken. -/
def trace (streamId : UInt64) (history : List Step) : List Action :=
  (history.filter (Step.isTraced streamId)).map Step.action

end Connection

/-- What frames cannot change of a client. -/
structure Outline where
  /-- Whether the connection has been closed. -/
  isClosed : Bool
  /-- The id of the next call. -/
  nextStreamId : UInt64
  /-- The stream ids of the replies. -/
  replies : List UInt64
  /-- The stream ids of the inbound streams, and whether they take responses. -/
  streams : List (UInt64 × Bool)

namespace Outline

open Connection (Action)

/-- The outline after a call has been opened. -/
def opened (outline : Outline) (replies : List UInt64) (streams : List (UInt64 × Bool)) :
    Outline :=
  { outline with
    nextStreamId := outline.nextStreamId + 2
    replies := outline.replies ++ replies
    streams := outline.streams ++ streams }

/-- The outline after an action. -/
def step (codec : MessageCodec) (outline : Outline) : Action → Outline
  | .fireAndForget message =>
    match codec.encode message with
    | .ok _ => outline.opened [] []
    | .error _ => outline
  | .requestResponse message =>
    match codec.encode message with
    | .ok _ => outline.opened [outline.nextStreamId] []
    | .error _ => outline
  | .requestStream message | .requestChannel (some (.ok message)) =>
    match codec.encode message with
    | .ok _ => outline.opened [] [(outline.nextStreamId, true)]
    | .error _ => outline
  | .close | .endReader | .endWriter => { outline with isClosed := true }
  | _ => outline

/-- What a frame that was taken brings to a call of a client. -/
def arrival : Frame → Option Arrival
  | .next _ envelope => some (.message envelope)
  | .complete _ => some .completed
  | .error _ code text => some (.failed code text)
  | _ => none

/-- What an action in the trace is for a call, its own calls apart. -/
def event (outline : Outline) : Action → Option CallEvent
  | .receive frame => (arrival frame).map .arrived
  | .close | .endReader | .endWriter =>
    if outline.isClosed then none else some (.arrived .closed)
  | _ => none

/-- What an action in the trace is for an inbound stream. -/
def streamEvent (number : Nat) (outline : Outline) (action : Action) : Option CallEvent :=
  if outline.streams.length ≤ number then none
  else match action with
    | .pullInbound pulled => if pulled = number then some .asked else none
    | .dropInbound dropped => if dropped = number then some .left else none
    | action => outline.event action

/-- What an action in the trace is for a reply. -/
def replyEvent (number : Nat) (outline : Outline) (action : Action) : Option CallEvent :=
  if outline.replies.length ≤ number then none
  else match action with
    | .pollReply polled => if polled = number then some .asked else none
    | .dropReply dropped => if dropped = number then some .left else none
    | action => outline.event action

/-- Whether an action hands an inbound stream to its consumer. -/
def hands (codec : MessageCodec) (number : Nat) (outline : Outline) : Action → Bool
  | .requestStream message | .requestChannel (some (.ok message)) =>
    !outline.isClosed && (codec.encode message).isOk && outline.streams.length = number
  | _ => false

/-- Whether an action hands a reply to its caller. -/
def handsReply (codec : MessageCodec) (number : Nat) (outline : Outline) : Action → Bool
  | .requestResponse message =>
    !outline.isClosed && (codec.encode message).isOk && outline.replies.length = number
  | _ => false

/-- The outlines on which the actions of a trace are taken. -/
def along (codec : MessageCodec) (outline : Outline) (actions : List Action) :
    List (Outline × Action) :=
  outputs (step codec) (fun outline action => [(outline, action)]) outline actions

end Outline

namespace Connection

/-- The outline of a connection. -/
def outline (connection : Connection) : Outline where
  isClosed := connection.isClosed
  nextStreamId := connection.nextStreamId
  replies := connection.replies.map PendingReply.streamId
  streams := connection.inbound.map (fun stream => (stream.streamId, stream.isRequester))

section

variable {connection : Connection}

theorem outline_of_narrows {action : Action} (wired : Wired connection)
    (settled : action.mayAdd = false) (calm : action.closes = false) :
    (connection.perform action).2.outline = connection.outline := by
  have narrows := narrows_perform connection settled
  have replies := map_eq_of_extends PendingReply.streamId narrows.replies
    narrows.replies_length
  have streams := map_eq_of_extends
    (fun stream : InboundStream => (stream.streamId, stream.isRequester))
    (fun number stream present => (narrows.inbound number stream present).imp
      fun later found => ⟨found.1, Prod.ext found.2.1 found.2.2⟩)
    narrows.inbound_length
  simp only [outline, narrows.nextStreamId, replies, streams, (calm_perform wired calm).2]

theorem outline_of_closes {action : Action} (closing : action.closes = true) :
    (connection.perform action).2.outline = { connection.outline with isClosed := true } := by
  have settled : action.mayAdd = false := by
    cases action <;> first | rfl | simp [Action.closes] at closing
  have narrows := narrows_perform connection settled
  have replies := map_eq_of_extends PendingReply.streamId narrows.replies
    narrows.replies_length
  have streams := map_eq_of_extends
    (fun stream : InboundStream => (stream.streamId, stream.isRequester))
    (fun number stream present => (narrows.inbound number stream present).imp
      fun later found => ⟨found.1, Prod.ext found.2.1 found.2.2⟩)
    narrows.inbound_length
  simp only [outline, narrows.nextStreamId, replies, streams, isClosed_of_closes closing]

theorem receive_request_of_client (calls : connection.role = .client) (mode : Mode)
    (streamId : UInt64) (envelope : Envelope) :
    connection.receive (.request mode streamId envelope) = (none, connection) := by
  cases reading : connection.reads with
  | false => exact receive_stopped reading _
  | true => exact receive_request_client reading calls _ _ _

theorem outline_openStream (wired : Wired connection) (mode : Mode) (message : Message) :
    (connection.openStream mode message).2.outline =
      match connection.codec.encode message with
      | .ok _ => connection.outline.opened [] [(connection.nextStreamId, true)]
      | .error _ => connection.outline := by
  rcases openStream_cases wired mode message with
    ⟨_, fails, equal⟩ | ⟨_, encodes, _, equal⟩ | ⟨_, encodes, _, equal⟩
  · rw [equal, fails]
  · simp [equal, encodes, outline, Outline.opened]
  · simp [equal, encodes, outline, Outline.opened]

/-- The outline of a client follows from what it does by itself. -/
theorem outline_perform (wired : Wired connection) (calls : connection.role = .client)
    (action : Action) :
    (connection.perform action).2.outline =
      connection.outline.step connection.codec action := by
  cases action with
  | fireAndForget message =>
      simp only [perform, fireAndForget, send_eq, Outline.step, Prod.map_snd, id]
      cases encodes : connection.codec.encode message with
      | error error => rfl
      | ok envelope =>
          dsimp only
          split <;>
            (rename_i sent; rw [Prod.mk.injEq] at sent; rw [← sent.2, post_eq]
             simp [outline, allocate, Outline.opened])
  | requestResponse message =>
      simp only [perform, Outline.step, Prod.map_snd, id]
      rcases requestResponse_cases wired message with
        ⟨_, fails, equal⟩ | ⟨_, encodes, _, equal⟩ | ⟨_, encodes, _, equal⟩
      · rw [equal, fails]
      · simp [equal, encodes, outline, Outline.opened]
      · simp [equal, encodes, outline, Outline.opened]
  | requestStream message => exact outline_openStream wired .requestStream message
  | requestChannel first =>
      rcases first with _ | _ | message
      · rfl
      · rfl
      · have opened := outline_openStream wired .requestChannel message
        refine Eq.trans ?_ opened
        rcases openStream_cases wired .requestChannel message with
          ⟨_, _, equal⟩ | ⟨_, _, _, equal⟩ | ⟨_, _, _, equal⟩
        · simp [perform, requestChannel_of_error equal, equal]
        · simp [perform, requestChannel_of_error equal, equal]
        · simp only [perform, requestChannel_of_ok equal, equal]
          rfl
  | receive frame =>
      cases frame with
      | request mode streamId envelope =>
          simp only [perform, receive_request_of_client calls]
          rfl
      | _ => exact outline_of_narrows wired rfl rfl
  | close | endReader | endWriter => exact outline_of_closes rfl
  | _ => exact outline_of_narrows wired rfl rfl

/-! ## Events are read off the trace -/

theorem arrival_of_client (calls : connection.role = .client) {streamId : UInt64}
    {frame : Frame} :
    connection.arrival streamId (.receive frame) =
      if connection.reads && frame.streamId = streamId then Outline.arrival frame else none := by
  cases reading : connection.reads <;> by_cases about : frame.streamId = streamId <;>
    cases frame <;> simp_all [arrival, Outline.arrival]

theorem streamEvent_traced (calls : connection.role = .client) {number : Nat}
    {streamId : UInt64}
    (carries : ∀ stream, connection.inbound[number]? = some stream →
      stream.streamId = streamId)
    (action : Action) :
    connection.streamEvent number action =
      if Step.isTraced streamId ⟨connection, action⟩ then
        connection.outline.streamEvent number action
      else none := by
  cases present : connection.inbound[number]? with
  | none =>
      have beyond : connection.outline.streams.length ≤ number := by
        simpa [outline] using List.getElem?_eq_none_iff.mp present
      simp [streamEvent, present, Outline.streamEvent, beyond]
  | some stream =>
      have within : ¬ connection.outline.streams.length ≤ number := by
        simpa [outline] using (List.getElem?_eq_some_iff.mp present).1
      have named := carries stream present
      cases action with
      | receive frame =>
          simp only [streamEvent, present, named, arrival_of_client calls, Step.isTraced,
            Outline.streamEvent, within, if_false, Outline.event]
          split <;> rfl
      | close | endReader | endWriter =>
          have same : connection.outline.isClosed = connection.isClosed := rfl
          cases running : connection.isClosed <;>
            simp [streamEvent, present, arrival, Step.isTraced, Outline.streamEvent, within,
              Outline.event, same, running]
      | _ => simp [streamEvent, present, arrival, Step.isTraced, Outline.streamEvent, within,
          Outline.event]

theorem replyEvent_traced (calls : connection.role = .client) {number : Nat}
    {streamId : UInt64}
    (carries : ∀ reply, connection.replies[number]? = some reply →
      reply.streamId = streamId)
    (action : Action) :
    connection.replyEvent number action =
      if Step.isTraced streamId ⟨connection, action⟩ then
        connection.outline.replyEvent number action
      else none := by
  cases present : connection.replies[number]? with
  | none =>
      have beyond : connection.outline.replies.length ≤ number := by
        simpa [outline] using List.getElem?_eq_none_iff.mp present
      simp [replyEvent, present, Outline.replyEvent, beyond]
  | some reply =>
      have within : ¬ connection.outline.replies.length ≤ number := by
        simpa [outline] using (List.getElem?_eq_some_iff.mp present).1
      have named := carries reply present
      cases action with
      | receive frame =>
          simp only [replyEvent, present, named, arrival_of_client calls, Step.isTraced,
            Outline.replyEvent, within, if_false, Outline.event]
          split <;> rfl
      | close | endReader | endWriter =>
          have same : connection.outline.isClosed = connection.isClosed := rfl
          cases running : connection.isClosed <;>
            simp [replyEvent, present, arrival, Step.isTraced, Outline.replyEvent, within,
              Outline.event, same, running]
      | _ => simp [replyEvent, present, arrival, Step.isTraced, Outline.replyEvent, within,
          Outline.event]

theorem openStream_outcome (wired : Wired connection) (mode : Mode) (message : Message)
    (number : Nat) :
    (match (connection.openStream mode message).1 with
      | .ok (_, opened) => decide (opened = number)
      | .error _ => false) =
      (!connection.isClosed && (connection.codec.encode message).isOk &&
        decide (connection.inbound.length = number)) := by
  rcases openStream_cases wired mode message with
    ⟨_, fails, equal⟩ | ⟨_, _, closed, equal⟩ | ⟨_, encodes, running, equal⟩
  · simp [equal, fails, Except.isOk, Except.toBool]
  · simp [equal, closed]
  · simp [equal, encodes, running, Except.isOk, Except.toBool]

theorem hands_traced (wired : Wired connection) (calls : connection.role = .client)
    (number : Nat) (action : Action) :
    Step.hands number ⟨connection, action⟩ =
      connection.outline.hands connection.codec number action := by
  cases action with
  | requestStream message =>
      refine Eq.trans ?_ ((openStream_outcome wired .requestStream message number).trans
        (by simp [Outline.hands, outline]))
      simp only [Step.hands, Step.observation, perform, requestStream]
      cases (connection.openStream .requestStream message).1 <;> rfl
  | requestChannel first =>
      rcases first with _ | _ | message
      · rfl
      · rfl
      · refine Eq.trans ?_ ((openStream_outcome wired .requestChannel message number).trans
          (by simp [Outline.hands, outline]))
        rcases openStream_cases wired .requestChannel message with
          ⟨_, _, equal⟩ | ⟨_, _, _, equal⟩ | ⟨_, _, _, equal⟩
        · simp [Step.hands, Step.observation, perform, requestChannel_of_error equal, equal]
        · simp [Step.hands, Step.observation, perform, requestChannel_of_error equal, equal]
        · simp [Step.hands, Step.observation, perform, requestChannel_of_ok equal, equal]
  | receive frame =>
      cases frame with
      | request mode streamId envelope =>
          simp [Step.hands, Step.observation, perform, receive_request_of_client calls,
            Outline.hands]
      | _ => exact hands_of_settled rfl number
  | _ => rfl

theorem handsReply_traced (wired : Wired connection) (number : Nat) (action : Action) :
    Step.handsReply number ⟨connection, action⟩ =
      connection.outline.handsReply connection.codec number action := by
  cases action with
  | requestResponse message =>
      simp only [Step.handsReply, Step.observation, perform, Outline.handsReply, outline]
      rcases requestResponse_cases wired message with
        ⟨_, fails, equal⟩ | ⟨_, _, closed, equal⟩ | ⟨_, encodes, running, equal⟩
      · simp [equal, fails, Except.isOk, Except.toBool]
      · simp [equal, closed]
      · simp [equal, encodes, running, Except.isOk, Except.toBool]
  | _ => rfl

end

/-! ## The trace of a run -/

section

variable {start : Connection}

theorem trace_concat (streamId : UInt64) (history : List Step) (step : Step) :
    trace streamId (history ++ [step]) =
      trace streamId history ++
        if step.isTraced streamId then [step.action] else [] := by
  cases traced : step.isTraced streamId <;> simp [trace, traced]

/-- The outline after a run is what the trace makes of the first one. -/
theorem along_trace (wired : Wired start) (calls : start.role = .client)
    (streamId : UInt64) (actions : List Action) :
    (trace streamId (start.history actions)).foldl (Outline.step start.codec) start.outline =
        (start.after actions).outline ∧
      start.outline.along start.codec (trace streamId (start.history actions)) =
        ((start.history actions).filter (Step.isTraced streamId)).map
          (fun step => (step.before.outline, step.action)) := by
  induction actions using List.reverseRecOn with
  | nil => exact ⟨rfl, rfl⟩
  | append_singleton actions action induction =>
      rcases induction with ⟨outlines, along⟩
      have wiredNow := wired_after wired actions
      have grown := extends_after wired actions
      have stepped := outline_perform wiredNow (grown.role.trans calls) action
      rw [grown.codec] at stepped
      rw [history_concat, after_concat, trace_concat, stepped, List.filter_append,
        List.map_append]
      cases traced : Step.isTraced streamId ⟨start.after actions, action⟩ with
      | true =>
          rw [if_pos rfl, List.foldl_append, outlines, Outline.along, outputs_concat, outlines]
          refine ⟨rfl, ?_⟩
          rw [List.filter_cons_of_pos traced]
          exact congrArg (· ++ _) along
      | false =>
          rw [if_neg (by decide), List.append_nil, outlines, along,
            List.filter_cons_of_neg (by simp [traced])]
          refine ⟨?_, (List.append_nil _).symm⟩
          cases action with
          | receive frame => rfl
          | _ => simp [Step.isTraced] at traced

theorem filterMap_filter_map {α β γ : Type} {items : List α} {keeps : α → Bool}
    {name : α → β} {reads : α → Option γ} {readsName : β → Option γ}
    (same : ∀ item ∈ items, reads item = if keeps item then readsName (name item) else none) :
    items.filterMap reads = ((items.filter keeps).map name).filterMap readsName := by
  induction items with
  | nil => rfl
  | cons item items induction =>
      have rest := induction fun other member => same other (List.mem_cons_of_mem _ member)
      have here := same item List.mem_cons_self
      cases kept : keeps item with
      | true =>
          rw [kept, if_pos rfl] at here
          rw [List.filter_cons_of_pos kept, List.map_cons, List.filterMap_cons,
            List.filterMap_cons, here, rest]
      | false =>
          rw [kept, if_neg (by decide)] at here
          rw [List.filter_cons_of_neg (by simp [kept]), List.filterMap_cons_none here, rest]

theorem streamEvents_eq_traced (wired : Wired start) (calls : start.role = .client)
    {actions : List Action} {number : Nat} (streamId : UInt64)
    (carries : ∀ stream, (start.after actions).inbound[number]? = some stream →
      stream.streamId = streamId) :
    streamEvents number (start.history actions) =
      (start.outline.along start.codec (trace streamId (start.history actions))).filterMap
        (fun place => place.1.streamEvent number place.2) := by
  rw [(along_trace wired calls streamId actions).2]
  refine filterMap_filter_map fun step member => ?_
  rcases wired_of_mem_history wired member with ⟨wiredThere, fromStart, toEnd⟩
  refine streamEvent_traced (fromStart.role.trans calls) ?_ step.action
  intro stream present
  have grown := (extends_perform wiredThere step.action).1.trans toEnd
  rcases grown.inbound number stream present with ⟨last, atLast, same, _⟩
  exact same.symm.trans (carries last atLast)

theorem replyEvents_eq_traced (wired : Wired start) (calls : start.role = .client)
    {actions : List Action} {number : Nat} (streamId : UInt64)
    (carries : ∀ reply, (start.after actions).replies[number]? = some reply →
      reply.streamId = streamId) :
    replyEvents number (start.history actions) =
      (start.outline.along start.codec (trace streamId (start.history actions))).filterMap
        (fun place => place.1.replyEvent number place.2) := by
  rw [(along_trace wired calls streamId actions).2]
  refine filterMap_filter_map fun step member => ?_
  rcases wired_of_mem_history wired member with ⟨wiredThere, fromStart, toEnd⟩
  refine replyEvent_traced (fromStart.role.trans calls) ?_ step.action
  intro reply present
  have grown := (extends_perform wiredThere step.action).1.trans toEnd
  rcases grown.replies number reply present with ⟨last, atLast, same⟩
  exact same.symm.trans (carries last atLast)

theorem any_filter_map {α β : Type} {items : List α} {keeps : α → Bool} {name : α → β}
    {test : α → Bool} {testName : β → Bool}
    (same : ∀ item ∈ items, test item = testName (name item))
    (dropped : ∀ item ∈ items, keeps item = false → test item = false) :
    items.any test = ((items.filter keeps).map name).any testName := by
  induction items with
  | nil => rfl
  | cons item items induction =>
      have rest := induction (fun other member => same other (List.mem_cons_of_mem _ member))
        fun other member => dropped other (List.mem_cons_of_mem _ member)
      have here := same item List.mem_cons_self
      cases kept : keeps item with
      | true => simp [kept, rest, here]
      | false => simp [kept, rest, dropped item List.mem_cons_self kept]

theorem handed_eq_traced (wired : Wired start) (calls : start.role = .client)
    (actions : List Action) (number : Nat) (streamId : UInt64) :
    handed number (start.history actions) =
      (start.outline.along start.codec (trace streamId (start.history actions))).any
        (fun place => place.1.hands start.codec number place.2) := by
  rw [(along_trace wired calls streamId actions).2]
  refine any_filter_map (fun step member => ?_) (fun step member untraced => ?_)
  all_goals
    rcases wired_of_mem_history wired member with ⟨wiredThere, fromStart, _⟩
    have traced := hands_traced wiredThere (fromStart.role.trans calls) number step.action
    rw [fromStart.codec] at traced
  · exact traced
  · refine traced.trans ?_
    cases action : step.action with
    | receive frame => rfl
    | _ => simp [Step.isTraced, action] at untraced

theorem handedReply_eq_traced (wired : Wired start) (calls : start.role = .client)
    (actions : List Action) (number : Nat) (streamId : UInt64) :
    handedReply number (start.history actions) =
      (start.outline.along start.codec (trace streamId (start.history actions))).any
        (fun place => place.1.handsReply start.codec number place.2) := by
  rw [(along_trace wired calls streamId actions).2]
  refine any_filter_map (fun step member => ?_) (fun step member untraced => ?_)
  all_goals
    rcases wired_of_mem_history wired member with ⟨wiredThere, fromStart, _⟩
    have traced := handsReply_traced wiredThere number step.action
    rw [fromStart.codec] at traced
  · exact traced
  · refine traced.trans ?_
    cases action : step.action with
    | receive frame => rfl
    | _ => simp [Step.isTraced, action] at untraced

end

/-! ## What arrives -/

/-- Whether an action concerns a stream id: the client does it by itself, or it brings a frame of the
id. -/
def Action.concerns (streamId : UInt64) : Action → Bool
  | .receive frame => frame.streamId = streamId
  | _ => true

/-- What a client does by itself, and the frames of a stream id that arrive, whether or not the reader
takes them. -/
def arriving (streamId : UInt64) (actions : List Action) : List Action :=
  actions.filter (Action.concerns streamId)

/-- At some moment of a run a producer has more credits than it can hold. -/
def Flooded (start : Connection) (actions : List Action) : Prop :=
  ∃ earlier, earlier <+: actions ∧ (start.after earlier).overflows

/-- Whether a reader still runs after an action, if nobody floods a producer. -/
def readsOn (reads : Bool) (action : Action) : Bool := reads && !action.endsReader

/-- What a reader that does or does not run makes of an action. -/
def heeds (reads : Bool) : Action → List Action
  | .receive frame => if reads then [.receive frame] else []
  | action => [action]

/-- What a reader makes of some actions, up to its end. -/
def heeding (reads : Bool) (actions : List Action) : List Action :=
  outputs readsOn heeds reads actions

theorem Flooded.later {start : Connection} {actions : List Action}
    (flooded : Flooded start actions) (action : Action) : Flooded start (actions ++ [action]) := by
  rcases flooded with ⟨earlier, early, exceeded⟩
  exact ⟨earlier, early.trans (List.prefix_append _ _), exceeded⟩

section

variable {streamId : UInt64} {action : Action}

/-- Of an action that concerns a stream id, the trace has what the reader makes of it. -/
theorem traced_eq_heeds (before : Connection) (concerned : action.concerns streamId = true) :
    (if Step.isTraced streamId ⟨before, action⟩ then [action] else []) =
      heeds before.reads action := by
  cases action with
  | receive frame =>
      have about : frame.streamId = streamId := of_decide_eq_true concerned
      simp [Step.isTraced, heeds, about]
  | _ => rfl

/-- What does not concern a stream id is a frame, which is not in the trace and ends no reader. -/
theorem untraced_of_apart (before : Connection) (apart : action.concerns streamId = false) :
    Step.isTraced streamId ⟨before, action⟩ = false ∧ action.endsReader = false := by
  cases action with
  | receive frame =>
      have other : frame.streamId ≠ streamId := of_decide_eq_false apart
      simp [Step.isTraced, other, Action.endsReader]
  | _ => cases apart

end

section

variable {start : Connection}

/-- In a run without a flood, the trace is what arrives up to the end of the reader. -/
theorem trace_eq_heeding (wired : Wired start) {actions : List Action}
    (calm : ¬ Flooded start actions) (streamId : UInt64) :
    (arriving streamId actions).foldl readsOn start.reads = (start.after actions).reads ∧
      trace streamId (start.history actions) =
        heeding start.reads (arriving streamId actions) := by
  induction actions using List.reverseRecOn with
  | nil => exact ⟨rfl, rfl⟩
  | append_singleton actions action induction =>
      rcases induction fun flooded => calm (flooded.later action) with ⟨runs, traces⟩
      have quiet : ¬ ((start.after actions).perform action).2.overflows := by
        rw [← after_concat]
        exact fun exceeded => calm ⟨_, List.prefix_rfl, exceeded⟩
      have reads := reads_of_calm (wired_after wired actions) quiet
      rw [after_concat, history_concat, trace_concat, traces, reads]
      cases concerned : action.concerns streamId with
      | true =>
          have whole : arriving streamId (actions ++ [action]) =
              arriving streamId actions ++ [action] := by
            simp [arriving, concerned]
          rw [whole, List.foldl_append, heeding, heeding, outputs_concat, runs,
            traced_eq_heeds _ concerned]
          exact ⟨rfl, rfl⟩
      | false =>
          have whole : arriving streamId (actions ++ [action]) = arriving streamId actions := by
            simp [arriving, concerned]
          rcases untraced_of_apart (start.after actions) concerned with ⟨untraced, goesOn⟩
          rw [whole, runs, untraced, goesOn, if_neg (by decide), List.append_nil]
          exact ⟨(Bool.and_true _).symm, rfl⟩

/-- If nobody floods a producer, then runs in which the same arrives have the same trace. -/
theorem trace_eq_of_arriving (wired : Wired start) {first second : List Action}
    (calm : ¬ Flooded start first) (also : ¬ Flooded start second) {streamId : UInt64}
    (same : arriving streamId first = arriving streamId second) :
    trace streamId (start.history first) = trace streamId (start.history second) := by
  rw [(trace_eq_heeding wired calm streamId).2, (trace_eq_heeding wired also streamId).2, same]

end

end Connection

end ServiceMesh
