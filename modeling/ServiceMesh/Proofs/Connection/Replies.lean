import ServiceMesh.Proofs.Connection.Delivery

/-!
# A reply by itself

As long as its stream id belongs to no other call, a reply is a small machine of its own, like an
inbound stream.  The first arrival of the call fixes its result (`Connection.answer`), and its caller
gets that result at most once (`ReplyPart.shown_append_outlook`).

`replyLaw_after` carries this over to the runs of a connection.
-/

namespace ServiceMesh

/-- A reply, and whether what arrives still reaches it. -/
structure ReplyPart where
  /-- The reply. -/
  reply : PendingReply
  /-- Whether the sink of the call leads to the reply. -/
  isFed : Bool

namespace Connection

/-- What the first arrival of a call makes of its reply. -/
def answer (connection : Connection) : Arrival → Outcome Message
  | .message envelope => connection.codec.decode envelope
  | .completed | .cancelled => .error connection.noReplyError
  | .failed code text => .error (.remote code text)
  | .closed => .error connection.closedError

end Connection

namespace ReplyPart

/-- The reply that nothing reaches any more. -/
def cut (part : ReplyPart) : ReplyPart := { part with isFed := false }

/-- The reply with a result. -/
def settle (part : ReplyPart) (result : Outcome Message) : ReplyPart :=
  { part with reply := { part.reply with result := some result } }

/-- The reply whose caller waits no more. -/
def finish (part : ReplyPart) : ReplyPart :=
  { part with reply := { part.reply with isFinished := true } }

/-- The reply after an arrival that reaches it. -/
def take (connection : Connection) (part : ReplyPart) : Arrival → ReplyPart
  | .message envelope => (part.settle (connection.codec.decode envelope)).cut
  | .completed | .cancelled => part.cut
  | .failed code text => (part.settle (.error (.remote code text))).cut
  | .closed => (part.settle (.error connection.closedError)).cut

/-- The reply after an event. -/
def step (connection : Connection) (part : ReplyPart) : CallEvent → ReplyPart
  | .arrived arrival => if part.isFed then part.take connection arrival else part
  | .asked =>
    if part.reply.isFinished then part
    else match part.reply.result with
      | some _ => part.finish
      | none => if part.isFed then part else part.finish
  | .left => if part.reply.isFinished then part else part.finish.cut

/-- The reply after an event, if there is one. -/
def advance (connection : Connection) (part : ReplyPart) : Option CallEvent → ReplyPart
  | none => part
  | some event => part.step connection event

/-- What the caller gets at an event. -/
def shows (connection : Connection) (part : ReplyPart) :
    CallEvent → Option (Outcome Message)
  | .asked =>
    if part.reply.isFinished then none
    else match part.reply.result with
      | some result => some result
      | none => if part.isFed then none else some (.error connection.noReplyError)
  | _ => none

/-- The reply after some events. -/
def run (connection : Connection) (part : ReplyPart) (events : List CallEvent) : ReplyPart :=
  events.foldl (step connection) part

/-- What the caller gets during some events. -/
def shown (connection : Connection) (part : ReplyPart) (events : List CallEvent) :
    List (Outcome Message) :=
  outputs (step connection) (fun part event => (part.shows connection event).toList) part events

/-- What the caller is still to get, with the arrivals that are to come. -/
def outlook (connection : Connection) (part : ReplyPart) (arrivals : List Arrival) :
    List (Outcome Message) :=
  if part.reply.isFinished then []
  else match part.reply.result with
    | some result => [result]
    | none =>
      if part.isFed then (arrivals.head?.map connection.answer).toList
      else [.error connection.noReplyError]

/-- A reply that is fed has no result, and its caller waits for it. -/
def Sound (part : ReplyPart) : Prop :=
  part.isFed = true → part.reply.isFinished = false ∧ part.reply.result = none

variable {connection : Connection}

theorem Sound.step {part : ReplyPart} (sound : part.Sound) (event : CallEvent) :
    (part.step connection event).Sound := by
  rcases part with ⟨⟨streamId, result, isFinished⟩, isFed⟩
  cases isFed with
  | false =>
      intro fed
      cases event with
      | arrived arrival => simp [ReplyPart.step] at fed
      | asked =>
          simp only [ReplyPart.step] at fed
          split at fed
          · simp at fed
          · split at fed <;> simp [finish] at fed
      | left =>
          simp only [ReplyPart.step] at fed
          split at fed <;> simp [finish, cut] at fed
  | true =>
      rcases sound rfl with ⟨waits, empty⟩
      simp only at waits empty
      subst waits empty
      cases event with
      | arrived arrival => cases arrival <;> simp [Sound, ReplyPart.step, take, cut]
      | asked => exact fun _ => ⟨rfl, rfl⟩
      | left => simp [Sound, ReplyPart.step, finish, cut]

/-- The first arrival is the answer, and later ones change nothing. -/
theorem outlook_arrived {part : ReplyPart} (sound : part.Sound) (arrival : Arrival)
    (later : List Arrival) :
    (part.step connection (.arrived arrival)).outlook connection later =
      part.outlook connection (arrival :: later) := by
  rcases part with ⟨⟨streamId, result, isFinished⟩, isFed⟩
  cases isFed with
  | false => rfl
  | true =>
      rcases sound rfl with ⟨waits, empty⟩
      simp only at waits empty
      subst waits empty
      cases arrival <;> simp [step, take, settle, cut, outlook, Connection.answer]

theorem outlook_asked (part : ReplyPart) (later : List Arrival) :
    (part.shows connection .asked).toList ++
        (part.step connection .asked).outlook connection later =
      part.outlook connection later := by
  rcases part with ⟨⟨streamId, result, isFinished⟩, isFed⟩
  cases isFinished <;> cases result <;> cases isFed <;> simp [shows, step, finish, outlook]

theorem outlook_left (part : ReplyPart) (later : List Arrival) :
    (part.step connection .left).outlook connection later = [] := by
  simp only [step]
  split
  · rename_i finished
    simp [outlook, finished]
  · simp [outlook, finish, cut]

theorem outlook_step {part : ReplyPart} (sound : part.Sound) (event : CallEvent)
    (later : List Arrival) (stays : event ≠ .left) :
    (part.shows connection event).toList ++
        (part.step connection event).outlook connection later =
      part.outlook connection (event.arrival?.toList ++ later) := by
  cases event with
  | arrived arrival => exact outlook_arrived sound arrival later
  | asked => exact outlook_asked part later
  | left => exact (stays rfl).elim

/-- What the caller has got and is still to get is the answer that the first arrival gives. -/
theorem shown_append_outlook (connection : Connection) {events : List CallEvent} (stays : .left ∉ events)
    {part : ReplyPart} (sound : part.Sound) (later : List Arrival) :
    part.shown connection events ++ (part.run connection events).outlook connection later =
      part.outlook connection (arrivals events ++ later) :=
  outputs_append_outlook Sound (fun _ event sound => sound.step event)
    (fun _ event later sound stays => outlook_step sound event later stays) sound stays later

/-- What the caller has got is the answer of the first arrival, also if it gives up. -/
theorem shown_prefix_outlook (connection : Connection) (events : List CallEvent)
    {part : ReplyPart}
    (sound : part.Sound) :
    part.shown connection events <+: part.outlook connection (arrivals events) :=
  outputs_prefix_outlook Sound (fun _ event sound => sound.step event)
    (fun _ event later sound stays => outlook_step sound event later stays)
    (fun part later _ => ⟨rfl, outlook_left part later⟩) sound events

end ReplyPart

namespace Connection

/-- A reply of a connection by itself. -/
def replyPart (connection : Connection) (number : Nat) : Option ReplyPart :=
  (connection.replies[number]?).map (fun reply =>
    ⟨reply, connection.sinks.find? reply.streamId = some (.reply number)⟩)

/-- What an action is for a reply. -/
def replyEvent (connection : Connection) (number : Nat) (action : Action) :
    Option CallEvent :=
  match connection.replies[number]? with
  | none => none
  | some reply =>
    match action with
    | .pollReply polled => if polled = number then some .asked else none
    | .dropReply dropped => if dropped = number then some .left else none
    | action => (connection.arrival reply.streamId action).map .arrived

/-- No other reply, and no inbound stream, has the stream id of a reply. -/
structure SoleReply (connection : Connection) (number : Nat) (streamId : UInt64) :
    Prop where
  replies : ∀ (other : Nat) reply, connection.replies[other]? = some reply →
    reply.streamId = streamId → other = number
  streams : ∀ (other : Nat) stream, connection.inbound[other]? = some stream →
    stream.streamId ≠ streamId

theorem SoleReply.earlier {first second : Connection} {number : Nat} {streamId : UInt64}
    (sole : SoleReply second number streamId) (grown : Extends first second) :
    SoleReply first number streamId where
  replies other reply present carries := by
    rcases grown.replies other reply present with ⟨later, atLater, same⟩
    exact sole.replies other later atLater (same.trans carries)
  streams other stream present carries := by
    rcases grown.inbound other stream present with ⟨later, atLater, same, _⟩
    exact sole.streams other later atLater (same.trans carries)

theorem replyPart_eq_some {connection : Connection} {number : Nat} {part : ReplyPart} :
    connection.replyPart number = some part ↔
      connection.replies[number]? = some part.reply ∧
        part.isFed =
          decide (connection.sinks.find? part.reply.streamId = some (.reply number)) := by
  rw [replyPart, Option.map_eq_some_iff]
  constructor
  · rintro ⟨reply, present, rfl⟩
    exact ⟨present, rfl⟩
  · rintro ⟨present, fed⟩
    exact ⟨part.reply, present, by rw [← fed]⟩

theorem replyPart_eq_none {connection : Connection} {number : Nat} :
    connection.replyPart number = none ↔ connection.replies.length ≤ number := by
  rw [replyPart, Option.map_eq_none_iff, List.getElem?_eq_none_iff]

theorem replyPart_keeps {first second : Connection} {number : Nat} {part : ReplyPart}
    (present : first.replyPart number = some part)
    (keeps : KeepsInbox part.reply.streamId first second) :
    second.replyPart number = some part := by
  rw [replyPart_eq_some] at present ⊢
  exact ⟨keeps.replies number _ present.1 rfl, by rw [keeps.sink, present.2]⟩

theorem replyPart_congr {first second : Connection} (same : second.inbox = first.inbox)
    (number : Nat) :
    second.replyPart number = first.replyPart number := by
  simp only [inbox, Prod.mk.injEq] at same
  rw [replyPart, replyPart, same.1, same.2.1]

section

variable {connection : Connection} {number : Nat} {part : ReplyPart}

/-- The sink of a call that has no one else leads to its reply, or is not there. -/
theorem SoleReply.sink (sole : SoleReply connection number part.reply.streamId)
    (wired : Wired connection) (present : connection.replyPart number = some part) :
    connection.sinks.find? part.reply.streamId =
      if part.isFed then some (.reply number) else none := by
  have fed := (replyPart_eq_some.mp present).2
  cases found : connection.sinks.find? part.reply.streamId with
  | none => simp [fed, found]
  | some sink =>
      cases sink with
      | stream other =>
          rcases wired.stream _ _ found with ⟨stream, atOther, carries⟩
          exact (sole.streams other stream atOther carries).elim
      | reply other =>
          rcases wired.reply _ _ found with ⟨reply, atOther, carries⟩
          have same := sole.replies other reply atOther carries
          subst same
          simp [fed, found]

/-- Nothing opens under the stream id of a reply that has no other beside it. -/
theorem SoleReply.inbox {action : Action} {streamId : UInt64} {reply : PendingReply}
    (sole : SoleReply (connection.perform action).2 number streamId)
    (wired : Wired connection)
    (present : connection.replies[number]? = some reply)
    (concerned : ConcernsInbox connection streamId action)
    (adds : action.mayAdd = true) :
    (connection.perform action).2.inbox = connection.inbox := by
  rcases inbox_perform wired action with nothing | ⟨_, _, opened⟩ | ⟨_, _, _, stream⟩
  · exact nothing.inbox adds
  · have same := opened.origin.eq_of_concerned concerned
    have before := (List.getElem?_eq_some_iff.mp present).1
    have last := sole.replies connection.replies.length _ (by simp [opened.replies]; rfl) same
    omega
  · have same := stream.origin.eq_of_concerned concerned
    exact (sole.streams connection.inbound.length _ (by simp [stream.inbound]; rfl) same).elim

/-! ## What an operation does to the reply it is about -/

theorem replyPart_updateReply (present : connection.replyPart number = some part)
    (change : PendingReply → PendingReply)
    (same : (change part.reply).streamId = part.reply.streamId) :
    (connection.updateReply number change).replyPart number =
      some { part with reply := change part.reply } := by
  rw [replyPart_eq_some] at present ⊢
  exact ⟨by simp [updateReply, present.1], by simp only [same, present.2]; rfl⟩

theorem replyPart_removeSink (present : connection.replyPart number = some part) :
    (connection.removeSink part.reply.streamId).replyPart number = some part.cut := by
  rw [replyPart_eq_some] at present ⊢
  exact ⟨present.1, by simp [ReplyPart.cut, removeSink]⟩

theorem replyPart_failSink (wired : Wired connection)
    (present : connection.replyPart number = some part)
    (sole : SoleReply connection number part.reply.streamId) (error : CallError) :
    (connection.failSink part.reply.streamId error).replyPart number =
      some (if part.isFed then (part.settle (.error error)).cut else part) := by
  have sink := sole.sink wired present
  cases fed : part.isFed with
  | false =>
      rw [fed, if_neg (by decide)] at sink
      rw [failSink_of_none sink, present, if_neg (by decide)]
  | true =>
      rw [fed, if_pos rfl] at sink
      rw [failSink_of_some sink, if_pos rfl]
      exact replyPart_updateReply (replyPart_removeSink present) _ rfl

theorem replyPart_pollReply (present : connection.replyPart number = some part) :
    (connection.pollReply number).2.replyPart number =
      some (part.step connection .asked) := by
  rcases replyPart_eq_some.mp present with ⟨atNumber, fed⟩
  rcases part with ⟨⟨streamId, result, isFinished⟩, isFed⟩
  cases isFinished with
  | true => simpa [pollReply, atNumber, ReplyPart.step] using present
  | false =>
      have finished := replyPart_updateReply present
        (fun reply => { reply with isFinished := true }) rfl
      cases result with
      | some result =>
          simpa [pollReply, atNumber, ReplyPart.step, ReplyPart.finish] using finished
      | none =>
          cases isFed with
          | true =>
              rw [eq_comm, decide_eq_true_iff] at fed
              simpa [pollReply, atNumber, fed, ReplyPart.step] using present
          | false =>
              rw [eq_comm, decide_eq_false_iff_not] at fed
              simpa [pollReply, atNumber, fed, ReplyPart.step, ReplyPart.finish] using finished

theorem replyPart_dropReply (present : connection.replyPart number = some part) :
    (connection.dropReply number).replyPart number = some (part.step connection .left) := by
  rcases replyPart_eq_some.mp present with ⟨atNumber, _⟩
  cases finished : part.reply.isFinished with
  | true => simpa [dropReply, atNumber, finished, ReplyPart.step] using present
  | false =>
      have cancelled : (connection.cancelSink part.reply.streamId).replyPart number =
          some part.cut := by
        rw [cancelSink_eq]
        rw [← replyPart_removeSink present]
        exact replyPart_congr rfl number
      have dropped := replyPart_updateReply cancelled
        (fun reply => { reply with isFinished := true }) rfl
      simp only [dropReply, atNumber, finished, ReplyPart.step, Bool.false_eq_true, if_false]
      exact dropped

theorem replyPart_receiveNext (wired : Wired connection)
    (present : connection.replyPart number = some part)
    (sole : SoleReply connection number part.reply.streamId) (envelope : Envelope) :
    (connection.receiveNext part.reply.streamId envelope).replyPart number =
      some (part.step connection (.arrived (.message envelope))) := by
  have sink := sole.sink wired present
  have failed := fun error => replyPart_failSink wired present sole error
  cases fed : part.isFed with
  | false =>
      rw [fed, if_neg (by decide)] at sink
      cases decodes : connection.codec.decode envelope <;>
        simpa [receiveNext, sink, decodes, ReplyPart.step, fed] using present
  | true =>
      simp only [fed, if_true] at sink failed
      cases decodes : connection.codec.decode envelope with
      | error error =>
          simp only [receiveNext, sink, decodes, ReplyPart.step, ReplyPart.take, fed]
          exact (replyPart_congr (inbox_post _ _) number).trans (failed error)
      | ok message =>
          simp only [receiveNext, sink, decodes, ReplyPart.step, ReplyPart.take, fed]
          exact replyPart_updateReply (replyPart_removeSink present) _ rfl

theorem replyPart_receive (wired : Wired connection)
    (present : connection.replyPart number = some part) {frame : Frame}
    (about : frame.streamId = part.reply.streamId)
    (settled : (Action.receive frame).mayAdd = false)
    (sole : SoleReply connection number part.reply.streamId) :
    (connection.receive frame).2.replyPart number =
      some (part.advance connection (connection.replyEvent number (.receive frame))) := by
  have atNumber := (replyPart_eq_some.mp present).1
  cases reading : connection.reads with
  | false =>
      rw [receive_stopped reading, present]
      simp [replyEvent, atNumber, arrival, reading, ReplyPart.advance]
  | true =>
      have event : connection.replyEvent number (.receive frame) =
          (connection.arrival part.reply.streamId (.receive frame)).map .arrived := by
        simp [replyEvent, atNumber]
      rw [event]
      simp only [arrival, reading, about, and_self, if_true]
      cases frame with
      | request mode streamId envelope => simp [Action.mayAdd] at settled
      | next streamId envelope =>
          rw [Frame.streamId] at about
          subst about
          rw [receive_next reading]
          exact replyPart_receiveNext wired present sole envelope
      | complete streamId =>
          rw [Frame.streamId] at about
          subst about
          rw [receive_complete reading]
          simp only [Option.map_some, ReplyPart.advance, ReplyPart.step, ReplyPart.take]
          rw [replyPart_removeSink present]
          cases fed : part.isFed <;> simp [ReplyPart.cut, ← fed]
      | error streamId code text =>
          rw [Frame.streamId] at about
          subst about
          rw [receive_error reading]
          exact replyPart_failSink wired present sole _
      | cancel streamId =>
          rw [Frame.streamId] at about
          subst about
          have stopped := (replyPart_congr (inbox_cancelOutbound connection
            part.reply.streamId) number).trans present
          cases side : connection.role with
          | client =>
              rw [receive_cancel_client reading side]
              exact stopped
          | server =>
              rw [receive_cancel_server reading side]
              simp only [if_true, Option.map_some, ReplyPart.advance, ReplyPart.step,
                ReplyPart.take]
              rw [replyPart_removeSink stopped]
              cases fed : part.isFed <;> simp [ReplyPart.cut, ← fed]
      | requestN streamId count =>
          rw [receive_requestN reading]
          exact (replyPart_congr (inbox_receiveGrant _ _ _) number).trans present

theorem replyPart_close (wired : Wired connection)
    (present : connection.replyPart number = some part)
    (sole : SoleReply connection number part.reply.streamId)
    (running : connection.isClosed = false) :
    connection.close.replyPart number = some (part.step connection (.arrived .closed)) := by
  have failed := replyPart_failSink wired present sole connection.closedError
  have carries :
      (if part.isFed then (part.settle (.error connection.closedError)).cut
        else part).reply.streamId = part.reply.streamId := by
    split <;> rfl
  have kept := keepsInbox_close wired running part.reply.streamId
  rw [← carries] at kept
  exact replyPart_keeps (carries ▸ failed) (carries ▸ kept)

/-! ## What an action does to a reply -/

theorem replyEvent_of_apart (present : connection.replyPart number = some part)
    {action : Action}
    (apart : ¬ ConcernsInbox connection part.reply.streamId action) :
    connection.replyEvent number action = none := by
  have atNumber := (replyPart_eq_some.mp present).1
  cases action with
  | pollReply polled =>
      have other : polled ≠ number := by
        rintro rfl
        exact apart ⟨part.reply, atNumber, rfl⟩
      simp [replyEvent, atNumber, other]
  | dropReply dropped =>
      have other : dropped ≠ number := by
        rintro rfl
        exact apart ⟨part.reply, atNumber, rfl⟩
      simp [replyEvent, atNumber, other]
  | receive frame =>
      have other : frame.streamId ≠ part.reply.streamId := apart
      simp [replyEvent, atNumber, arrival, other]
  | close | endReader | endWriter =>
      simpa [replyEvent, atNumber, arrival, ConcernsInbox] using apart
  | _ => simp [replyEvent, atNumber, arrival]

theorem replyEvent_of_adds (present : connection.replyPart number = some part)
    {action : Action} (adds : action.mayAdd = true) :
    connection.replyEvent number action = none := by
  have atNumber := (replyPart_eq_some.mp present).1
  cases action with
  | receive frame =>
      cases frame with
      | request mode streamId envelope => simp [replyEvent, atNumber, arrival]
      | _ => simp [Action.mayAdd, Action.opensCall] at adds
  | fireAndForget _ | requestResponse _ | requestStream _ | requestChannel _ =>
      simp [replyEvent, atNumber, arrival]
  | _ => simp [Action.mayAdd, Action.opensCall] at adds

/-- An action does to a reply what its event does. -/
theorem replyPart_perform (wired : Wired connection)
    (present : connection.replyPart number = some part) (action : Action)
    (sole : SoleReply (connection.perform action).2 number part.reply.streamId) :
    (connection.perform action).2.replyPart number =
      some (part.advance connection (connection.replyEvent number action)) := by
  have atNumber := (replyPart_eq_some.mp present).1
  have before := sole.earlier (extends_perform wired action).1
  by_cases concerned : ConcernsInbox connection part.reply.streamId action
  · cases action with
    | requestResponse message | requestStream message | requestChannel message =>
        have same := sole.inbox wired atNumber concerned rfl
        rw [replyEvent_of_adds present rfl]
        exact (replyPart_congr same number).trans present
    | pullInbound pulled =>
        rcases concerned with ⟨stream, atPulled, carries⟩
        exact (before.streams pulled stream atPulled carries).elim
    | dropInbound dropped =>
        rcases concerned with ⟨stream, atDropped, carries⟩
        exact (before.streams dropped stream atDropped carries).elim
    | pollReply polled =>
        rcases concerned with ⟨reply, atPolled, carries⟩
        have same := before.replies polled reply atPolled carries
        subst same
        have event : connection.replyEvent polled (.pollReply polled) = some .asked := by
          simp [replyEvent, atNumber]
        rw [event]
        exact replyPart_pollReply present
    | dropReply dropped =>
        rcases concerned with ⟨reply, atDropped, carries⟩
        have same := before.replies dropped reply atDropped carries
        subst same
        have event : connection.replyEvent dropped (.dropReply dropped) = some .left := by
          simp [replyEvent, atNumber]
        rw [event]
        exact replyPart_dropReply present
    | receive frame =>
        cases adds : (Action.receive frame).mayAdd with
        | false => exact replyPart_receive wired present concerned adds before
        | true =>
            have same := sole.inbox wired atNumber concerned adds
            rw [replyEvent_of_adds present adds]
            exact (replyPart_congr same number).trans present
    | close | endReader | endWriter =>
        have running : connection.isClosed = false := concerned
        simp only [replyEvent, atNumber, arrival, running, Bool.false_eq_true, if_false,
          Option.map_some]
        exact (replyPart_congr rfl number).trans (replyPart_close wired present before running)
    | _ => exact concerned.elim
  · rw [replyEvent_of_apart present concerned, ReplyPart.advance]
    exact replyPart_keeps present (keepsInbox_perform wired concerned)

/-- A poll gives what the reply shows. -/
theorem pollReply_shows (present : connection.replyPart number = some part) :
    (connection.pollReply number).1 = part.shows connection .asked := by
  rcases replyPart_eq_some.mp present with ⟨atNumber, fed⟩
  rcases part with ⟨⟨streamId, result, isFinished⟩, isFed⟩
  cases isFinished with
  | true => simp [pollReply, atNumber, ReplyPart.shows]
  | false =>
      cases result with
      | some result => simp [pollReply, atNumber, ReplyPart.shows]
      | none =>
          cases isFed with
          | true =>
              rw [eq_comm, decide_eq_true_iff] at fed
              simp [pollReply, atNumber, fed, ReplyPart.shows]
          | false =>
              rw [eq_comm, decide_eq_false_iff_not] at fed
              simp [pollReply, atNumber, fed, ReplyPart.shows]

/-- What the caller gets at an action is what the reply shows at its event. -/
theorem resolved_eq_shows (present : connection.replyPart number = some part)
    (action : Action) :
    Step.resolved number ⟨connection, action⟩ =
      (connection.replyEvent number action).bind (part.shows connection) := by
  have atNumber := (replyPart_eq_some.mp present).1
  cases action with
  | pollReply polled =>
      by_cases same : polled = number
      · subst same
        simp [Step.resolved, Step.observation, perform, replyEvent, atNumber,
          pollReply_shows present]
      · simp [Step.resolved, replyEvent, atNumber, same, Step.observation, perform]
  | dropReply dropped =>
      by_cases same : dropped = number <;>
        simp [Step.resolved, replyEvent, atNumber, same, ReplyPart.shows]
  | _ =>
      simp only [Step.resolved, replyEvent, atNumber]
      cases arrival connection part.reply.streamId _ <;> rfl

/-! ## The runs of a connection -/

theorem replyEvent_of_absent (absent : connection.replyPart number = none)
    (action : Action) :
    connection.replyEvent number action = none := by
  have missing := List.getElem?_eq_none_iff.mpr (replyPart_eq_none.mp absent)
  simp [replyEvent, missing]

theorem resolved_of_absent (absent : connection.replyPart number = none)
    (action : Action) :
    Step.resolved number ⟨connection, action⟩ = none := by
  have missing := List.getElem?_eq_none_iff.mpr (replyPart_eq_none.mp absent)
  cases action with
  | pollReply polled =>
      by_cases same : polled = number
      · subst same
        simp [Step.resolved, Step.observation, perform, pollReply, missing]
      · simp [Step.resolved, Step.observation, perform, same]
  | _ => rfl

theorem handsReply_of_present (wired : Wired connection)
    (present : connection.replyPart number = some part) (action : Action) :
    Step.handsReply number ⟨connection, action⟩ = false := by
  have within := (List.getElem?_eq_some_iff.mp (replyPart_eq_some.mp present).1).1
  rcases replies_perform wired action with ⟨_, hands⟩ | ⟨_, isHanded, opened⟩
  · exact hands number
  · rw [opened.handsReply, decide_eq_false (by omega), Bool.and_false]

theorem handsReply_of_absent (wired : Wired connection) {action : Action}
    (absent : (connection.perform action).2.replyPart number = none) :
    Step.handsReply number ⟨connection, action⟩ = false := by
  have beyond := replyPart_eq_none.mp absent
  rcases replies_perform wired action with ⟨_, hands⟩ | ⟨_, isHanded, opened⟩
  · exact hands number
  · have length := congrArg List.length opened.replies
    rw [List.length_append, List.length_singleton] at length
    rw [opened.handsReply, decide_eq_false (by omega), Bool.and_false]

end

end Connection

namespace ReplyPart

/-- A reply as it comes to be; one that the caller has not got is finished from the start. -/
def opening (streamId : UInt64) (isHanded : Bool) : ReplyPart :=
  ⟨⟨streamId, none, !isHanded⟩, isHanded⟩

theorem sound_opening (streamId : UInt64) (isHanded : Bool) :
    (opening streamId isHanded).Sound := by
  rintro rfl
  exact ⟨rfl, rfl⟩

theorem Sound.run {connection : Connection} {part : ReplyPart} (sound : part.Sound)
    (events : List CallEvent) :
    (part.run connection events).Sound := by
  induction events generalizing part with
  | nil => exact sound
  | cons event events induction => exact induction (sound.step event)

theorem run_append {connection : Connection} (part : ReplyPart)
    (first second : List CallEvent) :
    part.run connection (first ++ second) =
      (part.run connection first).run connection second :=
  List.foldl_append

theorem shown_append {connection : Connection} (part : ReplyPart)
    (first second : List CallEvent) :
    part.shown connection (first ++ second) =
      part.shown connection first ++ (part.run connection first).shown connection second :=
  outputs_append part first second

theorem step_extends {first second : Connection} (grown : Connection.Extends first second)
    (part : ReplyPart) (event : CallEvent) :
    part.step second event = part.step first event := by
  have closing : second.closedError = first.closedError := by
    simp [Connection.closedError, grown.peer]
  cases event with
  | arrived arrival => cases arrival <;> simp [step, take, grown.codec, closing]
  | _ => rfl

theorem shows_extends {first second : Connection} (grown : Connection.Extends first second)
    (part : ReplyPart) (event : CallEvent) :
    part.shows second event = part.shows first event := by
  have missing : second.noReplyError = first.noReplyError := by
    simp [Connection.noReplyError, grown.peer]
  cases event <;> simp [shows, missing]

end ReplyPart

namespace Connection

/-- What has happened to a reply. -/
def replyEvents (number : Nat) (history : List Step) : List CallEvent :=
  history.filterMap (fun step => step.before.replyEvent number step.action)

/-- Whether a reply was handed to its caller. -/
def handedReply (number : Nat) (history : List Step) : Bool :=
  history.any (Step.handsReply number)

/-- A reply as it has come to be. -/
def replyOpening (number : Nat) (history : List Step) (reply : PendingReply) : ReplyPart :=
  .opening reply.streamId (handedReply number history)

/-- Nothing has happened to a reply that is not there. -/
structure ReplyAbsent (number : Nat) (history : List Step) : Prop where
  events : replyEvents number history = []
  resolved : resolved number history = []
  handed : handedReply number history = false

/-- What a history says about a reply is what its events make of it. -/
structure ReplyLaw (start : Connection) (number : Nat) (history : List Step)
    (part : ReplyPart) : Prop where
  state : part =
    (replyOpening number history part.reply).run start (replyEvents number history)
  resolved : resolved number history =
    (replyOpening number history part.reply).shown start (replyEvents number history)

theorem ReplyLaw.sound {start : Connection} {number : Nat} {history : List Step}
    {part : ReplyPart} (law : ReplyLaw start number history part) :
    part.Sound := by
  rw [law.state]
  exact (ReplyPart.sound_opening _ _).run _

theorem replyEvents_concat (number : Nat) (history : List Step) (step : Step) :
    replyEvents number (history ++ [step]) =
      replyEvents number history ++ (step.before.replyEvent number step.action).toList :=
  filterMap_concat _ _ _

theorem handedReply_concat (number : Nat) (history : List Step) (step : Step) :
    handedReply number (history ++ [step]) =
      (handedReply number history || step.handsReply number) := by
  simp [handedReply]

section

variable {start connection : Connection} {number : Nat} {history : List Step}

theorem replyAbsent_concat (wired : Wired connection) (action : Action)
    (earlier : connection.replyPart number = none → ReplyAbsent number history)
    (absent : (connection.perform action).2.replyPart number = none) :
    ReplyAbsent number (history ++ [⟨connection, action⟩]) := by
  have grown := (extends_perform wired action).1
  have absentBefore : connection.replyPart number = none := by
    by_contra found
    rcases Option.ne_none_iff_exists'.mp found with ⟨part, present⟩
    rcases grown.replies number _ (replyPart_eq_some.mp present).1 with ⟨later, atLater, _⟩
    simp [replyPart, atLater] at absent
  have before := earlier absentBefore
  constructor
  · rw [replyEvents_concat, before.events, replyEvent_of_absent absentBefore]
    rfl
  · rw [resolved_concat, before.resolved, resolved_of_absent absentBefore]
    rfl
  · rw [handedReply_concat, before.handed, handsReply_of_absent wired absent]
    rfl

/-- A reply comes to be as its opening. -/
theorem replyPart_opening (wired : Wired connection) {part : ReplyPart}
    {action : Action} (absent : connection.replyPart number = none)
    (present : (connection.perform action).2.replyPart number = some part) :
    part = .opening part.reply.streamId (Step.handsReply number ⟨connection, action⟩) := by
  have beyond := replyPart_eq_none.mp absent
  rcases replyPart_eq_some.mp present with ⟨atNumber, fed⟩
  have within := (List.getElem?_eq_some_iff.mp atNumber).1
  rcases replies_perform wired action with ⟨same, _⟩ | ⟨streamId, isHanded, opened⟩
  · omega
  · have length := congrArg List.length opened.replies
    rw [List.length_append, List.length_singleton] at length
    have last : connection.replies.length = number := by omega
    rw [opened.replies, ← last, List.getElem?_concat_length, Option.some.injEq] at atNumber
    rw [← atNumber, opened.sink, ← last] at fed
    rw [opened.handsReply, decide_eq_true last, Bool.and_true]
    rcases part with ⟨reply, isFed⟩
    simp only at atNumber fed
    subst atNumber
    cases isHanded <;> simp [ReplyPart.opening, fed]

theorem replyLaw_opening {part : ReplyPart} (wired : Wired connection) (action : Action)
    (absent : connection.replyPart number = none) (before : ReplyAbsent number history)
    (present : (connection.perform action).2.replyPart number = some part) :
    ReplyLaw start number (history ++ [⟨connection, action⟩]) part := by
  have events : replyEvents number (history ++ [⟨connection, action⟩]) = [] := by
    rw [replyEvents_concat, before.events, replyEvent_of_absent absent]
    rfl
  constructor
  · rw [events, replyOpening, handedReply_concat, before.handed, Bool.false_or]
    exact replyPart_opening wired absent present
  · rw [events, resolved_concat, before.resolved, resolved_of_absent absent]
    rfl

theorem replyLaw_step {part later : ReplyPart} (wired : Wired connection)
    (grown : Extends start connection) (action : Action)
    (present : connection.replyPart number = some part)
    (before : ReplyLaw start number history part)
    (sole : SoleReply (connection.perform action).2 number part.reply.streamId)
    (atLater : (connection.perform action).2.replyPart number = some later) :
    ReplyLaw start number (history ++ [⟨connection, action⟩]) later := by
  have advanced := replyPart_perform wired present action sole
  rw [atLater, Option.some.injEq] at advanced
  have same := (extends_perform wired action).1.replyId
    (replyPart_eq_some.mp present).1 (replyPart_eq_some.mp atLater).1
  have opening : replyOpening number (history ++ [⟨connection, action⟩]) later.reply =
      replyOpening number history part.reply := by
    rw [replyOpening, replyOpening, handedReply_concat, handsReply_of_present wired present,
      Bool.or_false, same]
  constructor
  · rw [opening, replyEvents_concat, ReplyPart.run_append, ← before.state, advanced]
    cases connection.replyEvent number action with
    | none => rfl
    | some event => exact ReplyPart.step_extends grown part event
  · rw [opening, replyEvents_concat, ReplyPart.shown_append, ← before.state,
      ← before.resolved, resolved_concat, resolved_eq_shows present]
    cases connection.replyEvent number action with
    | none => rfl
    | some event =>
        refine congrArg _ ((congrArg _ (ReplyPart.shows_extends grown part event)).trans ?_)
        exact (List.append_nil _).symm

/-- In every run the reply of a call is what its own events have made of it. -/
theorem replyLaw_after (wired : Wired start) (blank : start.replies = [])
    (actions : List Action) (number : Nat) :
    ((start.after actions).replyPart number = none →
        ReplyAbsent number (start.history actions)) ∧
      ∀ part, (start.after actions).replyPart number = some part →
        SoleReply (start.after actions) number part.reply.streamId →
          ReplyLaw start number (start.history actions) part := by
  induction actions using List.reverseRecOn with
  | nil =>
      refine ⟨fun _ => ⟨rfl, rfl, rfl⟩, ?_⟩
      intro part present
      simp [replyPart, blank] at present
  | append_singleton actions action induction =>
      have wiredNow := wired_after wired actions
      have grown := extends_after wired actions
      rw [after_concat, history_concat]
      refine ⟨replyAbsent_concat wiredNow action induction.1, ?_⟩
      intro later atLater sole
      cases before : (start.after actions).replyPart number with
      | none => exact replyLaw_opening wiredNow action before (induction.1 before) atLater
      | some part =>
          have same := (extends_perform wiredNow action).1.replyId
            (replyPart_eq_some.mp before).1 (replyPart_eq_some.mp atLater).1
          rw [same] at sole
          exact replyLaw_step wiredNow grown action before
            (induction.2 part before (sole.earlier (extends_perform wiredNow action).1))
            sole atLater

end

end Connection

end ServiceMesh
