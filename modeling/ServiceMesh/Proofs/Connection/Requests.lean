import ServiceMesh.Proofs.Connection.Delivery
import ServiceMesh.Proofs.Connection.Identity

/-!
# Requests come first

Every frame that is sent carries a stream id that has been claimed (`sent_claimed`), and a request
claims the id that it carries.  So the request of a call comes before all other frames of the call
(`request_mem_of_prefix`), and whoever has sent it waits for the answers (`called_of_sent`).
-/

namespace ServiceMesh

/-- The id of a request. -/
def Frame.requestId? : Frame → Option UInt64
  | .request _ streamId _ => some streamId
  | _ => none

namespace Connection

/-- Who has sent a request has what takes the answers, and what sends the further requests. -/
structure Called (connection : Connection) (mode : Mode) (streamId : UInt64) : Prop where
  reply : mode = .requestResponse →
    ∃ reply ∈ connection.replies, reply.streamId = streamId
  stream : mode = .requestStream ∨ mode = .requestChannel →
    ∃ stream ∈ connection.inbound, stream.streamId = streamId
  producer : mode = .requestChannel →
    ∃ producer ∈ connection.producers, producer.streamId = streamId

theorem Called.later {first second : Connection} {mode : Mode} {streamId : UInt64}
    (called : Called first mode streamId) (grown : Extends first second) :
    Called second mode streamId := by
  constructor
  · intro single
    rcases called.reply single with ⟨reply, member, carries⟩
    rcases List.getElem?_of_mem member with ⟨number, present⟩
    rcases grown.replies number reply present with ⟨later, atLater, same⟩
    exact ⟨later, List.mem_of_getElem? atLater, same.trans carries⟩
  · exact fun streams => grown.exists_inbound (called.stream streams)
  · intro channel
    rcases called.producer channel with ⟨producer, member, carries⟩
    rcases List.getElem?_of_mem member with ⟨number, present⟩
    rcases grown.producers number producer present with ⟨later, atLater, same⟩
    exact ⟨later, List.mem_of_getElem? atLater, same.trans carries⟩

/-! ## What one action sends -/

section

variable {connection : Connection}

theorem claimed_of_advances {action : Action} (opens : action.opensCall = true)
    (advances : (connection.perform action).2.nextStreamId = connection.nextStreamId + 2) :
    Step.claimed ⟨connection, action⟩ = some connection.nextStreamId :=
  (Origin.called opens advances).claimed

/-- Who opens a call sends its request, or nothing. -/
theorem sends_of_opensCall (wired : Wired connection) {action : Action}
    (opens : action.opensCall = true) :
    connection.sends action = [] ∨
      ∃ mode envelope,
        connection.sends action = [.request mode connection.nextStreamId envelope] ∧
        Step.claimed ⟨connection, action⟩ = some connection.nextStreamId ∧
        Called (connection.perform action).2 mode connection.nextStreamId := by
  cases action with
  | fireAndForget message =>
      cases encodes : connection.codec.encode message with
      | error error => exact .inl (by simp [sends, openingFrames, encodes])
      | ok envelope =>
          refine .inr ⟨.fireAndForget, envelope, by simp [sends, openingFrames, encodes],
            claimed_of_advances rfl ?_, by simp, by simp, by simp⟩
          simp only [perform, fireAndForget, encodes, send_eq]
          split <;> (rename_i sent; rw [Prod.mk.injEq] at sent; rw [← sent.2, post_eq]; rfl)
  | requestResponse message =>
      rcases requestResponse_cases wired message with
        ⟨_, fails, _⟩ | ⟨_, _, closed, _⟩ | ⟨envelope, encodes, running, equal⟩
      · exact .inl (by simp [sends, openingFrames, fails])
      · exact .inl (by simp [sends, closed])
      · exact .inr ⟨.requestResponse, envelope,
          by simp [sends, openingFrames, encodes, running],
          claimed_of_advances rfl (by simp [perform, equal]),
          by simp [perform, equal], by simp, by simp⟩
  | requestStream message =>
      rcases openStream_cases wired .requestStream message with
        ⟨_, fails, _⟩ | ⟨_, _, closed, _⟩ | ⟨envelope, encodes, running, equal⟩
      · exact .inl (by simp [sends, openingFrames, fails])
      · exact .inl (by simp [sends, closed])
      · exact .inr ⟨.requestStream, envelope,
          by simp [sends, openingFrames, encodes, running],
          claimed_of_advances rfl (by simp [perform, requestStream, equal]),
          by simp, by simp [perform, requestStream, equal], by simp⟩
  | requestChannel first =>
      rcases first with _ | _ | message
      · exact .inl rfl
      · exact .inl rfl
      · rcases openStream_cases wired .requestChannel message with
          ⟨_, fails, _⟩ | ⟨_, _, closed, _⟩ | ⟨envelope, encodes, running, equal⟩
        · exact .inl (by simp [sends, openingFrames, fails])
        · exact .inl (by simp [sends, closed])
        · have equal := requestChannel_of_ok equal
          exact .inr ⟨.requestChannel, envelope,
            by simp [sends, openingFrames, encodes, running],
            claimed_of_advances rfl (by simp [perform, equal, startPump, startProducer]),
            by simp, by simp [perform, equal, startPump, startProducer],
            by simp [perform, equal, startPump, startProducer]⟩
  | _ => simp [Action.opensCall] at opens

theorem Framed.about {codec : MessageCodec} {streamId : UInt64}
    {signal : Signal (Outcome Message)} {frame : Frame} {isLast : Bool}
    (framed : Framed codec streamId signal frame isLast) :
    frame.streamId = streamId ∧ ∀ mode other envelope, frame ≠ .request mode other envelope := by
  cases framed <;> exact ⟨rfl, by simp [Frame.ofError]⟩

/-- Who has a sink waits for its answers. -/
theorem mem_receiverIds_of_sink (wired : Wired connection) {streamId : UInt64}
    (fed : connection.sinks.find? streamId ≠ none) :
    streamId ∈ connection.receiverIds := by
  rcases Option.ne_none_iff_exists'.mp fed with ⟨sink, found⟩
  cases sink with
  | reply number =>
      rcases wired.reply _ _ found with ⟨reply, present, carries⟩
      exact carries ▸ mem_receiverIds_of_reply present
  | stream number =>
      rcases wired.stream _ _ found with ⟨stream, present, carries⟩
      exact carries ▸ mem_receiverIds_of_stream present

/-- Whoever opens no call sends frames of the calls that are there, and refusals, but no request. -/
theorem mem_sends_of_answers (wired : Wired connection) {action : Action}
    (answers : action.opensCall = false) {frame : Frame}
    (member : frame ∈ connection.sends action) :
    (frame.streamId ∈ connection.receiverIds ∨ frame.streamId ∈ connection.producerIds ∨
        Step.claimed ⟨connection, action⟩ = some frame.streamId) ∧
      ∀ mode other envelope, frame ≠ .request mode other envelope := by
  cases reason_of_mem member with
  | opening _ _ opens => simp [opens] at answers
  | reply present => exact ⟨.inl (mem_receiverIds_of_reply present), by simp⟩
  | stream present _ | grant _ present =>
      exact ⟨.inl (mem_receiverIds_of_stream present), by simp⟩
  | signal present framed | response present framed =>
      rcases framed.about with ⟨carries, other⟩
      exact ⟨.inr (.inl (carries ▸ mem_producerIds present)), other⟩
  | refusal error reading serves =>
      exact ⟨.inr (.inr (if_pos ⟨reading, serves⟩)), by simp [Frame.ofError]⟩
  | unreadable _ _ fed => exact ⟨.inl (mem_receiverIds_of_sink wired fed), by simp⟩

end

/-! ## What a server accepts -/

/-- A call that was accepted has what its mode asks for. -/
structure AcceptedAs (finish : Connection) (streamId : UInt64) (call : Accepted) : Prop where
  answers : call.mode = .requestStream ∨ call.mode = .requestChannel →
    ∃ answers producer, call.answers = some answers ∧
      finish.producers[answers]? = some producer ∧ producer.streamId = streamId
  requests : call.mode = .requestChannel →
    ∃ requests stream, call.requests = some requests ∧
      finish.inbound[requests]? = some stream ∧ stream.streamId = streamId

theorem AcceptedAs.later {first second : Connection} {streamId : UInt64} {call : Accepted}
    (accepted : AcceptedAs first streamId call) (grown : Extends first second) :
    AcceptedAs second streamId call := by
  constructor
  · intro streams
    rcases accepted.answers streams with ⟨answers, producer, same, present, carries⟩
    rcases grown.producers answers producer present with ⟨later, atLater, kept⟩
    exact ⟨answers, later, same, atLater, kept.trans carries⟩
  · intro channel
    rcases accepted.requests channel with ⟨requests, stream, same, present, carries⟩
    rcases grown.inbound requests stream present with ⟨later, atLater, kept, _⟩
    exact ⟨requests, later, same, atLater, kept.trans carries⟩

theorem acceptedAs_accept (connection : Connection) (mode : Mode) (streamId : UInt64)
    (message : Message) :
    AcceptedAs (connection.accept mode streamId message).2 streamId
      (connection.accept mode streamId message).1 := by
  cases mode with
  | fireAndForget => exact ⟨by simp [accept], by simp [accept]⟩
  | requestResponse => exact ⟨by simp [accept], by simp [accept]⟩
  | requestStream =>
      exact ⟨by simp [accept, startPump, startProducer], by simp [accept]⟩
  | requestChannel =>
      exact ⟨by simp [accept, startPump, startProducer, openRequests],
        by simp [accept, startPump, startProducer, openRequests]⟩

/-- Calls are accepted by their requests. -/
theorem accepted_of_observation {connection : Connection} {action : Action}
    {call : Accepted}
    (accepts : Step.observation ⟨connection, action⟩ = .accepted (some call)) :
    ∃ streamId envelope, action = .receive (.request call.mode streamId envelope) ∧
      connection.reads = true ∧
      AcceptedAs (connection.perform action).2 streamId call := by
  cases action with
  | receive frame =>
      have opens : (connection.receive frame).1 = some call := by
        simpa [Step.observation, perform] using accepts
      cases frame with
      | request mode streamId envelope =>
          rcases receive_request_cases connection mode streamId envelope with
            equal | ⟨error, equal⟩ | ⟨_, reading, message, equal⟩
          · simp [equal] at opens
          · simp [equal] at opens
          · have accepted := acceptedAs_accept connection mode streamId message
            rw [equal, Option.some.injEq] at opens
            have sameMode : call.mode = mode := by
              rw [← opens]
              cases mode <;> rfl
            refine ⟨streamId, envelope, by rw [sameMode], reading, ?_⟩
            simp only [perform, equal, ← opens]
            exact accepted
      | _ =>
          cases reading : connection.reads <;> cases side : connection.role <;>
            simp [receive, reading, side] at opens
  | _ => simp [Step.observation, perform] at accepts

/-- Whether a step accepts a call of the given mode. -/
def Step.accepts (mode : Mode) (step : Step) : Bool :=
  match step.observation with
  | .accepted call => call.any (fun call => call.mode = mode)
  | _ => false

theorem Step.accepts_iff {mode : Mode} {step : Step} :
    step.accepts mode = true ↔
      ∃ call, step.observation = .accepted (some call) ∧ call.mode = mode := by
  cases shown : step.observation with
  | accepted call => cases call <;> simp [accepts, shown]
  | _ => simp [accepts, shown]

/-- Whether a step takes the request of a call and does not accept it. -/
def Step.refuses (streamId : UInt64) (step : Step) : Bool :=
  match step.taken, step.observation with
  | some (.request _ id _), .accepted none => id = streamId
  | _, _ => false

/-! ## What a run sends -/

section

variable (role : Role) (peer : String) (codec : MessageCodec) (config : Config)

/-- Every frame that is sent carries a claimed stream id. -/
theorem sent_claimed (actions : List Action) :
    ∀ frame ∈ sent ((spawn role peer codec config).history actions),
      frame.streamId ∈ claimed ((spawn role peer codec config).history actions) := by
  induction actions using List.reverseRecOn with
  | nil => simp [sent, history]
  | append_singleton actions action induction =>
      have wired := wired_after (wired_spawn role peer codec config) actions
      have claims := claims_after role peer codec config actions
      rw [history_concat]
      intro frame member
      rw [sent_concat, List.mem_append] at member
      rw [claimed_concat, List.mem_append]
      rcases member with before | now
      · exact .inl (induction frame before)
      · cases opens : action.opensCall with
        | true =>
            rcases sends_of_opensCall wired opens with nothing | ⟨mode, envelope, sends, claim, _⟩
            · simp [nothing] at now
            · rw [sends, List.mem_singleton] at now
              subst now
              exact .inr (by rw [claim]; exact List.mem_singleton.mpr rfl)
        | false =>
            rcases (mem_sends_of_answers wired opens now).1 with receives | produces | claim
            · exact .inl (claims.receivers _ receives)
            · exact .inl (claims.producers _ produces)
            · exact .inr (by rw [claim]; exact List.mem_singleton.mpr rfl)

/-- Who has sent a request waits for the answers. -/
theorem called_of_sent (actions : List Action) {mode : Mode} {streamId : UInt64}
    {envelope : Envelope}
    (member : .request mode streamId envelope ∈
      sent ((spawn role peer codec config).history actions)) :
    Called ((spawn role peer codec config).after actions) mode streamId := by
  induction actions using List.reverseRecOn with
  | nil => simp [sent, history] at member
  | append_singleton actions action induction =>
      have wired := wired_after (wired_spawn role peer codec config) actions
      rw [history_concat, sent_concat, List.mem_append] at member
      rw [after_concat]
      rcases member with before | now
      · exact (induction before).later (extends_perform wired action).1
      · cases opens : action.opensCall with
        | true =>
            rcases sends_of_opensCall wired opens with nothing | ⟨_, _, sends, _, called⟩
            · simp [nothing] at now
            · rw [sends, List.mem_singleton, Frame.request.injEq] at now
              rcases now with ⟨rfl, rfl, -⟩
              exact called
        | false => exact ((mem_sends_of_answers wired opens now).2 _ _ _ rfl).elim

/-- The first frames that are sent hold the request of a call if they hold any frame of it. -/
theorem request_mem_of_prefix (actions : List Action)
    (once : (claimed ((spawn role peer codec config).history actions)).Nodup)
    {mode : Mode} {streamId : UInt64} {envelope : Envelope}
    (requested : .request mode streamId envelope ∈
      sent ((spawn role peer codec config).history actions))
    {frames : List Frame}
    (early : frames <+: sent ((spawn role peer codec config).history actions))
    {frame : Frame} (member : frame ∈ frames) (carries : frame.streamId = streamId) :
    .request mode streamId envelope ∈ frames := by
  induction actions using List.reverseRecOn with
  | nil => simp [sent, history] at requested
  | append_singleton actions action induction =>
      have wired := wired_after (wired_spawn role peer codec config) actions
      rw [history_concat, nodup_claimed_concat] at once
      rcases once with ⟨onceBefore, unclaimed⟩
      rw [history_concat, sent_concat] at requested early
      rw [List.mem_append] at requested
      rcases early with ⟨others, whole⟩
      rcases requested with before | now
      · rcases List.append_eq_append_iff.mp whole with ⟨between, split, -⟩ | ⟨more, rfl, -⟩
        · exact induction onceBefore before (split ▸ List.prefix_append _ _)
        · exact List.mem_append_left _ before
      · cases opens : action.opensCall with
        | false => exact ((mem_sends_of_answers wired opens now).2 _ _ _ rfl).elim
        | true =>
            rcases sends_of_opensCall wired opens with nothing | ⟨_, _, sends, claim, _⟩
            · simp [nothing] at now
            · have later {earlier : Frame} (sentBefore : earlier ∈
                  sent ((spawn role peer codec config).history actions))
                  (same : earlier.streamId = streamId) : False := by
                rw [sends, List.mem_singleton, Frame.request.injEq] at now
                have claimedBefore := sent_claimed role peer codec config actions _ sentBefore
                rw [same, now.2.1] at claimedBefore
                exact unclaimed _ claim claimedBefore
              rcases List.append_eq_append_iff.mp whole with ⟨between, split, -⟩ | ⟨more, rfl, split⟩
              · exact (later (split ▸ List.mem_append_left _ member) carries).elim
              · rcases List.mem_append.mp member with before | after
                · exact (later before carries).elim
                · have among : frame ∈ more ++ others := List.mem_append_left _ after
                  rw [← split, sends, List.mem_singleton] at among
                  rw [sends, List.mem_singleton] at now
                  rw [now, ← among]
                  exact List.mem_append_right _ after

/-- The requests that are sent carry claimed ids, each its own. -/
theorem requests_sublist_claimed (actions : List Action) :
    ((sent ((spawn role peer codec config).history actions)).filterMap
        Frame.requestId?).Sublist
      (claimed ((spawn role peer codec config).history actions)) := by
  induction actions using List.reverseRecOn with
  | nil => exact List.Sublist.refl _
  | append_singleton actions action induction =>
      have wired := wired_after (wired_spawn role peer codec config) actions
      rw [history_concat, sent_concat, claimed_concat, List.filterMap_append]
      refine induction.append ?_
      cases opens : action.opensCall with
      | true =>
          rcases sends_of_opensCall wired opens with nothing | ⟨_, _, sends, claim, _⟩
          · rw [nothing]
            exact List.nil_sublist _
          · rw [sends, claim]
            exact List.Sublist.refl _
      | false =>
          have silent : (((spawn role peer codec config).after actions).sends action).filterMap
              Frame.requestId? = [] := by
            rw [List.filterMap_eq_nil_iff]
            intro frame member
            have other := (mem_sends_of_answers wired opens member).2
            cases frame with
            | request mode streamId envelope => exact (other mode streamId envelope rfl).elim
            | _ => rfl
          rw [silent]
          exact List.nil_sublist _

/-- Who opens no call sends no request. -/
theorem request_notMem_sent {actions : List Action}
    (serves : ∀ action ∈ actions, action.opensCall = false) (mode : Mode)
    (streamId : UInt64) (envelope : Envelope) :
    .request mode streamId envelope ∉
      sent ((spawn role peer codec config).history actions) := by
  induction actions using List.reverseRecOn with
  | nil => simp [sent, history]
  | append_singleton actions action induction =>
      have wired := wired_after (wired_spawn role peer codec config) actions
      rw [history_concat, sent_concat, List.mem_append, not_or]
      constructor
      · exact induction fun action member => serves action (List.mem_append_left _ member)
      · intro member
        have answers := serves action (List.mem_append_right _ (List.mem_singleton.mpr rfl))
        exact (mem_sends_of_answers wired answers member).2 mode streamId envelope rfl

/-- Who opens no call waits for no reply. -/
theorem replies_of_answers {actions : List Action}
    (serves : ∀ action ∈ actions, action.opensCall = false) :
    ((spawn role peer codec config).after actions).replies = [] := by
  induction actions using List.reverseRecOn with
  | nil => rfl
  | append_singleton actions action induction =>
      have wired := wired_after (wired_spawn role peer codec config) actions
      have before := induction fun action member => serves action (List.mem_append_left _ member)
      have answers := serves action (List.mem_append_right _ (List.mem_singleton.mpr rfl))
      rw [after_concat]
      cases adds : action.mayAdd with
      | false =>
          have same := (narrows_perform ((spawn role peer codec config).after actions)
            adds).replies_length
          rw [before] at same
          exact List.length_eq_zero_iff.mp same
      | true =>
          cases action with
          | receive frame =>
              cases frame with
              | request mode streamId envelope =>
                  simp only [perform, Prod.map_snd, id]
                  rcases receive_request_cases ((spawn role peer codec config).after actions) mode
                    streamId envelope with equal | ⟨error, equal⟩ | ⟨_, _, message, equal⟩
                  · rw [equal]
                    exact before
                  · have same := congrArg (fun inbox => inbox.2.1) (inbox_reject
                      ((spawn role peer codec config).after actions) mode streamId error)
                    rw [equal]
                    exact same.trans before
                  · rw [equal]
                    cases mode <;> exact before
              | _ => simp [Action.mayAdd, Action.opensCall] at adds
          | _ => simp_all [Action.mayAdd, Action.opensCall]

/-- A server that opens no call claims the ids of the requests that it takes. -/
theorem claimed_server {actions : List Action}
    (serves : ∀ action ∈ actions, action.opensCall = false) :
    claimed ((spawn .server peer codec config).history actions) =
      (taken ((spawn .server peer codec config).history actions)).filterMap
        Frame.requestId? := by
  induction actions using List.reverseRecOn with
  | nil => rfl
  | append_singleton actions action induction =>
      have wired := wired_after (wired_spawn .server peer codec config) actions
      have side : ((spawn .server peer codec config).after actions).role = .server :=
        (extends_after (wired_spawn .server peer codec config) actions).role
      rw [history_concat, claimed_concat, taken_concat, List.filterMap_append,
        induction fun action member => serves action (List.mem_append_left _ member)]
      congr 1
      have still : Step.issued ⟨(spawn .server peer codec config).after actions, action⟩ =
          none := by
        refine if_pos ?_
        rcases nextStreamId_perform wired action with same | ⟨opens, _⟩
        · exact same
        · rw [serves action (List.mem_append_right _ (List.mem_singleton.mpr rfl))] at opens
          cases opens
      cases action with
      | receive frame =>
          cases reading : ((spawn .server peer codec config).after actions).reads <;>
            cases frame <;>
            simp_all [Step.claimed, Step.taken, Frame.requestId?]
      | _ => simpa [Step.claimed, Step.taken] using still

end

end Connection

end ServiceMesh
