import ServiceMesh.Proofs.Connection.Serving

/-!
# What a close leaves behind

A close empties both tables of a connection, gives everybody who still waits one connection error and
stops every producer.  Whoever registers something looks at the mark of the close afterwards, with one
exception: a request that is accepted on a connection that is closed already gets its entries, and
nothing will ever take them away.  That is the only way to keep something on a closed connection
(`closed_keeps_nothing_iff`), and it is a way (`lateRequest_kept`).
-/

namespace ServiceMesh

theorem Table.eq_nil_of_find? {κ α : Type} [DecidableEq κ] {table : Table κ α}
    (nothing : ∀ key, table.find? key = none) :
    table = [] := by
  cases table with
  | nil => rfl
  | cons entry rest =>
      have found := nothing entry.1
      simp [Table.find?] at found

namespace Connection

/-- A connection on which nothing is registered. -/
structure Bare (connection : Connection) : Prop where
  sinks : connection.sinks = []
  outbound : connection.outbound = []

/-- What has come for the receivers of a connection is only taken out of it later. -/
structure Drains (first second : Connection) : Prop where
  replies : ∀ (number : Nat) reply, first.replies[number]? = some reply →
    ∃ later, second.replies[number]? = some later ∧ later.result = reply.result
  inbound : ∀ (number : Nat) stream, first.inbound[number]? = some stream →
    ∃ later, second.inbound[number]? = some later ∧ later.buffer <:+ stream.buffer

/-- What a close has done for those who waited when it came, at some moment after it: one error was
put where they look, and nothing after it. -/
structure Resolved (before later : Connection) : Prop where
  replies : ∀ (number : Nat) reply, before.replies[number]? = some reply →
    before.sinks.find? reply.streamId = some (.reply number) →
    ∃ settled, later.replies[number]? = some settled ∧
      settled.result = some (.error before.closedError)
  inbound : ∀ (number : Nat) stream, before.inbound[number]? = some stream →
    before.sinks.find? stream.streamId = some (.stream number) →
    ∃ settled, later.inbound[number]? = some settled ∧
      settled.buffer <:+ stream.buffer ++ [.error before.closedError]

/-- A step that accepts a call which gets an answer although the connection is closed. -/
def Step.isLate (step : Step) : Prop :=
  step.before.isClosed = true ∧
    ∃ call, step.observation = .accepted (some call) ∧ call.mode ≠ .fireAndForget

section

variable {connection first second : Connection}

theorem bare_of_thins (thins : Thins first second) (bare : Bare first) : Bare second where
  sinks := by
    apply Table.eq_nil_of_find?
    intro streamId
    by_contra some_
    rcases Option.ne_none_iff_exists'.mp some_ with ⟨sink, found⟩
    have before := thins.sinks streamId sink found
    rw [bare.sinks] at before
    cases before
  outbound := by
    apply Table.eq_nil_of_find?
    intro streamId
    by_contra some_
    rcases Option.ne_none_iff_exists'.mp some_ with ⟨number, found⟩
    have before := thins.outbound streamId number found
    rw [bare.outbound] at before
    cases before

theorem Thins.of_eq (grown : Extends first second) (inbox : second.inbox = first.inbox)
    (outbox : second.outbox = first.outbox) :
    Thins first second where
  toExtends := grown
  sinks _ _ found := by
    simp only [Connection.inbox, Prod.mk.injEq] at inbox
    rwa [inbox.1] at found
  outbound _ _ found := by
    simp only [Connection.outbox, Prod.mk.injEq] at outbox
    rwa [outbox.1] at found

theorem Drains.of_eq (replies : second.replies = first.replies)
    (inbound : second.inbound = first.inbound) :
    Drains first second where
  replies _ reply present := ⟨reply, by rw [replies, present], rfl⟩
  inbound _ stream present := ⟨stream, by rw [inbound, present], List.suffix_refl _⟩

theorem Drains.of_inbox (same : second.inbox = first.inbox) : Drains first second := by
  simp only [Connection.inbox, Prod.mk.injEq] at same
  exact .of_eq same.2.1 same.2.2

theorem Drains.trans {third : Connection} (left : Drains first second)
    (right : Drains second third) :
    Drains first third where
  replies number reply present := by
    rcases left.replies number reply present with ⟨middle, atMiddle, same⟩
    rcases right.replies number middle atMiddle with ⟨last, atLast, same'⟩
    exact ⟨last, atLast, same'.trans same⟩
  inbound number stream present := by
    rcases left.inbound number stream present with ⟨middle, atMiddle, suffix⟩
    rcases right.inbound number middle atMiddle with ⟨last, atLast, suffix'⟩
    exact ⟨last, atLast, suffix'.trans suffix⟩

theorem drains_updateReply (connection : Connection) (number : Nat)
    {change : PendingReply → PendingReply} (keeps : ∀ reply, (change reply).result = reply.result) :
    Drains connection (connection.updateReply number change) where
  replies other reply present := by
    by_cases same : number = other
    · subst same
      exact ⟨change reply, by simp [updateReply, present], keeps reply⟩
    · exact ⟨reply, by simp [updateReply, List.getElem?_modify_ne _ _ same, present], rfl⟩
  inbound _ stream present := ⟨stream, present, List.suffix_refl _⟩

theorem drains_updateInbound (connection : Connection) (number : Nat)
    {change : InboundStream → InboundStream}
    (shortens : ∀ stream, connection.inbound[number]? = some stream →
      (change stream).buffer <:+ stream.buffer) :
    Drains connection (connection.updateInbound number change) where
  replies _ reply present := ⟨reply, present, rfl⟩
  inbound other stream present := by
    by_cases same : number = other
    · subst same
      exact ⟨change stream, by simp [updateInbound, present], shortens stream present⟩
    · exact ⟨stream, by simp [updateInbound, List.getElem?_modify_ne _ _ same, present],
        List.suffix_refl _⟩

theorem drains_append (replies : List PendingReply) (streams : List InboundStream)
    (moreReplies : second.replies = first.replies ++ replies)
    (moreStreams : second.inbound = first.inbound ++ streams) :
    Drains first second where
  replies number reply present := by
    refine ⟨reply, ?_, rfl⟩
    rw [moreReplies, List.getElem?_append_left (List.getElem?_eq_some_iff.mp present).1, present]
  inbound number stream present := by
    refine ⟨stream, ?_, List.suffix_refl _⟩
    rw [moreStreams, List.getElem?_append_left (List.getElem?_eq_some_iff.mp present).1, present]

theorem Resolved.later {before : Connection} (resolved : Resolved before first)
    (drains : Drains first second) :
    Resolved before second where
  replies number reply present waits := by
    rcases resolved.replies number reply present waits with ⟨middle, atMiddle, failed⟩
    rcases drains.replies number middle atMiddle with ⟨last, atLast, same⟩
    exact ⟨last, atLast, same.trans failed⟩
  inbound number stream present waits := by
    rcases resolved.inbound number stream present waits with ⟨middle, atMiddle, suffix⟩
    rcases drains.inbound number middle atMiddle with ⟨last, atLast, suffix'⟩
    exact ⟨last, atLast, suffix'.trans suffix⟩

/-! ## The close -/

/-- If an operation takes away the entry of one call and adds none, those of the calls that it is
applied to are gone in the end. -/
theorem find?_foldl_of_removes {α : Type} {table : Connection → Table UInt64 α}
    {operation : Connection → UInt64 → Connection}
    (removes : ∀ connection streamId, (table (operation connection streamId)).find? streamId = none)
    (thins : ∀ connection streamId other value,
      (table (operation connection streamId)).find? other = some value →
        (table connection).find? other = some value)
    (streamIds : List UInt64) {connection : Connection} {streamId : UInt64}
    (gone : streamId ∈ streamIds ∨ (table connection).find? streamId = none) :
    (table (streamIds.foldl operation connection)).find? streamId = none := by
  induction streamIds generalizing connection with
  | nil => exact gone.resolve_left List.not_mem_nil
  | cons other rest induction =>
      rw [List.foldl_cons]
      apply induction
      by_cases same : streamId = other
      · exact .inr (same ▸ removes connection other)
      · rcases gone with member | absent
        · exact .inl ((List.mem_cons.mp member).resolve_left same)
        · refine .inr (Option.eq_none_iff_forall_ne_some.mpr fun value present => ?_)
          cases absent.symm.trans (thins connection other streamId value present)

theorem bare_close (running : connection.isClosed = false) : Bare connection.close where
  sinks := by
    refine Table.eq_nil_of_find? fun streamId => ?_
    rw [close_of_open running]
    refine (congrArg (fun inbox => inbox.1.find? streamId) (inbox_cancelOutbounds _)).trans ?_
    refine find?_foldl_of_removes (fun _ _ => find?_sinks_failSink _ _ _)
      (fun _ _ => (narrows_failSink _ _ _).sinks) _ ?_
    rw [Table.mem_keys_iff]
    exact (Decidable.em (connection.sinks.find? streamId = none)).symm
  outbound := by
    refine Table.eq_nil_of_find? fun streamId => ?_
    rw [close_of_open running]
    refine find?_foldl_of_removes find?_outbound_cancelOutbound
      (fun _ _ => (narrows_cancelOutbound _ _).outbound) _ ?_
    rw [Table.mem_keys_iff]
    exact (Decidable.em (_ = none)).symm

theorem resolved_close (wired : Wired connection) (running : connection.isClosed = false) :
    Resolved connection connection.close where
  replies number reply present waits := by
    have kept := keepsInbox_close wired running reply.streamId
    rw [failSink_of_some waits] at kept
    refine ⟨_, kept.replies number { reply with result := some (.error connection.closedError) }
      ?_ rfl, rfl⟩
    simp [deliverTo, updateReply, removeSink, present]
  inbound number stream present waits := by
    have kept := keepsInbox_close wired running stream.streamId
    rw [failSink_of_some waits] at kept
    refine ⟨_, kept.inbound number
      { stream with buffer := stream.buffer ++ [.error connection.closedError] } ?_ rfl,
      List.suffix_refl _⟩
    simp [deliverTo, updateInbound, removeSink, present]

theorem bare_of_closes (running : connection.isClosed = false) {action : Action}
    (closing : action.closes = true) : Bare (connection.perform action).2 := by
  have bare := bare_close running
  cases action with
  | close => exact bare
  | endReader | endWriter => exact ⟨bare.sinks, bare.outbound⟩
  | _ => simp [Action.closes] at closing

/-- Whatever closes a connection empties it and resolves those who wait. -/
theorem settled_of_closes (wired : Wired connection) (running : connection.isClosed = false)
    {action : Action} (closing : action.closes = true) :
    Bare (connection.perform action).2 ∧ Resolved connection (connection.perform action).2 := by
  refine ⟨bare_of_closes running closing, ?_⟩
  have resolved := resolved_close wired running
  cases action with
  | close => exact resolved
  | endReader | endWriter => exact resolved.later (.of_inbox rfl)
  | _ => simp [Action.closes] at closing

/-! ## After the close -/

theorem Bare.find?_sinks (bare : Bare connection) (streamId : UInt64) :
    connection.sinks.find? streamId = none := by
  rw [bare.sinks]
  rfl

theorem Bare.find?_outbound (bare : Bare connection) (streamId : UInt64) :
    connection.outbound.find? streamId = none := by
  rw [bare.outbound]
  rfl

/-- Frames find nobody on a bare connection. -/
theorem drains_receive (bare : Bare connection) {frame : Frame}
    (settled : (Action.receive frame).mayAdd = false) :
    Drains connection (connection.receive frame).2 := by
  cases reading : connection.reads with
  | false =>
      rw [receive_stopped reading]
      exact .of_eq rfl rfl
  | true =>
      cases frame with
      | request mode streamId envelope => simp [Action.mayAdd] at settled
      | next streamId envelope =>
          have still : connection.receiveNext streamId envelope = connection := by
            rw [receiveNext, bare.find?_sinks]
          rw [receive_next reading, still]
          exact .of_eq rfl rfl
      | complete streamId =>
          rw [receive_complete reading]
          exact .of_eq rfl rfl
      | error streamId code text =>
          rw [receive_error reading, failSink_of_none (bare.find?_sinks streamId)]
          exact .of_eq rfl rfl
      | cancel streamId =>
          have still := cancelOutbound_of_none (bare.find?_outbound streamId)
          cases side : connection.role with
          | client =>
              rw [receive_cancel_client reading side, still]
              exact .of_eq rfl rfl
          | server =>
              rw [receive_cancel_server reading side, still]
              exact .of_eq rfl rfl
      | requestN streamId count =>
          rw [receive_requestN reading, receiveGrant, bare.find?_outbound]
          exact .of_eq rfl rfl

theorem drains_pullInbound (connection : Connection) (number : Nat) :
    Drains connection (connection.pullInbound number).2 := by
  rw [pullInbound]
  cases found : connection.inbound[number]? with
  | none => exact .of_eq rfl rfl
  | some stream =>
      have shortened {rest : List (Outcome Message)} {change : InboundStream → InboundStream}
          (suffix : rest <:+ stream.buffer) (changed : ∀ stream, (change stream).buffer = rest) :
          Drains connection (connection.updateInbound number change) := by
        refine drains_updateInbound connection number fun other present => ?_
        rw [found, Option.some.injEq] at present
        rw [changed, ← present]
        exact suffix
      simp only [replenish]
      split
      · exact .of_eq rfl rfl
      · split
        · rename_i message rest buffer
          have suffix : rest <:+ stream.buffer := buffer ▸ List.suffix_cons _ _
          split
          · exact (shortened suffix fun _ => rfl).trans (.of_inbox (inbox_post _ _))
          · exact shortened suffix fun _ => rfl
        · rename_i error rest buffer
          have suffix : rest <:+ stream.buffer := buffer ▸ List.suffix_cons _ _
          exact shortened suffix fun _ => rfl
        · split
          · exact .of_eq rfl rfl
          · exact drains_updateInbound connection number fun _ _ => List.suffix_refl _

theorem Bare.inbox_cancelSink (bare : Bare connection) (streamId : UInt64) :
    (connection.cancelSink streamId).inbox = connection.inbox := by
  rw [cancelSink, bare.find?_sinks]

/-- A stream that is opened on a closed connection ends where it begins. -/
theorem openStream_of_closed (wired : Wired connection) (closed : connection.isClosed = true)
    (mode : Mode) (message : Message) :
    ∃ error later, connection.openStream mode message = (.error error, later) ∧
      Thins connection later ∧ Drains connection later := by
  rcases openStream_cases wired mode message with
    ⟨error, _, equal⟩ | ⟨_, _, _, equal⟩ | ⟨_, _, running, _⟩
  · exact ⟨error, connection, equal, .of_eq (.refl _) rfl rfl, .of_eq rfl rfl⟩
  · exact ⟨_, _, equal, thins_pulling connection _ _,
      drains_append [] _ (List.append_nil _).symm rfl⟩
  · simp [closed] at running

/-- A call that is opened on a closed connection registers nothing and gives nobody anything: at most
there is one more receiver, at which nobody waits. -/
theorem opening_of_closed (wired : Wired connection) (closed : connection.isClosed = true)
    {action : Action} (opens : action.opensCall = true) :
    Thins connection (connection.perform action).2 ∧
      Drains connection (connection.perform action).2 := by
  cases action with
  | fireAndForget message =>
      have inbox := inbox_fireAndForget connection message
      exact ⟨.of_eq (extends_perform wired _).1 inbox (outbox_fireAndForget _ _), .of_inbox inbox⟩
  | requestResponse message =>
      rcases requestResponse_cases wired message with
        ⟨_, _, equal⟩ | ⟨_, _, _, equal⟩ | ⟨_, _, running, _⟩
      · simp only [perform, equal]
        exact ⟨.of_eq (.refl _) rfl rfl, .of_eq rfl rfl⟩
      · simp only [perform, equal]
        exact ⟨thins_awaiting connection _ _,
          drains_append _ [] rfl (List.append_nil _).symm⟩
      · simp [closed] at running
  | requestStream message =>
      rcases openStream_of_closed wired closed .requestStream message with ⟨error, later, equal, kept⟩
      simp only [perform, requestStream, equal]
      exact kept
  | requestChannel first =>
      rcases first with _ | _ | message
      · exact ⟨.of_eq (.refl _) rfl rfl, .of_eq rfl rfl⟩
      · exact ⟨.of_eq (.refl _) rfl rfl, .of_eq rfl rfl⟩
      · rcases openStream_of_closed wired closed .requestChannel message with
          ⟨error, later, equal, kept⟩
        simp only [perform, requestChannel_of_error equal]
        exact kept
  | _ => cases opens

/-- Nothing more comes for those who have waited. -/
theorem drains_perform (wired : Wired connection) (closed : connection.isClosed = true)
    (bare : Bare connection) (action : Action) :
    Drains connection (connection.perform action).2 := by
  cases action with
  | fireAndForget _ | requestResponse _ | requestStream _ | requestChannel _ =>
      exact (opening_of_closed wired closed rfl).2
  | pollReply number =>
      simp only [perform, pollReply]
      repeat' split
      all_goals first
        | exact .of_eq rfl rfl
        | exact drains_updateReply connection number fun _ => rfl
  | dropReply number =>
      simp only [perform, dropReply]
      repeat' split
      · exact .of_eq rfl rfl
      · exact .of_eq rfl rfl
      · exact (Drains.of_inbox (bare.inbox_cancelSink _)).trans
          (drains_updateReply _ number fun _ => rfl)
  | pullInbound number => exact drains_pullInbound connection number
  | dropInbound number =>
      have left (streamId : UInt64) : Drains connection
          ((connection.cancelSink streamId).updateInbound number
            (fun stream => { stream with isDone := true })) :=
        (Drains.of_inbox (bare.inbox_cancelSink _)).trans
          (drains_updateInbound _ number fun _ _ => List.suffix_refl _)
      simp only [perform, dropInbound]
      repeat' split
      · exact .of_eq rfl rfl
      · exact .of_eq rfl rfl
      · exact (left _).trans (.of_inbox (inbox_cancelOutbound _ _))
      · exact left _
  | takeCredit number => exact .of_inbox (inbox_takeCredit _ _)
  | produce number signal => exact .of_inbox (inbox_produce _ _ _)
  | respond number result => exact .of_inbox (inbox_respond _ _ _)
  | receive frame =>
      cases adds : (Action.receive frame).mayAdd with
      | false => exact drains_receive bare adds
      | true =>
          cases frame with
          | request mode streamId envelope =>
              simp only [perform]
              rcases receive_request_cases connection mode streamId envelope with
                equal | ⟨error, equal⟩ | ⟨_, _, message, equal⟩
              · rw [equal]
                exact .of_eq rfl rfl
              · rw [equal]
                exact .of_inbox (inbox_reject _ _ _ _)
              · rw [equal]
                cases mode with
                | requestChannel => exact drains_append [] _ (List.append_nil _).symm rfl
                | _ => exact .of_eq rfl rfl
          | _ => simp [Action.mayAdd, Action.opensCall] at adds
  | transmit => exact .of_inbox (inbox_write _)
  | close | endReader | endWriter =>
      have stays : connection.close.inbox = connection.inbox :=
        congrArg inbox (close_of_closed closed)
      exact .of_inbox stays

/-- Nothing is registered on a closed connection but by a request that comes late. -/
theorem thins_of_closed (wired : Wired connection) (closed : connection.isClosed = true)
    {action : Action} (early : ¬ Step.isLate ⟨connection, action⟩) :
    Thins connection (connection.perform action).2 := by
  have grown := (extends_perform wired action).1
  cases adds : action.mayAdd with
  | false => exact (narrows_perform connection adds).toThins
  | true =>
      cases action with
      | fireAndForget _ | requestResponse _ | requestStream _ | requestChannel _ =>
          exact (opening_of_closed wired closed rfl).1
      | receive frame =>
          cases frame with
          | request mode streamId envelope =>
              rcases receive_request_cases connection mode streamId envelope with
                equal | ⟨error, equal⟩ | ⟨_, _, message, equal⟩
              · exact .of_eq grown (by simp [perform, equal]) (by simp [perform, equal])
              · exact .of_eq grown (by simp [perform, equal, inbox_reject])
                  (by simp [perform, equal, outbox_reject])
              · have accepts := accepts_of_equal equal
                have silent : mode = .fireAndForget := by
                  by_contra answered
                  refine early ⟨closed, _, accepts, ?_⟩
                  cases mode <;> exact answered
                subst silent
                exact .of_eq grown (by simp [perform, equal, accept])
                  (by simp [perform, equal, accept])
          | _ => simp [Action.mayAdd, Action.opensCall] at adds
      | _ => simp [Action.mayAdd, Action.opensCall] at adds

theorem bare_perform (wired : Wired connection) (closed : connection.isClosed = true)
    (bare : Bare connection) {action : Action} (early : ¬ Step.isLate ⟨connection, action⟩) :
    Bare (connection.perform action).2 :=
  bare_of_thins (thins_of_closed wired closed early) bare

/-- A request that comes late is registered. -/
theorem not_bare_of_isLate {action : Action} (late : Step.isLate ⟨connection, action⟩) :
    ¬ Bare (connection.perform action).2 := by
  rcases late with ⟨_, call, accepts, answered⟩
  rcases accepted_of_observation accepts with ⟨streamId, envelope, rfl, reading, _⟩
  intro bare
  rcases receive_request_cases connection call.mode streamId envelope with
    equal | ⟨error, equal⟩ | ⟨_, _, message, equal⟩
  · simp [Step.observation, perform, equal] at accepts
  · simp [Step.observation, perform, equal] at accepts
  · have none_listed := bare.find?_outbound streamId
    simp only [perform, equal] at none_listed
    cases mode : call.mode with
    | fireAndForget => exact answered mode
    | _ => simp [mode, accept, startPump, startProducer, openRequests] at none_listed

end

/-! ## Runs -/

/-- A run has left a closed connection that keeps nothing: both tables are empty, and those who
waited when it was closed were told so. -/
structure KeepsNothing (start : Connection) (actions : List Action) : Prop
    extends Bare (start.after actions) where
  resolved : ∃ before closing between, actions = before ++ closing :: between ∧
    (start.after before).isClosed = false ∧ (start.after (before ++ [closing])).isClosed = true ∧
      Resolved (start.after before) (start.after actions)

section

variable (role : Role) (peer : String) (codec : MessageCodec) (config : Config)

theorem keepsNothing_after {actions : List Action}
    (early : ∀ step ∈ (spawn role peer codec config).history actions, ¬ step.isLate)
    (closed : ((spawn role peer codec config).after actions).isClosed = true) :
    KeepsNothing (spawn role peer codec config) actions := by
  induction actions using List.reverseRecOn with
  | nil => cases closed
  | append_singleton actions action induction =>
      have wired := wired_after (wired_spawn role peer codec config) actions
      rw [history_concat] at early
      have closedNow := closed
      rw [after_concat] at closed
      cases running : ((spawn role peer codec config).after actions).isClosed with
      | false =>
          have closing : action.closes = true := by
            by_contra calm
            rw [(calm_perform wired (Bool.not_eq_true _ ▸ calm)).2, running] at closed
            cases closed
          rcases settled_of_closes wired running closing with ⟨bare, resolved⟩
          rw [← after_concat] at bare resolved
          exact ⟨bare, actions, action, [], rfl, running, closedNow, resolved⟩
      | true =>
          have kept := induction (fun step member => early step (List.mem_append_left _ member))
            running
          have bare := bare_perform wired running kept.toBare
            (early _ (List.mem_append_right _ (List.mem_singleton.mpr rfl)))
          have drains := drains_perform wired running kept.toBare action
          rw [← after_concat] at bare drains
          rcases kept.resolved with ⟨before, closing, between, rfl, open_, shut, resolved⟩
          exact ⟨bare, before, closing, between ++ [action], by simp, open_, shut,
            resolved.later drains⟩

/-- A closed connection keeps nothing at any moment of a run, just if no request that gets an answer
was accepted after the close. -/
theorem closed_keeps_nothing_iff (actions : List Action) :
    (∀ first second, actions = first ++ second →
      ((spawn role peer codec config).after first).isClosed = true →
        KeepsNothing (spawn role peer codec config) first) ↔
      ∀ step ∈ (spawn role peer codec config).history actions, ¬ step.isLate := by
  constructor
  · intro keeps step member late
    rcases exists_of_mem_history member with ⟨first, second, rfl, there⟩
    have wired := wired_after (wired_spawn role peer codec config) first
    have closed : ((spawn role peer codec config).after (first ++ [step.action])).isClosed =
        true := by
      by_contra running
      rw [after_concat, Bool.not_eq_true] at running
      have before := ((extends_perform wired step.action).1.running running).1
      rw [there, late.1] at before
      cases before
    have bare := (keeps (first ++ [step.action]) second (by simp) closed).toBare
    rw [after_concat, there] at bare
    exact not_bare_of_isLate late bare
  · rintro early first second rfl closed
    refine keepsNothing_after role peer codec config (fun step member => early step ?_) closed
    rw [history_append]
    exact List.mem_append_left _ member

/-- Nothing comes late to a client. -/
theorem not_late_of_client {actions : List Action} {step : Step}
    (member : step ∈ (spawn .client peer codec config).history actions) : ¬ step.isLate := by
  rintro ⟨_, call, accepts, _⟩
  rcases accepted_of_observation accepts with ⟨streamId, envelope, request, reading, _⟩
  rcases exists_of_mem_history member with ⟨first, _, _, there⟩
  have client : step.before.role = .client := by
    rw [← there]
    exact (extends_after (wired_spawn .client peer codec config) first).role
  simp [Step.observation, perform, request, receive_request_client reading client] at accepts

/-- So a client always keeps nothing. -/
theorem closed_client_keeps_nothing {actions : List Action}
    (closed : ((spawn .client peer codec config).after actions).isClosed = true) :
    KeepsNothing (spawn .client peer codec config) actions :=
  keepsNothing_after .client peer codec config
    (fun _ member => not_late_of_client peer codec config member) closed

end

/-- A channel whose request the reader has taken off the wire when the connection is closed. -/
def lateRequest : List Action :=
  [.close, .receive (.request .requestChannel 1
    ⟨[], Utf8.encode "\x7b\"q\":\"Greeting/chat\"\x7d"⟩)]

/-- Not every closed connection keeps nothing: this one has the sink and the producer of a call that
nobody will ever end. -/
theorem lateRequest_kept :
    ((spawn .server "peer" (.ofRegistry .withJson) .standard).after lateRequest).isClosed = true ∧
      ((spawn .server "peer" (.ofRegistry .withJson) .standard).after lateRequest).sinks =
        [(1, .stream 0)] ∧
      ((spawn .server "peer" (.ofRegistry .withJson) .standard).after lateRequest).outbound =
        [(1, 0)] ∧
      ¬ KeepsNothing (spawn .server "peer" (.ofRegistry .withJson) .standard) lateRequest := by
  have sinks : ((spawn .server "peer" (.ofRegistry .withJson) .standard).after
      lateRequest).sinks = [(1, .stream 0)] := by
    decide +kernel
  refine ⟨by decide +kernel, sinks, by decide +kernel, fun keeps => ?_⟩
  have none_left := keeps.sinks
  rw [sinks] at none_left
  cases none_left

end Connection

end ServiceMesh
