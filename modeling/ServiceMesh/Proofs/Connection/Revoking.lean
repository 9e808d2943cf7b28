import ServiceMesh.Proofs.Connection.Cancelling
import ServiceMesh.Proofs.Connection.Closing

/-!
# When a call is cancelled

A cancellation is queued when the sink of a call goes away because whoever waits for its answers gives
up, or because a message of it cannot be read (`Step.Revokes`), and at no other time.  A sink that has
gone does not come back while every stream id is used once, so there is one cancellation for a call at
most, and none behind the end of it (`spent_of_ended`).

After the close there should be no sinks, but a request that is accepted on a closed connection gets
one, and giving it up is told to the peer.  All is well just if nobody gives up such a call
(`cancels_well_iff`), and somebody may (`lateDrop_cancelled`).
-/

namespace ServiceMesh.Connection

/-! ## Giving up -/

/-- A step takes the sink of a call away, because somebody gives the call up or cannot read a message
of it. -/
structure Step.Revokes (step : Step) (streamId : UInt64) : Prop where
  live : step.before.sinks.find? streamId ≠ none
  gone : step.after.sinks.find? streamId = none
  cancels : Cancels step.before streamId step.action

section

variable {connection : Connection} {action : Action} {streamId : UInt64}

theorem find?_sinks_cancelSink (connection : Connection) (streamId : UInt64) :
    (connection.cancelSink streamId).sinks.find? streamId = none := by
  rw [cancelSink_eq]
  simp [removeSink]

theorem sinks_cancelOutbound (connection : Connection) (streamId : UInt64) :
    (connection.cancelOutbound streamId).sinks = connection.sinks :=
  congrArg Prod.fst (inbox_cancelOutbound connection streamId)

theorem gone_of_unreadable {envelope : Envelope} {error : CallError}
    (reading : connection.reads = true) (fails : connection.codec.decode envelope = .error error) :
    (connection.perform (.receive (.next streamId envelope))).2.sinks.find? streamId = none := by
  simp only [perform, Prod.map_snd, receive_next reading, receiveNext, fails]
  cases found : connection.sinks.find? streamId with
  | none => exact found
  | some sink =>
      cases sink <;> simp only [id, post_eq] <;>
        exact find?_sinks_failSink connection streamId error

/-- Giving up a call cancels it, if it has a sink, and takes this away; but giving up a reply that has
been taken does nothing. -/
theorem cancels_cases (cancels : Cancels connection streamId action) :
    (connection.sends action = connection.cancelFrames streamId ∧
        (connection.perform action).2.sinks.find? streamId = none) ∨
      (connection.sends action = [] ∧ (connection.perform action).2 = connection) := by
  cases cancels with
  | @reply number reply present carries =>
      cases finished : reply.isFinished with
      | true =>
          exact .inr ⟨by simp [sends, present, finished], by
            simp [perform, dropReply, present, finished]⟩
      | false =>
          refine .inl ⟨by simp [sends, present, finished, carries], ?_⟩
          simp only [perform, dropReply, present, finished, carries]
          exact find?_sinks_cancelSink connection streamId
  | @stream number stream present carries waits =>
      refine .inl ⟨by simp [sends, present, waits, carries], ?_⟩
      simp only [perform, dropInbound, present, waits, carries, Bool.false_eq_true, if_false]
      split
      · rw [sinks_cancelOutbound]
        exact find?_sinks_cancelSink connection streamId
      · exact find?_sinks_cancelSink connection streamId
  | @message envelope error reading fails =>
      exact .inl ⟨by simp [sends, answersTo, reading, fails], gone_of_unreadable reading fails⟩

/-- A cancellation is sent just if a call is revoked. -/
theorem cancel_mem_sends_iff :
    .cancel streamId ∈ connection.sends action ↔
      Step.Revokes ⟨connection, action⟩ streamId := by
  constructor
  · intro sends
    have cancels := cancels_of_mem_sends sends
    rcases cancels_cases cancels with ⟨equal, gone⟩ | ⟨equal, -⟩
    · rw [equal] at sends
      exact ⟨(mem_cancelFrames sends).1, gone, cancels⟩
    · rw [equal] at sends
      cases sends
  · intro revokes
    rcases cancels_cases revokes.cancels with ⟨equal, -⟩ | ⟨-, same⟩
    · rw [equal, cancelFrames, if_neg revokes.live]
      exact List.mem_singleton_self _
    · exact (revokes.live ((congrArg (fun later => later.sinks.find? streamId) same).symm.trans
        revokes.gone)).elim

end

/-! ## Sinks that have gone -/

/-- A step after which nothing more comes for a call: the answer or the end of it was taken, or a
message of it could not be read, or the connection was closed. -/
inductive Step.Ends (step : Step) (streamId : UInt64) : Prop where
  /-- The regular end. -/
  | complete (takes : step.taken = some (.complete streamId))
  /-- An error. -/
  | error {code : UInt16} {text : String} (takes : step.taken = some (.error streamId code text))
  /-- The one response of a call that waits for a reply. -/
  | response {envelope : Envelope} {reply : PendingReply}
      (takes : step.taken = some (.next streamId envelope)) (asked : reply ∈ step.before.replies)
      (carries : reply.streamId = streamId)
  /-- A message that cannot be read. -/
  | unreadable {envelope : Envelope} {error : CallError}
      (takes : step.taken = some (.next streamId envelope))
      (fails : step.before.codec.decode envelope = .error error)
  /-- The peer of a server has cancelled the call. -/
  | cancelled (takes : step.taken = some (.cancel streamId)) (serves : step.before.role = .server)
  /-- The close. -/
  | closed (running : step.before.isClosed = false) (closes : step.after.isClosed = true)

section

variable {connection : Connection} {action : Action} {streamId : UInt64}

/-- A sink comes to be with the step that claims its id. -/
theorem claimed_of_registered (wired : Wired connection)
    (absent : connection.sinks.find? streamId = none)
    (present : (connection.perform action).2.sinks.find? streamId ≠ none) :
    Step.claimed ⟨connection, action⟩ = some streamId := by
  by_cases concerned : ConcernsInbox connection streamId action
  · cases adds : action.mayAdd with
    | false =>
        rcases Option.ne_none_iff_exists'.mp present with ⟨sink, found⟩
        rw [(narrows_perform connection adds).sinks streamId sink found] at absent
        cases absent
    | true =>
        rcases inbox_perform wired action with
          nothing | ⟨opened, _, reply⟩ | ⟨opened, _, _, stream⟩
        · have same := congrArg Prod.fst (nothing.inbox adds)
          exact (present ((congrArg (Table.find? · streamId) same).trans absent)).elim
        · exact reply.origin.eq_of_concerned concerned ▸ reply.origin.claimed
        · exact stream.origin.eq_of_concerned concerned ▸ stream.origin.claimed
  · exact (present ((keepsInbox_perform wired concerned).sink.trans absent)).elim

theorem action_of_taken {frame : Frame} (takes : Step.taken ⟨connection, action⟩ = some frame) :
    action = .receive frame ∧ connection.reads = true := by
  cases action with
  | receive arrived =>
      simp only [Step.taken, Option.ite_none_right_eq_some, Option.some.injEq] at takes
      exact ⟨congrArg _ takes.2, takes.1⟩
  | _ => cases takes

/-- A call that waits for one response is over with the first message. -/
theorem gone_of_response (wired : Wired connection) (apart : connection.receiverIds.Nodup)
    {envelope : Envelope} (reading : connection.reads = true) {reply : PendingReply}
    (asked : reply ∈ connection.replies) (carries : reply.streamId = streamId) :
    (connection.perform (.receive (.next streamId envelope))).2.sinks.find? streamId = none := by
  cases decodes : connection.codec.decode envelope with
  | error error => exact gone_of_unreadable reading decodes
  | ok message =>
      simp only [perform, Prod.map_snd, receive_next reading, receiveNext, decodes]
      cases found : connection.sinks.find? streamId with
      | none => exact found
      | some sink =>
          cases sink with
          | reply number => simp [deliverTo, updateReply, removeSink]
          | stream number =>
              rcases wired.stream streamId number found with ⟨stream, present, same⟩
              exact (((List.nodup_append.mp apart).2.2 _ (List.mem_map_of_mem asked) _
                (List.mem_map_of_mem (List.mem_of_getElem? present)))
                  (carries.trans same.symm)).elim

/-- The close leaves no sinks. -/
theorem bare_of_closed (wired : Wired connection) (running : connection.isClosed = false)
    (closes : (connection.perform action).2.isClosed = true) :
    Bare (connection.perform action).2 := by
  have closing : action.closes = true := by
    by_contra calm
    rw [(calm_perform wired (Bool.not_eq_true _ ▸ calm)).2, running] at closes
    cases closes
  exact (settled_of_closes wired running closing).1

/-- Once a call has ended there is no sink for it. -/
theorem gone_of_ends (wired : Wired connection) (apart : connection.receiverIds.Nodup)
    (ends : Step.Ends ⟨connection, action⟩ streamId) :
    (connection.perform action).2.sinks.find? streamId = none := by
  cases ends with
  | complete takes =>
      rcases action_of_taken takes with ⟨rfl, reading⟩
      simp [perform, receive_complete reading, removeSink]
  | error takes =>
      rcases action_of_taken takes with ⟨rfl, reading⟩
      simp [perform, receive_error reading, find?_sinks_failSink]
  | response takes asked carries =>
      rcases action_of_taken takes with ⟨rfl, reading⟩
      exact gone_of_response wired apart reading asked carries
  | unreadable takes fails =>
      rcases action_of_taken takes with ⟨rfl, reading⟩
      exact gone_of_unreadable reading fails
  | cancelled takes serves =>
      rcases action_of_taken takes with ⟨rfl, reading⟩
      simp [perform, receive_cancel_server reading serves, removeSink]
  | closed running closes =>
      exact (bare_of_closed wired running closes).find?_sinks streamId

end

/-! ## Runs -/

/-- A run in which a call was opened and has ended since. -/
def Ended (start : Connection) (actions : List Action) (streamId : UInt64) : Prop :=
  ∃ early action late, actions = early ++ action :: late ∧
    streamId ∈ claimed (start.history early) ∧ Step.Ends ⟨start.after early, action⟩ streamId

/-- A run in which a call was opened and has no sink any more. -/
structure Spent (start : Connection) (actions : List Action) (streamId : UInt64) : Prop where
  opened : streamId ∈ claimed (start.history actions)
  gone : (start.after actions).sinks.find? streamId = none

section

variable {start : Connection} {actions : List Action} {streamId : UInt64}

theorem once_of_append {first second : List Action}
    (once : (claimed (start.history (first ++ second))).Nodup) :
    (claimed (start.history first)).Nodup := by
  rw [history_append, claimed_append] at once
  exact (List.nodup_append.mp once).1

/-- The id of a sink was claimed. -/
theorem claimed_of_live (wired : Wired start)
    (claims : Claims (start.history actions) (start.after actions))
    (live : (start.after actions).sinks.find? streamId ≠ none) :
    streamId ∈ claimed (start.history actions) := by
  have wiredNow := wired_after wired actions
  rcases Option.ne_none_iff_exists'.mp live with ⟨number | number, found⟩
  · rcases wiredNow.reply _ _ found with ⟨reply, present, carries⟩
    exact claims.receivers _ (carries ▸ mem_receiverIds_of_reply present)
  · rcases wiredNow.stream _ _ found with ⟨stream, present, carries⟩
    exact claims.receivers _ (carries ▸ mem_receiverIds_of_stream present)

/-- A sink that has gone does not come back. -/
theorem Spent.concat (spent : Spent start actions streamId) (wired : Wired start)
    {action : Action} (once : (claimed (start.history (actions ++ [action]))).Nodup) :
    Spent start (actions ++ [action]) streamId := by
  rw [history_concat, nodup_claimed_concat] at once
  constructor
  · rw [history_concat, claimed_concat]
    exact List.mem_append_left _ spent.opened
  · rw [after_concat]
    by_contra present
    have claims := claimed_of_registered (wired_after wired actions) spent.gone present
    exact once.2 _ claims spent.opened

theorem Spent.append (spent : Spent start actions streamId) (wired : Wired start)
    {later : List Action} (once : (claimed (start.history (actions ++ later))).Nodup) :
    Spent start (actions ++ later) streamId := by
  induction later using List.reverseRecOn with
  | nil => rwa [List.append_nil]
  | append_singleton later action induction =>
      rw [← List.append_assoc] at once ⊢
      exact (induction (once_of_append once)).concat wired once

/-- A step that takes the sink of a call away. -/
theorem spent_of_gone {action : Action} (claims : streamId ∈ claimed (start.history actions))
    (gone : ((start.after actions).perform action).2.sinks.find? streamId = none) :
    Spent start (actions ++ [action]) streamId := by
  constructor
  · rw [history_concat, claimed_concat]
    exact List.mem_append_left _ claims
  · rw [after_concat]
    exact gone

/-- A call that has ended has no sink any more. -/
theorem spent_of_ended (wired : Wired start)
    (claims : ∀ actions, Claims (start.history actions) (start.after actions))
    (once : (claimed (start.history actions)).Nodup) (ended : Ended start actions streamId) :
    Spent start actions streamId := by
  rcases ended with ⟨early, action, late, rfl, opened, ends⟩
  have gone := gone_of_ends (wired_after wired early)
    ((claims early).apart (once_of_append once)).1 ends
  rw [List.append_cons] at once ⊢
  exact (spent_of_gone opened gone).append wired once

theorem cancel_mem_posted (wired : Wired start) {action : Action}
    (posts : .cancel streamId ∈ Step.posted ⟨start.after actions, action⟩) :
    Step.Revokes ⟨start.after actions, action⟩ streamId := by
  have wiredNow := wired_after wired actions
  rw [Step.posted_eq wiredNow, admitted] at posts
  split at posts
  · exact cancel_mem_sends_iff.mp posts
  · cases posts

/-- Neither has a call that was cancelled. -/
theorem spent_of_cancelled (wired : Wired start)
    (claims : ∀ actions, Claims (start.history actions) (start.after actions))
    (once : (claimed (start.history actions)).Nodup)
    (posts : .cancel streamId ∈ posted (start.history actions)) :
    Spent start actions streamId := by
  induction actions using List.reverseRecOn with
  | nil => cases posts
  | append_singleton actions action induction =>
      rw [history_concat, posted_concat, List.mem_append] at posts
      rcases posts with before | now
      · exact (induction (once_of_append once) before).concat wired once
      · have revokes := cancel_mem_posted wired now
        exact spent_of_gone (claimed_of_live wired (claims actions) revokes.live) revokes.gone

/-- What is given up posts one cancellation at most. -/
theorem count_cancel_le (wired : Wired start) (action : Action) :
    (Step.posted ⟨start.after actions, action⟩).count (.cancel streamId) ≤ 1 := by
  have wiredNow := wired_after wired actions
  by_cases posts : .cancel streamId ∈ Step.posted ⟨start.after actions, action⟩
  · have revokes := cancel_mem_posted wired posts
    rw [Step.posted_eq wiredNow, admitted]
    rcases cancels_cases revokes.cancels with ⟨equal, -⟩ | ⟨equal, -⟩
    · rw [equal, cancelFrames, if_neg revokes.live]
      split <;> simp
    · simp [equal]
  · rw [List.count_eq_zero.mpr posts]
    exact Nat.zero_le 1

/-- A call is cancelled once at most. -/
theorem count_cancel_posted_le (wired : Wired start)
    (claims : ∀ actions, Claims (start.history actions) (start.after actions))
    (once : (claimed (start.history actions)).Nodup) :
    (posted (start.history actions)).count (.cancel streamId) ≤ 1 := by
  induction actions using List.reverseRecOn with
  | nil => exact Nat.zero_le 1
  | append_singleton actions action induction =>
      have early := once_of_append once
      rw [history_concat, posted_concat, List.count_append]
      by_cases posts : .cancel streamId ∈ Step.posted ⟨start.after actions, action⟩
      · have none_before : .cancel streamId ∉ posted (start.history actions) := fun before =>
          (cancel_mem_posted wired posts).live (spent_of_cancelled wired claims early before).gone
        rw [List.count_eq_zero.mpr none_before, Nat.zero_add]
        exact count_cancel_le wired action
      · rw [List.count_eq_zero.mpr posts]
        exact induction early

/-- The sinks of a closed connection belong to requests that came late. -/
theorem late_of_live (wired : Wired start) (running : start.isClosed = false)
    (closed : (start.after actions).isClosed = true)
    (live : (start.after actions).sinks.find? streamId ≠ none) :
    ∃ late ∈ start.history actions, late.isLate ∧ late.claimed = some streamId := by
  induction actions using List.reverseRecOn with
  | nil =>
      rw [after_nil, running] at closed
      cases closed
  | append_singleton actions action induction =>
      have wiredNow := wired_after wired actions
      rw [after_concat] at closed live
      rw [history_concat]
      cases before : (start.after actions).isClosed with
      | false =>
          exact (live ((bare_of_closed wiredNow before closed).find?_sinks streamId)).elim
      | true =>
          by_cases there : (start.after actions).sinks.find? streamId = none
          · refine ⟨_, List.mem_append_right _ (List.mem_singleton_self _), ?_,
              claimed_of_registered wiredNow there live⟩
            by_contra early
            rcases Option.ne_none_iff_exists'.mp live with ⟨sink, found⟩
            rw [(thins_of_closed wiredNow before early).sinks _ sink found] at there
            cases there
          · rcases induction before there with ⟨late, member, facts⟩
            exact ⟨late, List.mem_append_left _ member, facts⟩

end

/-! ## Main result -/

/-- A run cancels each call at most once, and only as long as this tells the peer something. -/
structure CancelsWell (start : Connection) (actions : List Action) : Prop where
  /-- No call is cancelled twice. -/
  once : ∀ streamId, (posted (start.history actions)).count (.cancel streamId) ≤ 1
  /-- A call is cancelled when its sink is taken away by whoever gives it up, or because of a message
  that cannot be read, and at no other time. -/
  exact : ∀ step ∈ start.history actions, ∀ streamId,
    .cancel streamId ∈ step.posted ↔ step.Revokes streamId
  /-- A call that has ended is not cancelled. -/
  final : ∀ first action second, actions = first ++ action :: second →
    ∀ streamId, Ended start first streamId →
      .cancel streamId ∉ Step.posted ⟨start.after first, action⟩
  /-- Nor is any call once the connection is closed. -/
  closed : ∀ step ∈ start.history actions, step.before.isClosed = true →
    ∀ streamId, .cancel streamId ∉ step.posted
  /-- Giving up a call that has ended sends nothing, whether or not its end was seen. -/
  unread : ∀ first action second, actions = first ++ action :: second →
    ∀ streamId, Ended start first streamId → Cancels (start.after first) streamId action →
      Step.posted ⟨start.after first, action⟩ = []

section

variable {start : Connection} {actions : List Action}

/-- If nobody gives up a call that came late, all calls are cancelled as they should. -/
theorem cancelsWell_of_kept (wired : Wired start)
    (claims : ∀ actions, Claims (start.history actions) (start.after actions))
    (running : start.isClosed = false) (once : (claimed (start.history actions)).Nodup)
    (kept : ∀ late ∈ start.history actions, late.isLate →
      ∀ streamId, late.claimed = some streamId →
        ∀ step ∈ start.history actions, ¬ step.Revokes streamId) :
    CancelsWell start actions := by
  have calm : ∀ step ∈ start.history actions, step.before.isClosed = true →
      ∀ streamId, ¬ step.Revokes streamId := by
    intro step member closed streamId revokes
    rcases exists_of_mem_history member with ⟨first, second, split, there⟩
    have closedThere : (start.after first).isClosed = true := by rw [there, closed]
    have live : (start.after first).sinks.find? streamId ≠ none := by
      rw [there]
      exact revokes.live
    rcases late_of_live wired running closedThere live with ⟨late, early, comes, claimsIt⟩
    refine kept late ?_ comes streamId claimsIt step member revokes
    rw [split, history_append]
    exact List.mem_append_left _ early
  have posts : ∀ step ∈ start.history actions, ∀ streamId,
      .cancel streamId ∈ step.posted ↔ step.Revokes streamId := by
    intro step member streamId
    rcases wired_of_mem_history wired member with ⟨wiredNow, -, -⟩
    rw [Step.posted_eq wiredNow, ← cancel_mem_sends_iff, admitted]
    cases closed : step.before.isClosed with
    | true =>
        have nothing : .cancel streamId ∉ step.before.sends step.action := fun sends =>
          calm step member closed streamId (cancel_mem_sends_iff.mp sends)
        split
        · rfl
        · exact iff_of_false List.not_mem_nil nothing
    | false => rw [if_pos (wiredNow.writing closed)]
  have ends : ∀ first action second, actions = first ++ action :: second →
      ∀ streamId, Ended start first streamId →
        (start.after first).sinks.find? streamId = none := by
    rintro first action second rfl streamId ended
    exact (spent_of_ended wired claims (once_of_append once) ended).gone
  exact
    { once := fun streamId => count_cancel_posted_le wired claims once
      exact := posts
      final := fun first action second split streamId ended sends =>
        (cancel_mem_posted wired sends).live (ends first action second split streamId ended)
      closed := fun step member closed streamId sends =>
        calm step member closed streamId ((posts step member streamId).mp sends)
      unread := by
        intro first action second split streamId ended cancels
        have gone := ends first action second split streamId ended
        rw [Step.posted_eq (wired_after wired first), admitted]
        have nothing : (start.after first).sends action = [] := by
          rcases cancels_cases cancels with ⟨equal, -⟩ | ⟨equal, -⟩
          · rw [equal, cancelFrames, if_pos gone]
          · exact equal
        rw [nothing, ite_self] }

/-- Whoever gives up a call that came late cancels it behind the close. -/
theorem kept_of_cancelsWell (wired : Wired start)
    (claims : ∀ actions, Claims (start.history actions) (start.after actions))
    (once : (claimed (start.history actions)).Nodup) (well : CancelsWell start actions)
    {late : Step} (among : late ∈ start.history actions) (comes : late.isLate)
    {streamId : UInt64} (claimsIt : late.claimed = some streamId) {step : Step}
    (member : step ∈ start.history actions) : ¬ step.Revokes streamId := by
  intro revokes
  rcases exists_of_mem_history member with ⟨first, second, rfl, there⟩
  have opened : streamId ∈ claimed (start.history first) :=
    claimed_of_live wired (claims first) (by rw [there]; exact revokes.live)
  refine well.closed step member ?_ streamId ((well.exact step member streamId).mpr revokes)
  rw [history_append, claimed_append, List.nodup_append] at once
  rw [history_append, List.mem_append] at among
  rcases among with early | later
  · rcases wired_of_mem_history wired early with ⟨wiredThen, -, toNow⟩
    have grown := (extends_perform wiredThen late.action).1.trans toNow
    by_contra running
    rw [Bool.not_eq_true, ← there] at running
    have closed := comes.1
    rw [(grown.running running).1] at closed
    cases closed
  · exact (once.2.2 _ opened _ (List.mem_filterMap.mpr ⟨late, later, claimsIt⟩) rfl).elim

end

section

variable (peer : String) (codec : MessageCodec) (config : Config)

/-- A client cancels its calls as it should. -/
theorem client_cancels_well {actions : List Action} (few : calls actions < 2 ^ 63) :
    CancelsWell (spawn .client peer codec config) actions := by
  refine cancelsWell_of_kept (wired_spawn .client peer codec config)
    (claims_after .client peer codec config) rfl (nodup_claimed_of_calls peer codec config few) ?_
  intro late member comes
  exact (not_late_of_client peer codec config member comes).elim

end

section

variable (role : Role) (peer : String) (codec : MessageCodec) (config : Config)

/-- Calls are cancelled at most once, and never behind their end or the close, just if nobody gives up
a call whose request was accepted behind the close. -/
theorem cancels_well_iff {actions : List Action}
    (once : (claimed ((spawn role peer codec config).history actions)).Nodup) :
    CancelsWell (spawn role peer codec config) actions ↔
      ∀ late ∈ (spawn role peer codec config).history actions, late.isLate →
        ∀ streamId, late.claimed = some streamId →
          ∀ step ∈ (spawn role peer codec config).history actions, ¬ step.Revokes streamId := by
  have wired := wired_spawn role peer codec config
  have claims := claims_after role peer codec config
  exact ⟨fun well _ among comes _ claimsIt _ member =>
      kept_of_cancelsWell wired claims once well among comes claimsIt member,
    cancelsWell_of_kept wired claims rfl once⟩

end

/-- A server takes a channel whose handler gives up the requests before the connection is closed. -/
def droppedRequests : List Action :=
  [.receive (.request .requestChannel 1 ⟨[], Utf8.encode "\x7b\"q\":\"Greeting/chat\"\x7d"⟩),
    .dropInbound 0, .close]

theorem droppedRequests_cancels_well :
    (claimed ((spawn .server "peer" (.ofRegistry .withJson) .standard).history
        droppedRequests)).Nodup ∧
      posted ((spawn .server "peer" (.ofRegistry .withJson) .standard).history
        droppedRequests) = [.cancel 1] ∧
      CancelsWell (spawn .server "peer" (.ofRegistry .withJson) .standard) droppedRequests := by
  have once : (claimed ((spawn .server "peer" (.ofRegistry .withJson) .standard).history
      droppedRequests)).Nodup := by
    decide +kernel
  have running : ∀ step ∈ (spawn .server "peer" (.ofRegistry .withJson) .standard).history
      droppedRequests, step.before.isClosed = false := by
    decide +kernel
  refine ⟨once, by decide +kernel, (cancels_well_iff _ _ _ _ once).mpr ?_⟩
  intro late member comes
  have closed := comes.1
  rw [running late member] at closed
  cases closed

/-- The handler of a channel whose request was taken before the close gives up the requests behind
it. -/
def lateDrop : List Action := lateRequest ++ [.dropInbound 0]

/-- Not all calls are cancelled as they should: this one is cancelled on a closed connection. -/
theorem lateDrop_cancelled :
    (claimed ((spawn .server "peer" (.ofRegistry .withJson) .standard).history
        lateDrop)).Nodup ∧
      ((spawn .server "peer" (.ofRegistry .withJson) .standard).after lateRequest).isClosed =
        true ∧
      .cancel 1 ∈ Step.posted ⟨(spawn .server "peer" (.ofRegistry .withJson) .standard).after
        lateRequest, .dropInbound 0⟩ ∧
      ¬ CancelsWell (spawn .server "peer" (.ofRegistry .withJson) .standard) lateDrop := by
  have closed : ((spawn .server "peer" (.ofRegistry .withJson) .standard).after
      lateRequest).isClosed = true := by
    decide +kernel
  have posts : .cancel 1 ∈ Step.posted ⟨(spawn .server "peer" (.ofRegistry .withJson)
      .standard).after lateRequest, .dropInbound 0⟩ := by
    decide +kernel
  refine ⟨by decide +kernel, closed, posts, fun well => ?_⟩
  refine well.closed _ ?_ closed 1 posts
  rw [lateDrop, history_append]
  exact List.mem_append_right _ List.mem_cons_self

end ServiceMesh.Connection
