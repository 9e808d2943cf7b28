import ServiceMesh.Proofs.Cache.Sharing
import ServiceMesh.ServiceCall.Traffic

/-!
# Calls under way

What holds of the calls under way after events in any order (`orderly_after`): a call is answered over
a connection that an attempt has made to its address, and each error that comes over this connection,
and nothing else, is marked as a failure (`Reports`).  To the cache and its callers the calls are
nothing but more events (`session_after`).  A call that is made with nothing in between takes the same
way (`answer_alone`).
-/

namespace ServiceMesh.ServiceCall

variable {ε χ ω : Type}

/-! ## Marks of failures -/

/-- The failures among marks. -/
def failures (marks : List (CallMark ε χ)) : List (Remote χ × CallError) :=
  marks.filterMap fun
    | .note _ => none
    | .failure remote error => some (remote, error)

/-- What is a failure of a call: an error that comes over a connection. -/
def failuresOf (remote : Option (Remote χ)) {α : Type} :
    Signal (Outcome α) → List (Remote χ × CallError)
  | .item (.error error) => remote.toList.map (fun remote => (remote, error))
  | _ => []

/-- Every pull marks its failure, and nothing else, as one. -/
def Reports (remote : Option (Remote χ)) {α : Type}
    (results : Source (CallMark ε χ) (Outcome α)) : Prop :=
  ∀ state, failures (results.pull state).marks = failuresOf remote (results.pull state).signal

@[simp]
theorem failures_append (first second : List (CallMark ε χ)) :
    failures (first ++ second) = failures first ++ failures second :=
  List.filterMap_append

@[simp]
theorem failures_notes (marks : List ε) :
    failures (marks.map (.note : ε → CallMark ε χ)) = [] := by
  induction marks with
  | nil => rfl
  | cons mark marks induction => exact induction

@[simp]
theorem failures_failureMarks {α : Type} (remote : Remote χ) (outcome : Outcome α) :
    failures (failureMarks remote outcome : List (CallMark ε χ)) =
      failuresOf (some remote) (.item outcome) := by
  cases outcome <;> rfl

@[simp]
theorem failuresOf_none {α : Type} (signal : Signal (Outcome α)) :
    failuresOf (none : Option (Remote χ)) signal = [] := by
  cases signal with
  | item outcome => cases outcome <;> rfl
  | _ => rfl

@[simp]
theorem failuresOf_map (remote : Option (Remote χ)) {α β : Type} (give : α → β)
    (signal : Signal (Outcome α)) :
    failuresOf remote (signal.map (fun outcome => outcome.map give)) =
      failuresOf remote signal := by
  cases signal with
  | item outcome => cases outcome <;> rfl
  | _ => rfl

theorem Reports.map {remote : Option (Remote χ)} {α β : Type}
    {results : Source (CallMark ε χ) (Outcome α)} (reports : Reports remote results)
    (give : α → β) :
    Reports remote (results.map (fun outcome => outcome.map give)) := by
  intro state
  exact (reports state).trans (failuresOf_map remote give _).symm

/-- One result reports as a stream if its own marks do. -/
theorem reports_source {remote : Option (Remote χ)} {α : Type}
    {reply : Reply (CallMark ε χ) (Outcome α)}
    (reports : failures reply.marks = failuresOf remote reply.conclusion.signal) :
    Reports remote reply.source := by
  intro state
  cases state with
  | false => exact reports
  | true => cases conclusion : reply.conclusion <;> simp [Reply.source, conclusion,
      Conclusion.remainder, failures, failuresOf]

/-- What is noted by others is no failure. -/
theorem reports_mapMarks {α : Type} (results : Source ε (Outcome α)) :
    Reports none (results.mapMarks (.note : ε → CallMark ε χ)) := by
  intro state
  rw [failuresOf_none]
  exact failures_notes _

theorem reports_afterMarks {α : Type} {results : Source (CallMark ε χ) (Outcome α)}
    (reports : Reports none results) (marks : List ε) :
    Reports none (results.afterMarks (marks.map .note)) := by
  rintro ⟨isStarted, state⟩
  have inner := reports state
  rw [failuresOf_none] at inner ⊢
  cases isStarted <;> simp [Source.afterMarks, Turn.after, Turn.mapState, inner]

theorem reports_failed {α : Type} (error : CallError) :
    Reports none (Source.failed error : Source (CallMark ε χ) (Outcome α)) := by
  intro state
  rw [failuresOf_none]
  cases state <;> rfl

/-- The one result of a call over a connection is reported. -/
theorem reports_observed {α : Type} (remote : Remote χ) (reply : Reply ε (Outcome α)) :
    Reports (some remote) (observed remote reply).source := by
  apply reports_source
  cases conclusion : reply.conclusion with
  | done outcome =>
      simp [observed, Reply.inspect, Reply.andThen, Reply.mapMarks, conclusion, Reply.noting,
        Conclusion.signal]
  | _ =>
      simp [observed, Reply.inspect, Reply.andThen, Reply.mapMarks, conclusion,
        Conclusion.signal, failuresOf]

/-- The results of a call over a connection are reported. -/
theorem reports_observedStream (remote : Remote χ) (responses : Source ε (Outcome Message)) :
    Reports (some remote) (observedStream remote responses) := by
  intro state
  simp only [observedStream, Source.inspect, Source.mapMarks, Turn.mapMarks]
  cases signal : (responses.pull state).signal <;> simp [failuresOf]

namespace Request

theorem reports_refused (request : Request ε) (error : CallError) :
    Reports none (request.refused error : Answers ε χ).results := by
  cases request with
  | fireAndForget message => exact (reports_source rfl).map _
  | requestResponse message => exact (reports_source rfl).map _
  | requestStream message => exact (reports_failed error).map _
  | requestChannel freshId first others =>
      exact (reports_afterMarks (reports_failed error) others.farewell).map _

theorem reports_served (request : Request ε) (dispatcher : Dispatcher ε) :
    Reports none (request.served dispatcher : Answers ε χ).results := by
  have noted {α : Type} (reply : Reply ε (Outcome α)) :
      Reports none (reply.mapMarks (.note : ε → CallMark ε χ)).source :=
    reports_source ((failures_notes reply.marks).trans (failuresOf_none _).symm)
  cases request with
  | fireAndForget message => exact (noted _).map _
  | requestResponse message => exact (noted _).map _
  | requestStream message => exact (reports_mapMarks _).map _
  | requestChannel freshId first others => exact (reports_mapMarks _).map _

theorem reports_sent (request : Request ε) (transport : Transport ε χ ω) (remote : Remote χ) :
    Reports (some remote) (request.sent transport remote).results := by
  cases request with
  | fireAndForget message => exact (reports_observed remote _).map _
  | requestResponse message => exact (reports_observed remote _).map _
  | requestStream message => exact (reports_observedStream remote _).map _
  | requestChannel freshId first others => exact (reports_observedStream remote _).map _

end Request

/-! ## The cache -/

/-- Some attempt has made a connection. -/
def Made (cache : Cache χ) (remote : Remote χ) : Prop :=
  ∃ generation, (cache.attempts[generation]?).map Attempt.address = some remote.address ∧
    cache.outcome? generation = some (.ok remote.channel)

theorem Made.grows {first second : Cache χ} {remote : Remote χ} (made : Made first remote)
    (grows : Cache.Grows first second) : Made second remote := by
  rcases made with ⟨generation, own, ended⟩
  exact ⟨generation, grows.owner own, grows.outcome? ended⟩

/-- The results of a call fit its connection. -/
structure Fits (cache : Cache χ) (remote : Option (Remote χ)) (results : Results ε χ) : Prop where
  reports : Reports remote results
  made : ∀ carrier, remote = some carrier → Made cache carrier

theorem Fits.grows {first second : Cache χ} {remote : Option (Remote χ)} {results : Results ε χ}
    (fits : Fits first remote results) (grows : Cache.Grows first second) :
    Fits second remote results :=
  ⟨fits.reports, fun carrier same => (fits.made carrier same).grows grows⟩

/-- A call waits on, or it goes on and its results fit. -/
theorem proceed_cases {session : Cache.Session χ} (kept : Cache.Kept session)
    (exchange : Exchange ε χ ω) :
    exchange.proceed session = exchange ∨
      ∃ remote results, exchange.proceed session = .answering remote results ∧
        Fits session.cache remote results := by
  cases exchange with
  | answering remote results => exact .inl rfl
  | connecting caller transport request =>
      simp only [Exchange.proceed]
      split
      · rename_i address generation isFirst channel present
        have member := List.mem_of_getElem? present
        have own := kept.owner _ (List.mem_map_of_mem (f := Cache.Caller.ticket) member)
        refine .inr ⟨_, _, rfl, request.reports_sent transport _, ?_⟩
        rintro carrier ⟨⟩
        exact ⟨generation, own, kept.given _ member _ rfl⟩
      · exact .inr ⟨_, _, rfl, request.reports_refused _, nofun⟩
      · exact .inl rfl

/-- The results of the calls fit their connections. -/
structure Traffic.Orderly (traffic : Traffic ε χ ω) : Prop where
  kept : Cache.Kept traffic.session
  fits : ∀ remote results, .answering remote results ∈ traffic.exchanges →
    Fits traffic.cache remote results

theorem Traffic.orderly_start : (start : Traffic ε χ ω).Orderly :=
  ⟨Cache.kept_start, nofun⟩

/-- To the cache an error is the removal of a channel, or nothing at all. -/
def eviction (failure : Remote χ × CallError) : List (Cache.Event χ) :=
  if failure.2.breaksConnection then [.evictChannel failure.1.address failure.1.channel] else []

section

variable [DecidableEq χ]

theorem observe_eq (cache : Cache χ) (remote : Remote χ) (error : CallError) :
    observe cache remote error = cache.after (eviction (remote, error)) := by
  rw [observe, eviction]
  split <;> rfl

/-- Only failures among the marks do anything to the cache. -/
theorem observeAll_eq (cache : Cache χ) (marks : List (CallMark ε χ)) :
    observeAll cache marks = cache.after ((failures marks).flatMap eviction) := by
  induction marks generalizing cache with
  | nil => rfl
  | cons mark marks induction =>
      cases mark with
      | note mark => exact induction cache
      | failure remote error =>
          refine (induction (observe cache remote error)).trans ?_
          rw [observe_eq, ← Cache.after_append]
          rfl

namespace Traffic

/-- What an event does to the cache and its callers, as events of the cache. -/
def cacheEvents (traffic : Traffic ε χ ω) : Event ε χ ω → List (Cache.Event χ)
  | .call call request =>
    match (call.route request.message).2 with
    | .remote _ address => [.create address]
    | _ => []
  | .proceed _ => []
  | .pull number =>
    match traffic.exchanges[number]? with
    | some (.answering _ results) => (failures results.next.1).flatMap eviction
    | _ => []
  | .cache event => [event]

/-- The callers do not notice that entries are removed. -/
theorem session_evictions (session : Cache.Session χ) (lost : List (Remote χ × CallError)) :
    session.after (lost.flatMap eviction) =
      { session with cache := session.cache.after (lost.flatMap eviction) } := by
  induction lost generalizing session with
  | nil => rfl
  | cons failure lost induction =>
      have first : session.after (eviction failure) =
          { session with cache := session.cache.after (eviction failure) } := by
        rw [eviction]
        split <;> rfl
      rw [List.flatMap_cons, Cache.session_after_append, first, induction, Cache.after_append]

/-- To the cache and its callers the calls are nothing but more events. -/
theorem session_handle (traffic : Traffic ε χ ω) (event : Event ε χ ω) :
    (traffic.handle event).session = traffic.session.after (traffic.cacheEvents event) := by
  cases event with
  | call call request =>
      rw [handle, cacheEvents]
      rcases (call.route request.message).2 with error | dispatcher | ⟨transport, address⟩ <;> rfl
  | proceed number => rfl
  | pull number =>
      rw [handle, cacheEvents]
      rcases traffic.exchanges[number]? with _ | ⟨⟨caller, transport, request⟩ | ⟨remote, results⟩⟩
      · rfl
      · rfl
      · exact ((session_evictions _ _).trans (by rw [← observeAll_eq])).symm
  | cache event => rfl

theorem session_after (traffic : Traffic ε χ ω) (events : List (Event ε χ ω)) :
    ∃ cacheEvents, (traffic.after events).session = traffic.session.after cacheEvents := by
  induction events generalizing traffic with
  | nil => exact ⟨[], rfl⟩
  | cons event events induction =>
      rcases induction (traffic.handle event) with ⟨others, equal⟩
      refine ⟨traffic.cacheEvents event ++ others, ?_⟩
      rw [Cache.session_after_append, ← session_handle]
      exact equal

theorem grows_handle (traffic : Traffic ε χ ω) (event : Event ε χ ω) :
    Cache.Grows traffic.cache (traffic.handle event).cache := by
  rw [cache, cache, session_handle, Cache.cache_after]
  exact Cache.grows_after _ _

/-- The results of a call are those of the same call before, perhaps after a pull, or they fit. -/
theorem answering_handle {traffic : Traffic ε χ ω} (kept : Cache.Kept traffic.session)
    {event : Event ε χ ω} {remote : Option (Remote χ)} {results : Results ε χ}
    (member : .answering remote results ∈ (traffic.handle event).exchanges) :
    (∃ former, .answering remote former ∈ traffic.exchanges ∧
        (Reports remote former → Reports remote results)) ∨
      Fits traffic.cache remote results := by
  have same (old : .answering remote results ∈ traffic.exchanges) :
      ∃ former, .answering remote former ∈ traffic.exchanges ∧
        (Reports remote former → Reports remote results) := ⟨results, old, id⟩
  cases event with
  | call call request =>
      cases target : (call.route request.message).2 with
      | refused error =>
          simp only [handle, target, add] at member
          rcases List.mem_append.mp member with old | new
          · exact .inl (same old)
          · cases List.mem_singleton.mp new
            exact .inr ⟨request.reports_refused error, nofun⟩
      | inProcess dispatcher =>
          simp only [handle, target, add] at member
          rcases List.mem_append.mp member with old | new
          · exact .inl (same old)
          · cases List.mem_singleton.mp new
            exact .inr ⟨request.reports_served dispatcher, nofun⟩
      | remote transport address =>
          simp only [handle, target, add] at member
          rcases List.mem_append.mp member with old | new
          · exact .inl (same old)
          · cases List.mem_singleton.mp new
  | proceed number =>
      rcases List.getElem?_of_mem member with ⟨position, present⟩
      simp only [handle, List.getElem?_modify] at present
      rcases Option.map_eq_some_iff.mp present with ⟨former, atFormer, equal⟩
      have old := List.mem_of_getElem? atFormer
      split at equal
      · rcases proceed_cases kept former with waits | ⟨carrier, answers, goes, fits⟩
        · exact .inl (same ((waits.symm.trans equal) ▸ old))
        · cases goes.symm.trans equal
          exact .inr fits
      · exact .inl (same (equal ▸ old))
  | pull number =>
      -- A pull leaves the same source in another state, and `Reports` is about all states.
      simp only [handle] at member
      split at member
      · rename_i carrier answers present
        rcases List.mem_or_eq_of_mem_set member with old | new
        · exact .inl (same old)
        · cases new
          exact .inl ⟨answers, List.mem_of_getElem? present, id⟩
      · exact .inl (same member)
  | cache event => exact .inl (same member)

theorem Orderly.handle {traffic : Traffic ε χ ω} (orderly : traffic.Orderly)
    (event : Event ε χ ω) : (traffic.handle event).Orderly where
  kept := by
    rw [session_handle]
    exact orderly.kept.after _
  fits remote results member := by
    apply Fits.grows _ (grows_handle traffic event)
    rcases answering_handle orderly.kept member with ⟨former, old, reports⟩ | fits
    · have fits := orderly.fits remote former old
      exact ⟨reports fits.reports, fits.made⟩
    · exact fits

theorem Orderly.after {traffic : Traffic ε χ ω} (orderly : traffic.Orderly)
    (events : List (Event ε χ ω)) : (traffic.after events).Orderly := by
  induction events generalizing traffic with
  | nil => exact orderly
  | cons event events induction => exact induction (orderly.handle event)

theorem orderly_after (events : List (Event ε χ ω)) : (start.after events).Orderly :=
  orderly_start.after events

end Traffic

end

/-! ## Calls alone -/

/-- The four ways to make a call are one: it is refused, served in process, or sent over a
connection. -/
theorem answer_eq (call : ServiceCall ε χ ω) (request : Request ε) :
    call.answer request =
      match call.route request.message with
      | (call, .refused error) => (call, request.refused error)
      | (call, .inProcess dispatcher) => (call, request.served dispatcher)
      | (call, .remote transport address) =>
        let reached := call.reach transport address
        let answers := match reached.remote with
          | .ok remote => request.sent transport remote
          | .error error => request.refused error
        (reached.call, answers.afterMarks (reached.marks.map .note)) := by
  cases request <;>
    simp only [answer, fireAndForget, requestResponse, requestStream, openChannel, single, stream,
      Request.message] <;>
    rcases call.route _ with ⟨after, error | dispatcher | ⟨transport, address⟩⟩
  case' fireAndForget.remote | requestResponse.remote | requestStream.remote |
      requestChannel.remote =>
    simp only
    cases (after.reach transport address).remote
  all_goals rfl

theorem route_keeps (call : ServiceCall ε χ ω) (message : Message) :
    (call.route message).1.cache = call.cache ∧
      (call.route message).1.network = call.network := by
  rw [route]
  split
  · exact ⟨rfl, rfl⟩
  · split
    · exact ⟨rfl, rfl⟩
    · exact ⟨rfl, rfl⟩

/-- What happens after a caller has asked for a connection, if nothing else does: its attempt ends,
unless it has ended before, and the caller is given the outcome. -/
def reaching (call : ServiceCall ε χ ω) (transport : Transport ε χ ω) (address : Address)
    (caller : Nat) : List (Cache.Event χ) :=
  let joined := call.cache.join address
  match joined.cache.outcome? joined.generation with
  | some _ => [.wake caller]
  | none =>
    [.settle joined.generation (transport.connect call.network address).outcome, .wake caller]

section

variable [DecidableEq χ]

/-- A caller that looks is given the outcome that is there. -/
theorem callers_wake {session : Cache.Session χ} {number : Nat} {caller : Cache.Caller χ}
    {outcome : Outcome χ} (present : session.callers[number]? = some caller)
    (ended : session.cache.outcome? caller.generation = some outcome)
    (waits : caller.result = none) :
    (session.handle (.wake number)).callers[number]? =
      some { caller with result := some outcome } := by
  simp [Cache.Session.handle, present, Cache.Caller.wake, waits, ended]

/-- To reach for a connection is to ask the cache for it and to wait. -/
theorem reach_alone {session : Cache.Session χ} (kept : Cache.Kept session)
    {call : ServiceCall ε χ ω} (shared : call.cache = session.cache)
    (transport : Transport ε χ ω) (address : Address) :
    let reached := call.reach transport address
    let after := (session.handle (.create address)).after
      (reaching call transport address session.callers.length)
    reached.call.cache = after.cache ∧ ∃ generation isFirst outcome,
      after.callers[session.callers.length]? =
          some ⟨address, generation, isFirst, some outcome⟩ ∧
        reached.remote = outcome.map (Remote.mk address) := by
  have asked : (session.handle (.create address)).callers[session.callers.length]? =
      some (session.caller address) := List.getElem?_concat_length
  have own := (kept.caller address).1
  cases ended : (session.cache.join address).cache.outcome?
      (session.cache.join address).generation with
  | some outcome =>
      simp only [reach, reaching, shared, ended]
      exact ⟨rfl, _, _, outcome, callers_wake asked ended rfl, rfl⟩
  | none =>
      simp only [reach, reaching, shared, ended]
      let outcome := (transport.connect call.network address).outcome
      let settled := (session.handle (.create address)).handle
        (.settle (session.caller address).generation outcome)
      have isOpen : (session.cache.handle (.create address)).isOpen
          (session.caller address).generation = true := by
        rcases Option.map_eq_some_iff.mp own with ⟨attempt, present, _⟩
        have waits : attempt.outcome = none := by
          have none_yet : (session.cache.handle (.create address)).outcome?
              (session.caller address).generation = none := ended
          rwa [Cache.outcome?, present] at none_yet
        simp [Cache.isOpen, present, waits]
      have written : settled.cache.outcome? (session.caller address).generation = some outcome :=
        Cache.outcome?_settle isOpen outcome
      have present : settled.callers[session.callers.length]? = some (session.caller address) :=
        asked
      exact ⟨rfl, _, _, outcome, callers_wake present written rfl, rfl⟩

namespace Traffic

/-- A call with nothing in between. -/
def alone (traffic : Traffic ε χ ω) (call : ServiceCall ε χ ω) (request : Request ε) :
    List (Event ε χ ω) :=
  .call call request :: match call.route request.message with
    | (routed, .remote transport address) =>
      (reaching routed transport address traffic.session.callers.length).map .cache ++
        [.proceed traffic.exchanges.length]
    | _ => []

theorem after_cache (traffic : Traffic ε χ ω) (events : List (Cache.Event χ)) :
    traffic.after (events.map .cache) =
      { traffic with session := traffic.session.after events } := by
  induction events generalizing traffic with
  | nil => rfl
  | cons event events induction => exact induction (traffic.handle (.cache event))

/-- To make a call with nothing in between is to let its events happen one after the other. -/
theorem answer_alone {traffic : Traffic ε χ ω} (kept : Cache.Kept traffic.session)
    {call : ServiceCall ε χ ω} (shared : call.cache = traffic.cache) (request : Request ε) :
    let after := traffic.after (traffic.alone call request)
    (call.answer request).1.cache = after.cache ∧ ∃ remote answers,
      after.exchanges = traffic.exchanges ++ [.answering remote answers.results] ∧
        ((call.answer request).2 = answers ∨
          ∃ marks : List ε, (call.answer request).2 = answers.afterMarks (marks.map .note)) := by
  have keeps := (route_keeps call request.message).1.trans shared
  rw [answer_eq]
  rcases route : call.route request.message with
    ⟨routed, error | dispatcher | ⟨transport, address⟩⟩
  all_goals rw [route] at keeps
  case refused =>
    simp only [alone, route, after, List.foldl_cons, List.foldl_nil, handle]
    exact ⟨keeps, none, _, rfl, .inl rfl⟩
  case inProcess =>
    simp only [alone, route, after, List.foldl_cons, List.foldl_nil, handle]
    exact ⟨keeps, none, _, rfl, .inl rfl⟩
  case remote =>
    have keeps : routed.cache = traffic.session.cache := keeps
    rcases reach_alone kept keeps transport address with
      ⟨cache, generation, isFirst, outcome, present, reached⟩
    have waits : traffic.after (traffic.alone call request) =
        (({ traffic with session := traffic.session.handle (.create address) }.add
          (.connecting traffic.session.callers.length transport request)).after
          ((reaching routed transport address traffic.session.callers.length).map .cache)).handle
            (.proceed traffic.exchanges.length) := by
      simp only [alone, route, after, List.foldl_cons, List.foldl_append, List.foldl_nil, handle]
    rw [waits, after_cache]
    cases outcome with
    | ok channel =>
        refine ⟨cache, some ⟨address, channel⟩, request.sent transport ⟨address, channel⟩, ?_, ?_⟩
        · simp [handle, add, List.modify_eq_take_drop, Exchange.proceed, present]
        · exact .inr ⟨_, by simp only [reached]; rfl⟩
    | error error =>
        refine ⟨cache, none, request.refused error, ?_, ?_⟩
        · simp [handle, add, List.modify_eq_take_drop, Exchange.proceed, present]
        · exact .inr ⟨_, by simp only [reached]; rfl⟩

end Traffic

end

end ServiceMesh.ServiceCall
