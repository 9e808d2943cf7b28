import Mathlib.Logic.Function.Basic
import ServiceMesh.Proofs.Dispatch.Announcing
import ServiceMesh.Proofs.Flow.Pulls
import ServiceMesh.Proofs.ServiceCall.Eviction

/-!
# Calls served in process

A message whose qualifier the local dispatcher serves is answered by this dispatcher, whatever else
the service call is made of, and nothing of it is touched (`answer_of_contains`, `absorb_of_notes`).
Other messages are answered as if there were no dispatcher (`answer_elsewhere`).  In a run of many
calls, whose results are pulled in any order, those that are served in process therefore neither leave
a trace in what the others do nor are influenced by it (`Client.Separate.after`).
-/

namespace ServiceMesh.ServiceCall

variable {ε χ ω : Type}

/-! ## One call -/

namespace Request

/-- The mode of a request. -/
def mode : Request ε → Mode
  | .fireAndForget _ => .fireAndForget
  | .requestResponse _ => .requestResponse
  | .requestStream _ => .requestStream
  | .requestChannel .. => .requestChannel

end Request

variable {call : ServiceCall ε χ ω} {dispatcher : Dispatcher ε} {request : Request ε}

theorem localTarget_of_contains (serves : call.dispatcher = some dispatcher) {message : Message}
    (contained : dispatcher.contains message.qualifier = true) :
    call.localTarget message = some dispatcher := by
  rw [localTarget, serves, Option.filter_some, if_pos contained]

theorem localTarget_of_not_contains (serves : call.dispatcher = some dispatcher)
    {message : Message} (absent : dispatcher.contains message.qualifier = false) :
    call.localTarget message = none := by
  rw [localTarget, serves, Option.filter_some, absent]
  rfl

theorem ne_empty_of_contains (unnamed : dispatcher.contains "" = false) {qualifier : String}
    (contained : dispatcher.contains qualifier = true) : qualifier ≠ "" := by
  rintro rfl
  rw [unnamed] at contained
  cases contained

/-- A message that the dispatcher serves goes there, and nothing of the call changes. -/
theorem route_of_contains (serves : call.dispatcher = some dispatcher)
    (unnamed : dispatcher.contains "" = false) {message : Message}
    (contained : dispatcher.contains message.qualifier = true) :
    call.route message = (call, .inProcess dispatcher) := by
  rw [route, if_neg (ne_empty_of_contains unnamed contained),
    localTarget_of_contains serves contained]

/-- A request that the dispatcher serves is answered by it, and nothing of the call changes. -/
theorem answer_of_contains (serves : call.dispatcher = some dispatcher)
    (unnamed : dispatcher.contains "" = false)
    (contained : dispatcher.contains request.message.qualifier = true) :
    call.answer request = (call, request.served dispatcher) := by
  rw [answer_eq, route_of_contains serves unnamed contained]

/-- So are the messages of a channel, each of them with the stream id of the exchange. -/
theorem openChannel_of_contains (serves : call.dispatcher = some dispatcher)
    (unnamed : dispatcher.contains "" = false) (freshId : String) {first : Message}
    (others : Source ε (Outcome Message))
    (contained : dispatcher.contains first.qualifier = true) :
    call.openChannel freshId (some (.ok first)) others =
      (call, (dispatcher.requestChannel
        (stamped (first.streamId.getD freshId) first others)).mapMarks .note) := by
  have routed := route_of_contains serves unnamed
    (show dispatcher.contains (first.withStreamId (first.streamId.getD freshId)).qualifier = true
      from contained)
  simp only [openChannel, stream, routed]

/-- The call with another dispatcher, or with none. -/
def withDispatcher (call : ServiceCall ε χ ω) (dispatcher : Option (Dispatcher ε)) :
    ServiceCall ε χ ω :=
  { call with dispatcher }

theorem route_elsewhere {message : Message} (away : call.localTarget message = none) :
    call.route message =
      (((call.withDispatcher none).route message).1.withDispatcher call.dispatcher,
        ((call.withDispatcher none).route message).2) := by
  rw [route, route, away]
  by_cases unnamed : message.qualifier = ""
  · rw [if_pos unnamed, if_pos unnamed]
    rfl
  · rw [if_neg unnamed, if_neg unnamed]
    rfl

theorem reach_withDispatcher (call : ServiceCall ε χ ω) (dispatcher : Option (Dispatcher ε))
    (transport : Transport ε χ ω) (address : Address) :
    (call.withDispatcher dispatcher).reach transport address =
      { call.reach transport address with
        call := (call.reach transport address).call.withDispatcher dispatcher } := by
  rw [reach, reach]
  have same : (call.withDispatcher dispatcher).cache = call.cache := rfl
  simp only [same]
  split <;> rfl

/-- A request that no dispatcher serves is answered as if there were none. -/
theorem answer_elsewhere (away : call.localTarget request.message = none) :
    call.answer request =
      (((call.withDispatcher none).answer request).1.withDispatcher call.dispatcher,
        ((call.withDispatcher none).answer request).2) := by
  rw [answer_eq, answer_eq, route_elsewhere away]
  rcases (call.withDispatcher none).route request.message with
    ⟨routed, error | inner | ⟨transport, address⟩⟩
  · rfl
  · rfl
  · simp only [reach_withDispatcher]

/-- A call that is refused fails at once. -/
theorem answer_of_refused {routed : ServiceCall ε χ ω} {error : CallError}
    (refused : call.route request.message = (routed, .refused error)) :
    call.answer request = (routed, request.refused error) := by
  rw [answer_eq, refused]

theorem route_of_no_route (named : request.message.qualifier ≠ "")
    (away : call.localTarget request.message = none)
    (lost : (call.router.route call.registry request.message).1 = none) :
    call.route request.message =
      ({ call with router := (call.router.route call.registry request.message).2 },
        .refused (noRoute request.message.qualifier)) := by
  rw [route, if_neg named, away]
  simp only [lost]

theorem route_of_no_transport {reference : Reference} (named : request.message.qualifier ≠ "")
    (away : call.localTarget request.message = none)
    (found : (call.router.route call.registry request.message).1 = some reference)
    (unable : call.transport = none) :
    call.route request.message =
      ({ call with router := (call.router.route call.registry request.message).2 },
        .refused (noTransport request.message.qualifier)) := by
  rw [route, if_neg named, away]
  simp only [found, unable]

theorem dispatcher_answer (call : ServiceCall ε χ ω) (request : Request ε) :
    (call.answer request).1.dispatcher = call.dispatcher := by
  have routed : (call.route request.message).1.dispatcher = call.dispatcher := by
    rw [route]
    split
    · rfl
    · split <;> rfl
  rw [answer_eq]
  rcases route : call.route request.message with ⟨after, error | inner | ⟨transport, address⟩⟩
  · rw [route] at routed
    exact routed
  · rw [route] at routed
    exact routed
  · rw [route] at routed
    show (after.reach transport address).call.dispatcher = call.dispatcher
    rw [reach]
    split <;> exact routed

/-! ## Results -/

section

variable {α : Type}

theorem yields_source {reply : Reply ε α} {result : α} (done : reply.conclusion = .done result) :
    reply.source.Yields [result] := by
  refine .item (show reply.conclusion.signal = .item result by rw [done]; rfl) (.ended ?_)
  show reply.conclusion.remainder = .ended
  rw [done]
  rfl

theorem mimics_mapMarks (source : Source ε α) {δ : Type} (rename : ε → δ) :
    source.Mimics (source.mapMarks rename) id id :=
  ⟨fun _ => (Source.signal_map_id _).symm, fun _ => rfl⟩

end

section

variable {error : CallError}

theorem yields_acceptance {reply : Reply (CallMark ε χ) (Outcome Unit)}
    (done : reply.conclusion = .done (.error error)) :
    (Answers.acceptance reply).results.Yields [.error error] :=
  (Source.mimics_map _ _).gives (yields_source done)

theorem yields_response {reply : Reply (CallMark ε χ) (Outcome Message)}
    (done : reply.conclusion = .done (.error error)) :
    (Answers.response reply).results.Yields [.error error] :=
  (Source.mimics_map _ _).gives (yields_source done)

theorem yields_responses {source : Source (CallMark ε χ) (Outcome Message)}
    (yields : source.Yields [.error error]) :
    (Answers.responses source).results.Yields [.error error] :=
  (Source.mimics_map _ _).gives yields

/-- The stamped first request comes at once. -/
theorem opens_stamped (streamId : String) (message : Message)
    (others : Source ε (Outcome Message)) :
    (stamped streamId message others).Opens 0 (.item (.ok (message.withStreamId streamId))) :=
  ⟨fun _ among => (List.not_mem_nil among).elim, rfl⟩

/-- A refused call gives the error and nothing else. -/
theorem yields_refused (request : Request ε) (error : CallError) :
    (request.refused error : Answers ε χ).results.Yields [.error error] := by
  cases request with
  | fireAndForget message => exact yields_acceptance rfl
  | requestResponse message => exact yields_response rfl
  | requestStream message => exact yields_responses (Source.yields_failed error)
  | requestChannel freshId first others =>
      exact yields_responses (Source.yields_afterMarks _ (Source.yields_failed error))

/-- If the dispatcher refuses a message, this is what the call gives. -/
theorem yields_served_of_error
    (fails : dispatcher.handler request.message request.mode = .error error) :
    (request.served dispatcher : Answers ε χ).results.Yields [.error error] := by
  cases request with
  | fireAndForget message =>
      simp only [Request.message, Request.mode] at fails
      apply yields_acceptance
      rw [Dispatcher.fireAndForget, fails]
      rfl
  | requestResponse message =>
      simp only [Request.message, Request.mode] at fails
      apply yields_response
      rw [Dispatcher.requestResponse, fails]
      rfl
  | requestStream message =>
      simp only [Request.message, Request.mode] at fails
      apply yields_responses
      apply (mimics_mapMarks _ _).gives_same
      rw [Dispatcher.requestStream, fails]
      exact Source.yields_failed error
  | requestChannel freshId first others =>
      simp only [Request.message, Request.mode] at fails
      apply yields_responses
      apply (mimics_mapMarks _ _).gives_same
      apply Source.yields_opening _ (opens_stamped _ first others).first
      rw [Dispatcher.openChannel, fails]
      exact Source.yields_afterMarks _ (Source.yields_failed error)

end

/-- Marks without failures do nothing to a call. -/
theorem absorb_of_notes [DecidableEq χ] (call : ServiceCall ε χ ω) {marks : List (CallMark ε χ)}
    (calm : failures marks = []) : call.absorb marks = call := by
  rw [absorb, observeAll_eq, calm]
  rfl

/-- The pulls of a source that reports nothing leave no failures. -/
theorem failures_pulls {results : Results ε χ} (reports : Reports none results) (count : Nat)
    (state : results.State) : failures ((results.pulls count state).flatMap Turn.marks) = [] := by
  induction count generalizing state with
  | zero => rfl
  | succ count induction =>
      have first := reports state
      rw [failuresOf_none] at first
      rw [results.pulls_of_pull rfl, List.flatMap_cons, failures_append, induction]
      exact (List.append_nil _).trans first

theorem failures_abandoned_source {α : Type} (reply : Reply ε α) (isPulled : Bool) :
    failures ((reply.mapMarks (.note : ε → CallMark ε χ)).source.abandoned isPulled) = [] := by
  rcases reply with ⟨marks, result | cause | abandoned⟩
  · rfl
  · rfl
  · exact failures_notes abandoned

/-- Whoever abandons the results of a dispatcher leaves no failures. -/
theorem failures_abandoned (request : Request ε) (dispatcher : Dispatcher ε)
    (state : (request.served dispatcher : Answers ε χ).results.State) :
    failures ((request.served dispatcher : Answers ε χ).results.abandoned state) = [] := by
  cases request with
  | fireAndForget message => exact failures_abandoned_source _ state
  | requestResponse message => exact failures_abandoned_source _ state
  | requestStream message => exact failures_notes _
  | requestChannel freshId first others => exact failures_notes _

/-! ## Many calls -/

/-- A service call in use, with the results of what has been asked of it, by keys. -/
structure Client (ε χ ω : Type) : Type 1 where
  /-- The service call. -/
  call : ServiceCall ε χ ω
  /-- The results that can be pulled. -/
  results : Nat → Option (Results ε χ)

namespace Client

/-- One thing that happens to a service call in use. -/
inductive Event (ε χ ω : Type) : Type 1 where
  /-- Something is asked, and its results are kept under a key. -/
  | ask (key : Nat) (request : Request ε)
  /-- A result is pulled. -/
  | pull (key : Nat)
  /-- Anything else happens to the registry, the router, the cache or the transport. -/
  | meanwhile (other : ServiceCall ε χ ω)

/-- Whether an event is about one of certain keys. -/
def Event.concerns (keys : Nat → Bool) : Event ε χ ω → Bool
  | .ask key _ | .pull key => keys key
  | .meanwhile _ => false

/-- A service call of which nothing has been asked. -/
def of (call : ServiceCall ε χ ω) : Client ε χ ω := ⟨call, fun _ => none⟩

/-- What is asked under certain keys is served by a dispatcher. -/
def Served (dispatcher : Dispatcher ε) (keys : Nat → Bool) (events : List (Event ε χ ω)) : Prop :=
  ∀ key request, .ask key request ∈ events → keys key = true →
    dispatcher.contains request.message.qualifier = true

theorem update_eq_of_agree {first second : Nat → Option (Results ε χ)} {key other : Nat}
    (agree : first other = second other) (value : Option (Results ε χ)) :
    Function.update first key value other = Function.update second key value other := by
  rw [Function.update_apply, Function.update_apply, agree]

theorem update_eq_of_other {keys : Nat → Bool} {first : Nat → Option (Results ε χ)}
    {key other : Nat} (truth : Bool) (apart : keys other = !truth) (here : keys key = truth)
    (value : Option (Results ε χ)) : Function.update first key value other = first other := by
  apply Function.update_of_ne
  rintro rfl
  rw [here] at apart
  cases truth <;> cases apart

/-- The results under certain keys report no failures. -/
def Calm (keys : Nat → Bool) (kept : Nat → Option (Results ε χ)) : Prop :=
  ∀ key, keys key = true → ∀ results, kept key = some results → Reports none results

theorem Calm.update {keys : Nat → Bool} {kept : Nat → Option (Results ε χ)} (calm : Calm keys kept)
    {results : Results ε χ} (reports : Reports none results) (key : Nat) :
    Calm keys (Function.update kept key (some results)) := by
  intro other own later found
  rw [Function.update_apply] at found
  split at found
  · cases found
    exact reports
  · exact calm other own later found

theorem Calm.update_other {keys : Nat → Bool} {kept : Nat → Option (Results ε χ)}
    (calm : Calm keys kept) {key : Nat} (apart : keys key = false)
    (value : Option (Results ε χ)) : Calm keys (Function.update kept key value) :=
  fun other own results found =>
    calm other own results ((update_eq_of_other false own apart value).symm.trans found)

/-- A client, the same client without what concerns certain keys, and another one with nothing else:
the first agrees with each of the others where they have anything in common. -/
structure Separate (dispatcher : Dispatcher ε) (keys : Nat → Bool)
    (client without alone : Client ε χ ω) : Prop where
  call : client.call = without.call
  serves : client.call.dispatcher = some dispatcher
  serves_alone : alone.call.dispatcher = some dispatcher
  others : ∀ key, keys key = false → client.results key = without.results key
  own : ∀ key, keys key = true → client.results key = alone.results key
  calm : Calm keys client.results

/-- As long as nothing has been asked, nothing is kept. -/
theorem separate_of (keys : Nat → Bool) {call other : ServiceCall ε χ ω}
    (serves : call.dispatcher = some dispatcher) (same : other.dispatcher = some dispatcher) :
    Separate dispatcher keys (of call) (of call) (of other) :=
  { call := rfl
    serves := serves
    serves_alone := same
    others := fun _ _ => rfl
    own := fun _ _ => rfl
    calm := fun _ _ _ kept => (Option.some_ne_none _ kept.symm).elim }

section

variable [DecidableEq χ]

/-- What an event does. -/
def handle (client : Client ε χ ω) : Event ε χ ω → Client ε χ ω
  | .ask key request =>
    let (call, answers) := client.call.answer request
    ⟨call, Function.update client.results key (some answers.results)⟩
  | .pull key =>
    match client.results key with
    | none => client
    | some results =>
      let (marks, _, rest) := results.next
      ⟨client.call.absorb marks, Function.update client.results key (some rest)⟩
  | .meanwhile other => { client with call := other.withDispatcher client.call.dispatcher }

/-- The client after events. -/
def after (client : Client ε χ ω) (events : List (Event ε χ ω)) : Client ε χ ω :=
  events.foldl handle client

variable {keys : Nat → Bool} {client without alone : Client ε χ ω}

/-- A request under one of the keys: the client answers it as the one with nothing else does. -/
theorem Separate.ask (separate : Separate dispatcher keys client without alone)
    (unnamed : dispatcher.contains "" = false) {key : Nat} (concerns : keys key = true)
    (contained : dispatcher.contains request.message.qualifier = true) :
    Separate dispatcher keys (client.handle (.ask key request)) without
      (alone.handle (.ask key request)) := by
  simp only [handle, answer_of_contains separate.serves unnamed contained,
    answer_of_contains separate.serves_alone unnamed contained]
  exact
    { call := separate.call
      serves := separate.serves
      serves_alone := separate.serves_alone
      others := fun other apart =>
        (update_eq_of_other true apart concerns _).trans (separate.others other apart)
      own := fun other own => update_eq_of_agree (separate.own other own) _
      calm := separate.calm.update (Request.reports_served request dispatcher) key }

/-- A pull under one of the keys. -/
theorem Separate.pull (separate : Separate dispatcher keys client without alone) {key : Nat}
    (concerns : keys key = true) :
    Separate dispatcher keys (client.handle (.pull key)) without (alone.handle (.pull key)) := by
  have same := separate.own key concerns
  cases kept : client.results key with
  | none =>
      rw [kept] at same
      simp only [handle, kept, ← same]
      exact separate
  | some results =>
      rw [kept] at same
      have reports := separate.calm key concerns results kept
      have calm : failures results.next.1 = [] := by
        have first := reports results.state
        rw [failuresOf_none] at first
        exact first
      simp only [handle, kept, ← same, absorb_of_notes _ calm]
      exact
        { call := separate.call
          serves := separate.serves
          serves_alone := separate.serves_alone
          others := fun other apart =>
            (update_eq_of_other true apart concerns _).trans (separate.others other apart)
          own := fun other own => update_eq_of_agree (separate.own other own) _
          calm := separate.calm.update
            (show Reports none results.next.2.2 from fun state => reports state) key }

/-- What does not concern the keys: the client does what it does without them. -/
theorem Separate.other (separate : Separate dispatcher keys client without alone)
    {event : Event ε χ ω} (apart : event.concerns keys = false) :
    Separate dispatcher keys (client.handle event) (without.handle event) alone := by
  cases event with
  | ask key request =>
      have apart : keys key = false := apart
      simp only [handle, ← separate.call]
      exact
        { call := rfl
          serves := (dispatcher_answer _ _).trans separate.serves
          serves_alone := separate.serves_alone
          others := fun other apart => update_eq_of_agree (separate.others other apart) _
          own := fun other own =>
            (update_eq_of_other false own apart _).trans (separate.own other own)
          calm := separate.calm.update_other apart _ }
  | pull key =>
      have apart : keys key = false := apart
      have same := separate.others key apart
      cases kept : client.results key with
      | none =>
          rw [kept] at same
          simp only [handle, kept, ← same]
          exact separate
      | some results =>
          rw [kept] at same
          simp only [handle, kept, ← same, ← separate.call]
          exact
            { call := rfl
              serves := separate.serves
              serves_alone := separate.serves_alone
              others := fun other apart => update_eq_of_agree (separate.others other apart) _
              own := fun other own =>
                (update_eq_of_other false own apart _).trans (separate.own other own)
              calm := separate.calm.update_other apart _ }
  | meanwhile other =>
      simp only [handle, ← separate.call]
      exact
        { call := rfl
          serves := separate.serves
          serves_alone := separate.serves_alone
          others := separate.others
          own := separate.own
          calm := separate.calm }

/-- Calls that are served in process neither leave a trace in what the others do, nor are they
influenced by it. -/
theorem Separate.after (separate : Separate dispatcher keys client without alone)
    (unnamed : dispatcher.contains "" = false) {events : List (Event ε χ ω)}
    (served : Served dispatcher keys events) :
    Separate dispatcher keys (client.after events)
      (without.after (events.filter fun event => !event.concerns keys))
      (alone.after (events.filter (Event.concerns keys))) := by
  induction events generalizing client without alone with
  | nil => exact separate
  | cons event events induction =>
      have later : Served dispatcher keys events :=
        fun key request member => served key request (List.mem_cons_of_mem _ member)
      cases concerns : event.concerns keys with
      | true =>
          rw [List.filter_cons_of_neg (by simp [concerns]), List.filter_cons_of_pos concerns]
          refine induction ?_ later
          cases event with
          | ask key request =>
              exact separate.ask unnamed concerns (served key request List.mem_cons_self concerns)
          | pull key => exact separate.pull concerns
          | meanwhile other => cases concerns
      | false =>
          rw [List.filter_cons_of_pos (by simp [concerns]),
            List.filter_cons_of_neg (by simp [concerns])]
          exact induction (separate.other concerns) later

end

end Client

/-! ## Main result -/

/-- A service call leaves to its dispatcher what this serves, and nothing else. -/
structure Bypasses [DecidableEq χ] (call : ServiceCall ε χ ω) (dispatcher : Dispatcher ε) :
    Prop where
  /-- A message that gets no response is answered as the dispatcher answers it. -/
  fireAndForget : ∀ message : Message, dispatcher.contains message.qualifier = true →
    call.fireAndForget message =
      (call, (Reply.accepted (dispatcher.fireAndForget message)).mapMarks .note)
  /-- So is a message that gets one response. -/
  requestResponse : ∀ message : Message, dispatcher.contains message.qualifier = true →
    call.requestResponse message = (call, (dispatcher.requestResponse message).mapMarks .note)
  /-- So is a message that gets a stream of responses. -/
  requestStream : ∀ message : Message, dispatcher.contains message.qualifier = true →
    call.requestStream message = (call, (dispatcher.requestStream message).mapMarks .note)
  /-- So is a stream of messages, each of them with the stream id of the exchange. -/
  requestChannel : ∀ (freshId : String) (first : Message) (others : Source ε (Outcome Message)),
    dispatcher.contains first.qualifier = true →
      call.openChannel freshId (some (.ok first)) others =
        (call, (dispatcher.requestChannel
          (stamped (first.streamId.getD freshId) first others)).mapMarks .note)
  /-- If the dispatcher refuses the message, its error is the only result. -/
  refused : ∀ (request : Request ε) (error : CallError),
    dispatcher.contains request.message.qualifier = true →
      dispatcher.handler request.message request.mode = .error error →
        (call.answer request).2.results.Yields [.error error]
  /-- Each other call with this dispatcher answers the same. -/
  independent : ∀ (other : ServiceCall ε χ ω) (request : Request ε),
    other.dispatcher = some dispatcher →
      dispatcher.contains request.message.qualifier = true →
        (other.answer request).2 = (call.answer request).2
  /-- Neither the answer, nor its results, of which some are pulled before they are abandoned, change
  anything. -/
  untouched : ∀ (request : Request ε) (count : Nat),
    dispatcher.contains request.message.qualifier = true →
      (call.answer request).1.absorb
        (((call.answer request).2.results.pulled count).flatMap Turn.marks ++
          ((call.answer request).2.results.since count).farewell) = call
  /-- In a run of many calls, what is served in process leaves no trace in the rest. -/
  traceless : ∀ (keys : Nat → Bool) (events : List (Client.Event ε χ ω)),
    Client.Served dispatcher keys events →
      let without := (Client.of call).after (events.filter fun event => !event.concerns keys)
      ((Client.of call).after events).call = without.call ∧
        ∀ key, keys key = false → ((Client.of call).after events).results key = without.results key
  /-- Nor does it depend on the rest. -/
  unmoved : ∀ (keys : Nat → Bool) (events : List (Client.Event ε χ ω))
      (other : ServiceCall ε χ ω), other.dispatcher = some dispatcher →
    Client.Served dispatcher keys events →
      ∀ key, keys key = true → ((Client.of call).after events).results key =
        ((Client.of other).after (events.filter (Client.Event.concerns keys))).results key
  /-- Whatever the dispatcher does not serve is answered as if there were none. -/
  elsewhere : ∀ request : Request ε, dispatcher.contains request.message.qualifier = false →
    call.answer request =
      (((call.withDispatcher none).answer request).1.withDispatcher (some dispatcher),
        ((call.withDispatcher none).answer request).2)
  /-- Without an instance to go to, or without a transport, it fails at once and does not connect. -/
  lost : ∀ request : Request ε, request.message.qualifier ≠ "" →
    dispatcher.contains request.message.qualifier = false →
      (call.router.route call.registry request.message).1 = none ∨ call.transport = none →
        ∃ error : CallError, error.kind = .serviceUnavailable ∧ error.isRemote = false ∧
          (call.answer request).2 = request.refused error ∧
            (call.answer request).2.results.Yields [.error error] ∧
              (call.answer request).1.cache = call.cache ∧
                (call.answer request).1.network = call.network

/-- A call that is refused fails at once, and nothing is connected. -/
theorem lost_of_refused {error : CallError} {routed : ServiceCall ε χ ω}
    (refused : call.route request.message = (routed, .refused error)) :
    (call.answer request).2 = request.refused error ∧
      (call.answer request).2.results.Yields [.error error] ∧
        (call.answer request).1.cache = call.cache ∧
          (call.answer request).1.network = call.network := by
  have keeps := route_keeps call request.message
  rw [refused] at keeps
  rw [answer_of_refused refused]
  exact ⟨rfl, yields_refused request error, keeps⟩

/-- Messages that the local dispatcher serves bypass everything else. -/
theorem local_bypass [DecidableEq χ] {codecs : CodecRegistry} {services : List (Service ε)}
    (built : Dispatcher.build codecs services = .ok dispatcher)
    (serves : call.dispatcher = some dispatcher) : Bypasses call dispatcher := by
  have unnamed := Dispatcher.contains_empty_of_build built
  constructor
  case fireAndForget =>
    intro message contained
    rw [ServiceCall.fireAndForget, single, route_of_contains serves unnamed contained]
  case requestResponse =>
    intro message contained
    rw [ServiceCall.requestResponse, single, route_of_contains serves unnamed contained]
  case requestStream =>
    intro message contained
    rw [ServiceCall.requestStream, stream, route_of_contains serves unnamed contained]
  case requestChannel =>
    intro freshId first others contained
    exact openChannel_of_contains serves unnamed freshId others contained
  case refused =>
    intro request error contained fails
    rw [answer_of_contains serves unnamed contained]
    exact yields_served_of_error fails
  case independent =>
    intro other request same contained
    rw [answer_of_contains serves unnamed contained, answer_of_contains same unnamed contained]
  case untouched =>
    intro request count contained
    rw [answer_of_contains serves unnamed contained]
    apply absorb_of_notes
    rw [failures_append]
    exact List.append_eq_nil_iff.mpr
      ⟨failures_pulls (Request.reports_served request dispatcher) count _,
        failures_abandoned request dispatcher _⟩
  case traceless =>
    intro keys events served
    have apart := (Client.separate_of keys serves serves).after unnamed served
    exact ⟨apart.call, apart.others⟩
  case unmoved =>
    intro keys events other same served
    exact ((Client.separate_of keys serves same).after unnamed served).own
  case elsewhere =>
    intro request absent
    rw [answer_elsewhere (localTarget_of_not_contains serves absent), serves]
  case lost =>
    intro request named absent nowhere
    have away := localTarget_of_not_contains serves absent
    cases found : (call.router.route call.registry request.message).1 with
    | none =>
        exact ⟨_, rfl, rfl, lost_of_refused (route_of_no_route named away found)⟩
    | some reference =>
        have unable : call.transport = none := nowhere.resolve_left (by simp [found])
        exact ⟨_, rfl, rfl, lost_of_refused (route_of_no_transport named away found unable)⟩

/-- A service call that knows an instance for greetings and serves shops itself. -/
def shopCall : ServiceCall Unit Nat Nat := flakyCall.withDispatcher (some shopDispatcher)

/-- A message in the wrong mode is refused in process, one that the dispatcher does not serve is
connected, and one that nobody serves is lost. -/
theorem shopCall_bypasses :
    Dispatcher.build .withJson shops = .ok shopDispatcher ∧ Bypasses shopCall shopDispatcher ∧
      (shopCall.requestStream (Message.blank.withQualifier "shop/eu/find")).2.signals 2 =
        [.item (.error (.badRequest
          "'shop/eu/find' is a request-response method, called as request-stream")), .ended] ∧
      (shopCall.answer greetings).1.network = 1 ∧
        (shopCall.requestStream (Message.blank.withQualifier "Greeting/none")).1.network = 0 := by
  have built : Dispatcher.build .withJson shops = .ok shopDispatcher := by rfl
  exact ⟨built, local_bypass built rfl, by rfl, by rfl, by rfl⟩

end ServiceMesh.ServiceCall
