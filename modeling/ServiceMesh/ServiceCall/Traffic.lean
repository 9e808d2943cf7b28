import ServiceMesh.Cache.Session
import ServiceMesh.ServiceCall

/-!
# Calls under way

Many calls are under way at a time, and share a connection cache.  A call is routed when it is made,
waits for its connection as a caller of the cache, and then is sent.  Its results are pulled one at a
time, and an error among them is looked at as soon as it is given.  In between anything may happen to
the cache and to other calls.
-/

namespace ServiceMesh

/-- What a pull gives when a computation has come to its conclusion. -/
def Conclusion.signal {ε α : Type} : Conclusion ε α → Signal α
  | .done result => .item result
  | .crashed cause => .crashed cause
  | .silent _ => .pending

/-- What the pulls after that give. -/
def Conclusion.remainder {ε α : Type} : Conclusion ε α → Signal α
  | .done _ | .crashed _ => .ended
  | .silent _ => .pending

/-- The one result of a computation as a stream. -/
def Reply.source {ε α : Type} (reply : Reply ε α) : Source ε α where
  State := Bool
  state := false
  pull isPulled :=
    if isPulled then ⟨[], reply.conclusion.remainder, true⟩
    else ⟨reply.marks, reply.conclusion.signal, true⟩
  abandoned _ :=
    match reply.conclusion with
    | .silent abandoned => abandoned
    | _ => []

namespace ServiceCall

variable {ε χ ω : Type}

/-- What is asked of a service call. -/
inductive Request (ε : Type) : Type 1 where
  /-- To send a message that gets no response. -/
  | fireAndForget (message : Message)
  /-- To send a message that gets one response. -/
  | requestResponse (message : Message)
  /-- To send a message that gets a stream of responses. -/
  | requestStream (message : Message)
  /-- To send a stream of messages, of which the first is there, that gets a stream of responses. -/
  | requestChannel (freshId : String) (first : Message) (others : Source ε (Outcome Message))

/-- What a call gives: an acceptance, a response, or a stream of responses. -/
inductive Answers (ε χ : Type) : Type 1 where
  /-- An acceptance. -/
  | acceptance (reply : Reply (CallMark ε χ) (Outcome Unit))
  /-- A response. -/
  | response (reply : Reply (CallMark ε χ) (Outcome Message))
  /-- A stream of responses. -/
  | responses (source : Source (CallMark ε χ) (Outcome Message))

/-- The results that are pulled: responses, and nothing for an acceptance. -/
abbrev Results (ε χ : Type) : Type 1 := Source (CallMark ε χ) (Outcome (Option Message))

/-- The answers to a call as a stream of results. -/
def Answers.results : Answers ε χ → Results ε χ
  | .acceptance reply => reply.source.map (fun outcome => outcome.map (fun _ => none))
  | .response reply => reply.source.map (fun outcome => outcome.map some)
  | .responses source => source.map (fun outcome => outcome.map some)

/-- The answers with marks in front of their own. -/
def Answers.afterMarks (marks : List (CallMark ε χ)) : Answers ε χ → Answers ε χ
  | .acceptance reply => .acceptance ((Reply.noting marks ()).andThen fun _ => reply)
  | .response reply => .response ((Reply.noting marks ()).andThen fun _ => reply)
  | .responses source => .responses (source.afterMarks marks)

namespace Request

/-- The message that selects the target. -/
def message : Request ε → Message
  | .fireAndForget message | .requestResponse message | .requestStream message => message
  | .requestChannel freshId first _ => first.withStreamId (first.streamId.getD freshId)

/-- The answers to a request that is refused. -/
def refused (request : Request ε) (error : CallError) : Answers ε χ :=
  match request with
  | .fireAndForget _ => .acceptance (.of (.error error))
  | .requestResponse _ => .response (.of (.error error))
  | .requestStream _ => .responses (.failed error)
  | .requestChannel _ _ others => .responses (refuse others error)

/-- The answers to a request that is served in process. -/
def served (request : Request ε) (dispatcher : Dispatcher ε) : Answers ε χ :=
  match request with
  | .fireAndForget message =>
    .acceptance ((Reply.accepted (dispatcher.fireAndForget message)).mapMarks .note)
  | .requestResponse message => .response ((dispatcher.requestResponse message).mapMarks .note)
  | .requestStream message => .responses ((dispatcher.requestStream message).mapMarks .note)
  | .requestChannel freshId first others =>
    .responses ((dispatcher.requestChannel
      (stamped (first.streamId.getD freshId) first others)).mapMarks .note)

/-- The answers to a request that is sent over a connection. -/
def sent (request : Request ε) (transport : Transport ε χ ω) (remote : Remote χ) : Answers ε χ :=
  match request with
  | .fireAndForget message =>
    .acceptance (observed remote (transport.fireAndForget remote.channel message))
  | .requestResponse message =>
    .response (observed remote (transport.requestResponse remote.channel message))
  | .requestStream message =>
    .responses (observedStream remote (transport.requestStream remote.channel message))
  | .requestChannel freshId first others =>
    .responses (observedStream remote (transport.requestChannel remote.channel
      (stamped (first.streamId.getD freshId) first others)))

end Request

/-- Makes a call with nothing in between. -/
def answer (call : ServiceCall ε χ ω) : Request ε → ServiceCall ε χ ω × Answers ε χ
  | .fireAndForget message => (call.fireAndForget message).map id .acceptance
  | .requestResponse message => (call.requestResponse message).map id .response
  | .requestStream message => (call.requestStream message).map id .responses
  | .requestChannel freshId first others =>
    (call.openChannel freshId (some (.ok first)) others).map id .responses

/-- A call under way. -/
inductive Exchange (ε χ ω : Type) : Type 1 where
  /-- It waits for its connection as one of the callers of the cache. -/
  | connecting (caller : Nat) (transport : Transport ε χ ω) (request : Request ε)
  /-- Its results are pulled, which come over a connection unless it was refused or is served in
  process. -/
  | answering (remote : Option (Remote χ)) (results : Results ε χ)

/-- A call that waits goes on once it was given the outcome of its attempt. -/
def Exchange.proceed (exchange : Exchange ε χ ω) (session : Cache.Session χ) : Exchange ε χ ω :=
  match exchange with
  | .connecting caller transport request =>
    match session.callers[caller]? with
    | some ⟨address, _, _, some (.ok channel)⟩ =>
      .answering (some ⟨address, channel⟩) (request.sent transport ⟨address, channel⟩).results
    | some ⟨_, _, _, some (.error error)⟩ => .answering none (request.refused error).results
    | _ => exchange
  | .answering _ _ => exchange

/-- A connection cache and the calls that share it. -/
structure Traffic (ε χ ω : Type) : Type 1 where
  /-- The cache and its callers. -/
  session : Cache.Session χ
  /-- The calls, in the order in which they were made. -/
  exchanges : List (Exchange ε χ ω)

namespace Traffic

/-- One thing that happens to the calls or to the cache that they share. -/
inductive Event (ε χ ω : Type) : Type 1 where
  /-- Something is asked of a service call, with the registry and the router that it has by now. -/
  | call (call : ServiceCall ε χ ω) (request : Request ε)
  /-- A call goes on if it was given its connection. -/
  | proceed (number : Nat)
  /-- A result of a call is pulled. -/
  | pull (number : Nat)
  /-- Something happens to the cache or to one of its callers. -/
  | cache (event : Cache.Event χ)

/-- Before any call. -/
def start : Traffic ε χ ω := ⟨.start, []⟩

/-- The cache that the calls share. -/
def cache (traffic : Traffic ε χ ω) : Cache χ := traffic.session.cache

/-- One more call under way. -/
def add (traffic : Traffic ε χ ω) (exchange : Exchange ε χ ω) : Traffic ε χ ω :=
  { traffic with exchanges := traffic.exchanges ++ [exchange] }

/-- What an event does. -/
def handle [BEq χ] (traffic : Traffic ε χ ω) : Event ε χ ω → Traffic ε χ ω
  | .call call request =>
    match (call.route request.message).2 with
    | .refused error => traffic.add (.answering none (request.refused error).results)
    | .inProcess dispatcher => traffic.add (.answering none (request.served dispatcher).results)
    | .remote transport address =>
      { traffic with session := traffic.session.handle (.create address) }.add
        (.connecting traffic.session.callers.length transport request)
  | .proceed number =>
    { traffic with
      exchanges := traffic.exchanges.modify number (fun exchange =>
        exchange.proceed traffic.session) }
  | .pull number =>
    match traffic.exchanges[number]? with
    | some (.answering remote results) =>
      let (marks, _, rest) := results.next
      ⟨{ traffic.session with cache := observeAll traffic.session.cache marks },
        traffic.exchanges.set number (.answering remote rest)⟩
    | _ => traffic
  | .cache event => { traffic with session := traffic.session.handle event }

/-- The calls after events. -/
def after [BEq χ] (traffic : Traffic ε χ ω) (events : List (Event ε χ ω)) : Traffic ε χ ω :=
  events.foldl handle traffic

end Traffic

end ServiceCall

end ServiceMesh
