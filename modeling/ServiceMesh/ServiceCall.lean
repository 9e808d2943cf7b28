import ServiceMesh.Cache
import ServiceMesh.Dispatcher
import ServiceMesh.Routing
import ServiceMesh.Transport

/-!
# Service calls

A service call takes a message to whoever serves it.  A qualifier that the local dispatcher serves
is answered in process, whatever the registry says.  Any other is routed to a registered instance
and sent over a cached connection.  An error that says that the connection is broken evicts this
connection, and only this one, from the cache, so that the next call connects anew.
-/

namespace ServiceMesh

/-- A connection and the address it was routed to. -/
structure Remote (χ : Type) where
  /-- The address of the instance. -/
  address : Address
  /-- The channel of the connection. -/
  channel : χ
  deriving DecidableEq, Repr

/-- What calls leave in the log. -/
inductive CallMark (ε χ : Type) where
  /-- A mark of a handler or of the transport. -/
  | note (mark : ε)
  /-- A call over a connection has given an error. -/
  | failure (remote : Remote χ) (error : CallError)
  deriving DecidableEq, Repr

/-- The entry point for calls. -/
structure ServiceCall (ε χ ω : Type) : Type 1 where
  /-- What is served in process. -/
  dispatcher : Option (Dispatcher ε)
  /-- How other processes are reached. -/
  transport : Option (Transport ε χ ω)
  /-- The codecs for the values of stubs. -/
  codecs : CodecRegistry
  /-- The known instances. -/
  registry : Registry
  /-- Chooses among instances. -/
  router : Router
  /-- The shared connections. -/
  cache : Cache χ
  /-- The state of the transport. -/
  network : ω

namespace ServiceCall

variable {ε χ ω : Type}

/-- The codecs of a service call: those given, or else those of the dispatcher, or else JSON. -/
def chooseCodecs (given : Option CodecRegistry) (dispatcher : Option (Dispatcher ε)) :
    CodecRegistry :=
  match given, dispatcher with
  | some codecs, _ => codecs
  | none, some dispatcher => dispatcher.codecs
  | none, none => .withJson

/-- The error of a message that no registered instance serves. -/
def noRoute (qualifier : String) : CallError :=
  .unavailable s!"No reachable member with such service definition [{qualifier}]"

/-- The error of a routed message that cannot be sent anywhere. -/
def noTransport (qualifier : String) : CallError :=
  .unavailable s!"No transport configured to reach '{qualifier}'"

/-- The dispatcher, if it serves a message. -/
def localTarget (call : ServiceCall ε χ ω) (message : Message) : Option (Dispatcher ε) :=
  call.dispatcher.filter (fun dispatcher => dispatcher.contains message.qualifier)

/-- Where a message goes. -/
inductive Target (ε χ ω : Type) : Type 1 where
  /-- Nowhere, for a reason. -/
  | refused (error : CallError)
  /-- To a dispatcher in this process. -/
  | inProcess (dispatcher : Dispatcher ε)
  /-- To a registered instance. -/
  | remote (transport : Transport ε χ ω) (address : Address)

/-- Finds out where a message goes: nowhere without a qualifier, to the local dispatcher if that
serves it, and otherwise to an instance that the router chooses. -/
def route (call : ServiceCall ε χ ω) (message : Message) : ServiceCall ε χ ω × Target ε χ ω :=
  if message.qualifier = "" then (call, .refused Dispatcher.missingQualifier)
  else match call.localTarget message with
    | some dispatcher => (call, .inProcess dispatcher)
    | none =>
      let (reference, router) := call.router.route call.registry message
      ({ call with router }, match reference, call.transport with
        | none, _ => .refused (noRoute message.qualifier)
        | some _, none => .refused (noTransport message.qualifier)
        | some reference, some transport => .remote transport reference.address)

/-- What came of looking for a connection. -/
structure Reached (ε χ ω : Type) : Type 1 where
  /-- The call afterwards. -/
  call : ServiceCall ε χ ω
  /-- The marks left. -/
  marks : List ε
  /-- The connection, or why there is none. -/
  remote : Outcome (Remote χ)

/-- A connection to an address, from the cache or from the transport. -/
def reach (call : ServiceCall ε χ ω) (transport : Transport ε χ ω) (address : Address) :
    Reached ε χ ω :=
  let joined := call.cache.join address
  match joined.cache.outcome? joined.generation with
  | some outcome => ⟨{ call with cache := joined.cache }, [], outcome.map (Remote.mk address)⟩
  | none =>
    let connected := transport.connect call.network address
    let cache := joined.cache.settle joined.generation connected.outcome
    ⟨{ call with cache, network := connected.network }, connected.marks,
      connected.outcome.map (Remote.mk address)⟩

/-- The cache after an error of a call over a connection. -/
def observe [BEq χ] (cache : Cache χ) (remote : Remote χ) (error : CallError) : Cache χ :=
  if error.breaksConnection then cache.evictChannel remote.address remote.channel else cache

/-- The cache after marks were left. -/
def observeAll [BEq χ] (cache : Cache χ) (marks : List (CallMark ε χ)) : Cache χ :=
  marks.foldl (fun cache mark =>
    match mark with
    | .note _ => cache
    | .failure remote error => observe cache remote error) cache

/-- The call after the marks of a result were left. -/
def absorb [BEq χ] (call : ServiceCall ε χ ω) (marks : List (CallMark ε χ)) :
    ServiceCall ε χ ω :=
  { call with cache := observeAll call.cache marks }

/-- The marks of handlers and transport among the marks of calls. -/
def notes (marks : List (CallMark ε χ)) : List ε :=
  marks.filterMap fun
    | .note mark => some mark
    | .failure _ _ => none

/-- The mark of a result that is an error. -/
def failureMarks {α : Type} (remote : Remote χ) : Outcome α → List (CallMark ε χ)
  | .ok _ => []
  | .error error => [.failure remote error]

/-- The result of a call over a connection, with a mark if it is an error. -/
def observed {α : Type} (remote : Remote χ) (reply : Reply ε (Outcome α)) :
    Reply (CallMark ε χ) (Outcome α) :=
  (reply.mapMarks .note).inspect (failureMarks remote)

/-- The results of a call over a connection, with a mark for each error. -/
def observedStream (remote : Remote χ) (responses : Source ε (Outcome Message)) :
    Source (CallMark ε χ) (Outcome Message) :=
  (responses.mapMarks .note).inspect (failureMarks remote)

/-- Makes a call that gives one result: refused, served in process, or sent over a connection.  The
call afterwards is given apart from what the marks of the result do to it. -/
def single {α : Type} (call : ServiceCall ε χ ω) (message : Message)
    (serve : Dispatcher ε → Reply ε (Outcome α))
    (send : Transport ε χ ω → χ → Reply ε (Outcome α)) :
    ServiceCall ε χ ω × Reply (CallMark ε χ) (Outcome α) :=
  match call.route message with
  | (call, .refused error) => (call, .of (.error error))
  | (call, .inProcess dispatcher) => (call, (serve dispatcher).mapMarks .note)
  | (call, .remote transport address) =>
    let reached := call.reach transport address
    (reached.call, (Reply.noting (reached.marks.map .note) ()).andThen fun _ =>
      match reached.remote with
      | .ok remote => observed remote (send transport remote.channel)
      | .error error => .of (.error error))

/-- Sends a message that gets no response. -/
def fireAndForget (call : ServiceCall ε χ ω) (message : Message) :
    ServiceCall ε χ ω × Reply (CallMark ε χ) (Outcome Unit) :=
  call.single message (fun dispatcher => .accepted (dispatcher.fireAndForget message))
    (fun transport channel => transport.fireAndForget channel message)

/-- Sends a message that gets one response. -/
def requestResponse (call : ServiceCall ε χ ω) (message : Message) :
    ServiceCall ε χ ω × Reply (CallMark ε χ) (Outcome Message) :=
  call.single message (fun dispatcher => dispatcher.requestResponse message)
    (fun transport channel => transport.requestResponse channel message)

/-- Makes a call that gives a stream of results: refused, served in process, or sent over a
connection. -/
def stream (call : ServiceCall ε χ ω) (message : Message)
    (refuse : CallError → Source (CallMark ε χ) (Outcome Message))
    (serve : Dispatcher ε → Source ε (Outcome Message))
    (send : Transport ε χ ω → χ → Source ε (Outcome Message)) :
    ServiceCall ε χ ω × Source (CallMark ε χ) (Outcome Message) :=
  match call.route message with
  | (call, .refused error) => (call, refuse error)
  | (call, .inProcess dispatcher) => (call, (serve dispatcher).mapMarks .note)
  | (call, .remote transport address) =>
    let reached := call.reach transport address
    let results := match reached.remote with
      | .ok remote => observedStream remote (send transport remote.channel)
      | .error error => refuse error
    (reached.call, results.afterMarks (reached.marks.map .note))

/-- Sends a message that gets a stream of responses. -/
def requestStream (call : ServiceCall ε χ ω) (message : Message) :
    ServiceCall ε χ ω × Source (CallMark ε χ) (Outcome Message) :=
  call.stream message .failed (fun dispatcher => dispatcher.requestStream message)
    (fun transport channel => transport.requestStream channel message)

/-- The requests of a channel as the target sees them: the first again in front, and every message
with the stream id of the exchange. -/
def stamped (streamId : String) (first : Message) (others : Source ε (Outcome Message)) :
    Source ε (Outcome Message) :=
  Source.cons (.ok (first.withStreamId streamId))
    (others.mapOutcome (fun message => .ok (message.withStreamId streamId)))

/-- Gives up the further requests of a channel and answers with an error. -/
def refuse (others : Source ε (Outcome Message)) (error : CallError) :
    Source (CallMark ε χ) (Outcome Message) :=
  (others.mapMarks CallMark.note).instead (.failed error)

/-- Sends a stream of messages that gets a stream of responses.  The first message, or its absence,
selects the target.  Its stream id, or else a fresh one, goes with every message. -/
def openChannel (call : ServiceCall ε χ ω) (freshId : String) (first : Option (Outcome Message))
    (others : Source ε (Outcome Message)) :
    ServiceCall ε χ ω × Source (CallMark ε χ) (Outcome Message) :=
  match first with
  | none => (call, refuse others Dispatcher.missingRequest)
  | some (.error error) => (call, refuse others error)
  | some (.ok message) =>
    let streamId := message.streamId.getD freshId
    let requests := stamped streamId message others
    call.stream (message.withStreamId streamId) (refuse others)
      (fun dispatcher => dispatcher.requestChannel requests)
      (fun transport channel => transport.requestChannel channel requests)

end ServiceCall

end ServiceMesh
