import ServiceMesh.Endpoint
import ServiceMesh.Service

/-!
# The local dispatcher

A dispatcher is the frozen table of the methods that a process serves.  It is built from services,
provided that every method has a namespace and an action and that no two share a qualifier.  A call
names its method by the qualifier of its message, or of its first message, and is refused unless
that method serves the mode of the call.
-/

namespace ServiceMesh

/-- Why no dispatcher can be built from some services. -/
inductive DispatcherError where
  /-- Two methods have this qualifier. -/
  | duplicateQualifier (qualifier : String)
  /-- The method with this qualifier lacks a namespace or an action. -/
  | invalidMethod (qualifier : String)
  deriving DecidableEq, Repr

namespace DispatcherError

/-- The wording of a build error. -/
def message : DispatcherError → String
  | .duplicateQualifier qualifier => s!"Duplicate qualifier: {qualifier}"
  | .invalidMethod qualifier =>
    s!"Invalid method '{qualifier}': namespace and action must be non-empty"

/-- The build error as the error of a call. -/
def toCallError (error : DispatcherError) : CallError := .badRequest error.message

end DispatcherError

/-- The methods that a process serves, by qualifier. -/
structure Dispatcher (ε : Type) : Type 1 where
  /-- The codecs for requests and responses. -/
  codecs : CodecRegistry
  /-- The methods under their qualifiers. -/
  methods : Dict (Method ε)
  /-- What the services announce, in their order. -/
  registrations : List ServiceInfo

/-- What a service announces. -/
def Service.info {ε : Type} (service : Service ε) : ServiceInfo where
  space := service.space
  tags := service.tags
  methods := service.methods.map (fun method =>
    ⟨method.binding.action, method.binding.mode, method.tags⟩)

namespace Dispatcher

variable {ε : Type}

/-- Adds a method to a table, if it is valid and new. -/
def addMethod (table : Dict (Method ε)) (method : Method ε) :
    Except DispatcherError (Dict (Method ε)) :=
  let qualifier := method.binding.qualifier
  if method.binding.space = "" || method.binding.action = "" then
    .error (.invalidMethod qualifier)
  else if table.contains qualifier then .error (.duplicateQualifier qualifier)
  else .ok (table.insert qualifier method)

/-- Adds methods one after the other; the first that cannot be added is reported. -/
def addMethods (table : Dict (Method ε)) :
    List (Method ε) → Except DispatcherError (Dict (Method ε))
  | [] => .ok table
  | method :: methods =>
    match addMethod table method with
    | .ok table => addMethods table methods
    | .error error => .error error

/-- The dispatcher of some services. -/
def build (codecs : CodecRegistry) (services : List (Service ε)) :
    Except DispatcherError (Dispatcher ε) :=
  match addMethods Dict.empty (services.flatMap Service.methods) with
  | .ok methods => .ok ⟨codecs, methods, services.map Service.info⟩
  | .error error => .error error

/-- Whether a qualifier is served. -/
def contains (dispatcher : Dispatcher ε) (qualifier : String) : Bool :=
  dispatcher.methods.contains qualifier

/-- The binding of the method that serves a qualifier. -/
def binding? (dispatcher : Dispatcher ε) (qualifier : String) : Option Binding :=
  (dispatcher.methods.get? qualifier).map Method.binding

/-- The bindings of all methods, by qualifier. -/
def bindings (dispatcher : Dispatcher ε) : List Binding :=
  dispatcher.methods.entries.map (fun entry => entry.2.binding)

/-- The error of a message that names no method. -/
def missingQualifier : CallError := .badRequest "Missing required header 'q'"

/-- The error of a channel that ends before its first request. -/
def missingRequest : CallError := .badRequest "Request channel needs at least one message"

/-- The error of a call in another mode than the method's. -/
def wrongMode (binding : Binding) (mode : Mode) : CallError :=
  .badRequest s!"'{binding.qualifier}' is a {binding.mode.title} method, called as {mode.title}"

/-- The error of a method that was registered with a handler for another mode. -/
def wrongHandler : CallError := .internal "handler kind does not match binding"

/-- The handler that serves a message in a mode. -/
def handler (dispatcher : Dispatcher ε) (message : Message) (mode : Mode) :
    Except CallError (Handler ε) :=
  if message.qualifier = "" then .error missingQualifier
  else match dispatcher.methods.get? message.qualifier with
    | none => .error (.unavailable s!"No service registered for '{message.qualifier}'")
    | some method =>
      if method.binding.mode = mode then .ok method.handler
      else .error (wrongMode method.binding mode)

/-- Starts a call that gets no response.  Acceptance is all that the caller learns; how the handler
fares remains unknown to it. -/
def fireAndForget (dispatcher : Dispatcher ε) (message : Message) :
    Outcome (Launch ε (Outcome Unit)) :=
  match dispatcher.handler message .fireAndForget with
  | .ok (.fireAndForget start) => .ok (start dispatcher.codecs message)
  | .ok _ => .error wrongHandler
  | .error error => .error error

/-- Answers a message with a message. -/
def requestResponse (dispatcher : Dispatcher ε) (message : Message) :
    Reply ε (Outcome Message) :=
  match dispatcher.handler message .requestResponse with
  | .ok (.requestResponse respond) => respond dispatcher.codecs message
  | .ok _ => .of (.error wrongHandler)
  | .error error => .of (.error error)

/-- Answers a message with a stream of messages. -/
def requestStream (dispatcher : Dispatcher ε) (message : Message) : Source ε (Outcome Message) :=
  match dispatcher.handler message .requestStream with
  | .ok (.requestStream respond) => respond dispatcher.codecs message
  | .ok _ => .failed wrongHandler
  | .error error => .failed error

/-- Answers the first request, or its absence, and the stream of the further requests. -/
def openChannel (dispatcher : Dispatcher ε) (first : Option (Outcome Message))
    (others : Source ε (Outcome Message)) : Source ε (Outcome Message) :=
  match first with
  | none => others.instead (.failed missingRequest)
  | some (.error error) => others.instead (.failed error)
  | some (.ok message) =>
    match dispatcher.handler message .requestChannel with
    | .ok (.requestChannel respond) => respond dispatcher.codecs message others
    | .ok _ => others.instead (.failed wrongHandler)
    | .error error => others.instead (.failed error)

/-- Answers a stream of messages with a stream of messages.  The first request selects the method,
whose handler sees it again in front of the further ones. -/
def requestChannel (dispatcher : Dispatcher ε) (requests : Source ε (Outcome Message)) :
    Source ε (Outcome Message) :=
  requests.opening dispatcher.openChannel

end Dispatcher

end ServiceMesh
