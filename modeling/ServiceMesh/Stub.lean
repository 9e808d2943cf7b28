import ServiceMesh.ServiceCall

/-!
# Stubs

A stub calls one method through a service call.  A typed stub writes values into payloads and reads
values from responses, and ends a stream of responses at the first one that it cannot read.  Its
headers are written after the qualifier of the method and may write any reserved field.  A raw stub
sends messages as they are, apart from the qualifier.
-/

namespace ServiceMesh

/-- Refuses a call of a method in another mode than its own. -/
def Binding.checkMode (binding : Binding) (mode : Mode) : Outcome Unit :=
  if binding.mode = mode then .ok () else .error (Dispatcher.wrongMode binding mode)

/-- A stub that takes and gives values. -/
structure TypedStub where
  /-- The method. -/
  binding : Binding
  /-- The headers of every message. -/
  headers : Dict String

namespace TypedStub

variable {ε χ ω : Type} {α β : Type} [Wire α] [Wire β]

/-- The stub of a method whose responses are values of type `β`. -/
def of (β : Type) [Wire β] (space action : String) (mode : Mode) : TypedStub :=
  ⟨.typed space action mode (Wire.typeName β), Dict.empty⟩

/-- A copy with one header written. -/
def withHeader (stub : TypedStub) (key value : String) : TypedStub :=
  { stub with headers := stub.headers.insert key value }

/-- The message that carries a value as a request.  The headers may write reserved fields. -/
def message (stub : TypedStub) (request : α) : Outcome Message := do
  let payload ← Message.payloadOf request
  return ((Message.blank.withQualifier stub.binding.qualifier).withHeaders
    stub.headers.entries).withPayload payload

/-- Sends a value that gets no response. -/
def send (stub : TypedStub) (call : ServiceCall ε χ ω) (request : α) :
    ServiceCall ε χ ω × Reply (CallMark ε χ) (Outcome Unit) :=
  match stub.binding.checkMode .fireAndForget, stub.message request with
  | .error error, _ | .ok _, .error error => (call, .of (.error error))
  | .ok _, .ok message => call.fireAndForget message

/-- Sends a value that gets a value. -/
def request (stub : TypedStub) (call : ServiceCall ε χ ω) (β : Type) [Wire β] (request : α) :
    ServiceCall ε χ ω × Reply (CallMark ε χ) (Outcome β) :=
  match stub.binding.checkMode .requestResponse, stub.message request with
  | .error error, _ | .ok _, .error error => (call, .of (.error error))
  | .ok _, .ok message =>
    let (after, reply) := call.requestResponse message
    (after, reply.andThenOk (fun response => .of (response.decodeData β call.codecs)))

/-- Sends a value that gets a stream of values. -/
def stream (stub : TypedStub) (call : ServiceCall ε χ ω) (β : Type) [Wire β] (request : α) :
    ServiceCall ε χ ω × Source (CallMark ε χ) (Outcome β) :=
  match stub.binding.checkMode .requestStream, stub.message request with
  | .error error, _ | .ok _, .error error => (call, .failed error)
  | .ok _, .ok message =>
    let (after, responses) := call.requestStream message
    (after, (responses.mapOutcome (fun response => response.decodeData β call.codecs)).guarded)

/-- Sends a stream of values, of which the first is given apart, that gets a stream of values. -/
def channel (stub : TypedStub) (call : ServiceCall ε χ ω) (β : Type) [Wire β] (freshId : String)
    (first : Option α) (others : Source ε α) :
    ServiceCall ε χ ω × Source (CallMark ε χ) (Outcome β) :=
  match stub.binding.checkMode .requestChannel with
  | .error error => (call, (others.mapMarks CallMark.note).instead (.failed error))
  | .ok _ =>
    let (after, responses) :=
      call.openChannel freshId (first.map stub.message) (others.map stub.message)
    (after, (responses.mapOutcome (fun response => response.decodeData β call.codecs)).guarded)

end TypedStub

/-- A stub that takes and gives messages. -/
structure RawStub where
  /-- The method. -/
  binding : Binding

namespace RawStub

variable {ε χ ω : Type}

/-- The stub of a method. -/
def of (space action : String) (mode : Mode) : RawStub := ⟨.raw space action mode⟩

/-- A message addressed to the method. -/
def address (stub : RawStub) (message : Message) : Message :=
  message.withQualifier stub.binding.qualifier

/-- Sends a message that gets no response. -/
def send (stub : RawStub) (call : ServiceCall ε χ ω) (message : Message) :
    ServiceCall ε χ ω × Reply (CallMark ε χ) (Outcome Unit) :=
  match stub.binding.checkMode .fireAndForget with
  | .error error => (call, .of (.error error))
  | .ok _ => call.fireAndForget (stub.address message)

/-- Sends a message that gets one response. -/
def request (stub : RawStub) (call : ServiceCall ε χ ω) (message : Message) :
    ServiceCall ε χ ω × Reply (CallMark ε χ) (Outcome Message) :=
  match stub.binding.checkMode .requestResponse with
  | .error error => (call, .of (.error error))
  | .ok _ => call.requestResponse (stub.address message)

/-- Sends a message that gets a stream of responses. -/
def stream (stub : RawStub) (call : ServiceCall ε χ ω) (message : Message) :
    ServiceCall ε χ ω × Source (CallMark ε χ) (Outcome Message) :=
  match stub.binding.checkMode .requestStream with
  | .error error => (call, .failed error)
  | .ok _ => call.requestStream (stub.address message)

/-- Sends a stream of messages, of which the first is given apart, that gets a stream of
responses. -/
def channel (stub : RawStub) (call : ServiceCall ε χ ω) (freshId : String)
    (first : Option (Outcome Message)) (others : Source ε (Outcome Message)) :
    ServiceCall ε χ ω × Source (CallMark ε χ) (Outcome Message) :=
  match stub.binding.checkMode .requestChannel with
  | .error error => (call, (others.mapMarks CallMark.note).instead (.failed error))
  | .ok _ =>
    call.openChannel freshId (first.map (Except.map stub.address))
      (others.mapOutcome (fun message => .ok (stub.address message)))

end RawStub

end ServiceMesh
