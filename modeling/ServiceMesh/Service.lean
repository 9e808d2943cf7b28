import ServiceMesh.Binding
import ServiceMesh.Codec.Envelope
import ServiceMesh.Dict
import ServiceMesh.Flow.Reply
import ServiceMesh.Flow.Source

/-!
# Services

A service is a named group of methods, each with a handler for one communication mode.  A raw
handler takes and gives whole messages.  A typed handler takes and gives values: requests are read
from the payloads with the codecs at hand, and responses become messages with the qualifier of the
method, the name of their type and the stream id of the first request.  Every stream of responses is
cut after its first error.
-/

namespace ServiceMesh

/-- What serves a method.  Handlers leave marks of type `ε` in a log. -/
inductive Handler (ε : Type) : Type 1 where
  /-- Takes a request and gives nothing back; the work goes on in the background. -/
  | fireAndForget (start : CodecRegistry → Message → Launch ε (Outcome Unit))
  /-- Takes a request and gives a response. -/
  | requestResponse (respond : CodecRegistry → Message → Reply ε (Outcome Message))
  /-- Takes a request and gives a stream of responses. -/
  | requestStream (respond : CodecRegistry → Message → Source ε (Outcome Message))
  /-- Takes the first request and the stream of the further ones, and gives a stream of
  responses. -/
  | requestChannel
    (respond : CodecRegistry → Message → Source ε (Outcome Message) → Source ε (Outcome Message))

/-- The mode that a handler serves. -/
def Handler.mode {ε : Type} : Handler ε → Mode
  | .fireAndForget _ => .fireAndForget
  | .requestResponse _ => .requestResponse
  | .requestStream _ => .requestStream
  | .requestChannel _ => .requestChannel

/-- A method of a service. -/
structure Method (ε : Type) : Type 1 where
  /-- What the method is called. -/
  binding : Binding
  /-- The tags of the method. -/
  tags : Dict String
  /-- What serves it. -/
  handler : Handler ε

/-- A named group of methods. -/
structure Service (ε : Type) : Type 1 where
  /-- The namespace of the methods. -/
  space : String
  /-- The tags of the service. -/
  tags : Dict String
  /-- The methods in their order of registration. -/
  methods : List (Method ε)

/-- The message that carries a value as a response. -/
def wrapResponse {α : Type} [Wire α] (qualifier : String) (streamId : Option String) (value : α) :
    Outcome Message :=
  match Message.payloadOf value with
  | .error error =>
    .error (.internal s!"Failed to encode response of '{qualifier}': {error.describe}")
  | .ok payload =>
    let message := (Message.carrying qualifier payload).withDataType (Wire.typeName α)
    .ok (match streamId with
      | some streamId => message.withStreamId streamId
      | none => message)

namespace Service

variable {ε : Type}

/-- The service without methods. -/
def named (space : String) : Service ε := ⟨space, Dict.empty, []⟩

/-- A copy with one tag written. -/
def withTag (service : Service ε) (key value : String) : Service ε :=
  { service with tags := service.tags.insert key value }

/-- The methods with one tag written at the first one of an action. -/
def tagFirst (action key value : String) : List (Method ε) → List (Method ε)
  | [] => []
  | method :: methods =>
    if method.binding.action = action then
      { method with tags := method.tags.insert key value } :: methods
    else method :: tagFirst action key value methods

/-- A copy with one tag written at a method; an unknown action changes nothing. -/
def withMethodTag (service : Service ε) (action key value : String) : Service ε :=
  { service with methods := tagFirst action key value service.methods }

/-- A copy with one more method. -/
def withMethod (service : Service ε) (binding : Binding) (handler : Handler ε) : Service ε :=
  { service with methods := service.methods ++ [⟨binding, Dict.empty, handler⟩] }

/-- Registers a raw handler. -/
def withRaw (service : Service ε) (action : String) (handler : Handler ε) : Service ε :=
  service.withMethod (.raw service.space action handler.mode) handler

/-- Registers a handler of values of type `α`, which gives nothing back. -/
def fireAndForget (α : Type) [Wire α] (service : Service ε) (action : String)
    (handle : α → Reply ε (Outcome Unit)) : Service ε :=
  service.withMethod (.typed service.space action .fireAndForget (Wire.typeName Unit))
    (.fireAndForget (fun codecs message =>
      .running ((Reply.of (message.decodeData α codecs)).andThenOk handle)))

/-- Registers a handler that answers a value of type `α` with a value of type `β`. -/
def requestResponse (α β : Type) [Wire α] [Wire β] (service : Service ε) (action : String)
    (handle : α → Reply ε (Outcome β)) : Service ε :=
  let binding := Binding.typed service.space action .requestResponse (Wire.typeName β)
  service.withMethod binding
    (.requestResponse (fun codecs message =>
      ((Reply.of (message.decodeData α codecs)).andThenOk handle).andThenOk (fun response =>
        Reply.of (wrapResponse binding.qualifier message.streamId response))))

/-- Registers a handler that answers a value of type `α` with a stream of values of type `β`. -/
def requestStream (α β : Type) [Wire α] [Wire β] (service : Service ε) (action : String)
    (handle : α → Source ε (Outcome β)) : Service ε :=
  let binding := Binding.typed service.space action .requestStream (Wire.typeName β)
  service.withMethod binding
    (.requestStream (fun codecs message =>
      match message.decodeData α codecs with
      | .error error => Source.failed error
      | .ok request =>
        ((handle request).mapOutcome (wrapResponse binding.qualifier message.streamId)).guarded))

/-- Registers a handler that answers a stream of values of type `α` with a stream of values of type
`β`.  Requests that cannot be read reach the handler as errors. -/
def requestChannel (α β : Type) [Wire α] [Wire β] (service : Service ε) (action : String)
    (handle : Source ε (Outcome α) → Source ε (Outcome β)) : Service ε :=
  let binding := Binding.typed service.space action .requestChannel (Wire.typeName β)
  service.withMethod binding
    (.requestChannel (fun codecs first others =>
      let requests := (Source.cons (.ok first) others).mapOutcome
        (fun message => message.decodeData α codecs)
      ((handle requests).mapOutcome (wrapResponse binding.qualifier first.streamId)).guarded))

/-- Registers a handler of messages, which gives nothing back. -/
def rawFireAndForget (service : Service ε) (action : String)
    (handle : Message → Launch ε (Outcome Unit)) : Service ε :=
  service.withRaw action (.fireAndForget (fun _ message => handle message))

/-- Registers a handler that answers a message with a message. -/
def rawRequestResponse (service : Service ε) (action : String)
    (handle : Message → Reply ε (Outcome Message)) : Service ε :=
  service.withRaw action (.requestResponse (fun _ message => handle message))

/-- Registers a handler that answers a message with a stream of messages. -/
def rawRequestStream (service : Service ε) (action : String)
    (handle : Message → Source ε (Outcome Message)) : Service ε :=
  service.withRaw action (.requestStream (fun _ message => (handle message).guarded))

/-- Registers a handler that answers a stream of messages with a stream of messages. -/
def rawRequestChannel (service : Service ε) (action : String)
    (handle : Source ε (Outcome Message) → Source ε (Outcome Message)) : Service ε :=
  service.withRaw action (.requestChannel (fun _ first others =>
    (handle (Source.cons (.ok first) others)).guarded))

end Service

end ServiceMesh
