import ServiceMesh.Description.Part
import ServiceMesh.Frame
import ServiceMesh.Routing

/-!
# Descriptions of messages, frames and routers

Messages, errors, frames, endpoints and routers as JSON values describe them.
-/

namespace ServiceMesh.Description

/-- A payload: a value, bytes, or nothing. -/
def payload : Json → Payload
  | .obj [("value", content)] => .value content
  | .obj [("bytes", content)] => .bytes (bytes content)
  | _ => .empty

/-- A message with one field written, if its description has it. -/
def given (value : Json) (key : String) (write : Message → String → Message) (message : Message) :
    Message :=
  match text? (field key value) with
  | some content => write message content
  | none => message

/-- A message: its reserved fields, then its headers in key order, then its payload. -/
def message (value : Json) : Message :=
  let read := given value "q" .withQualifier .blank
  let read := given value "sid" .withStreamId read
  let read := given value "type" .withDataType read
  let read := given value "format" .withDataFormat read
  let read := given value "inactivity" .withInactivity read
  (read.withHeaders (texts (field "headers" value)).entries).withPayload
    (payload (field "data" value))

/-- An error: its code and its text. -/
def error (value : Json) : CallError :=
  .ofCode (UInt16.ofNat (natural (argument value 0))) (text (argument value 1))

/-- An item of a stream: a message, or an error. -/
def item (value : Json) : Outcome Message :=
  match value.member? "err" with
  | some failure => .error (error failure)
  | none => .ok (message value)

/-- A communication mode. -/
def mode (value : Json) : Mode := (Mode.ofName? (text value)).getD default

/-- An address in text. -/
def address (value : Json) : Address := (Address.parse (text value)).toOption.getD default

/-- A host and a port. -/
def hostAndPort (value : Json) : Address :=
  ⟨text (argument value 0), UInt16.ofNat (natural (argument value 1))⟩

/-- An endpoint as it is announced. -/
def endpoint (value : Json) : Option Endpoint := (Wire.read value).toOption

/-- The endpoints among some values. -/
def endpoints (value : Json) : List Endpoint := (items value).filterMap endpoint

/-- A change that discovery reports. -/
def event (value : Json) : Option DiscoveryEvent :=
  match value.member? "add" with
  | some added => (endpoint added).map .added
  | none => some (.removed (text (field "remove" value)))

/-- The envelope of a message, or its two buffers. -/
def envelope (value : Json) : Envelope :=
  match value.member? "message" with
  | some content =>
    ((MessageCodec.ofRegistry .withJson).encode (message content)).toOption.getD ⟨[], []⟩
  | none => ⟨bytes (field "data" value), bytes (field "headers" value)⟩

/-- A frame. -/
def frame (value : Json) : Frame :=
  let id := UInt64.ofNat (natural (field "id" value))
  match text (field "kind" value) with
  | "request" => .request (mode (field "mode" value)) id (envelope value)
  | "next" => .next id (envelope value)
  | "complete" => .complete id
  | "error" =>
    .error id (UInt16.ofNat (natural (field "code" value))) (text (field "text" value))
  | "cancel" => .cancel id
  | _ => .requestN id (UInt32.ofNat (natural (field "n" value)))

/-- A described router, and whether its choice is up to a generator without a seed. -/
structure Choice where
  /-- The router. -/
  router : Router
  /-- Whether the choice among several candidates is not determined. -/
  isOpen : Bool

/-- A router that is nested at most `depth` times. -/
def choiceWithin : (depth : Nat) → Json → Choice
  | 0, _ => ⟨.standard, false⟩
  | depth + 1, value =>
    match text (field "type" value) with
    | "random" => ⟨.random default, true⟩
    | "weighted" =>
      match natural? (field "seed" value) with
      | some seed => ⟨.weighted (.ofSeed (UInt64.ofNat seed)), false⟩
      | none => ⟨.weighted default, true⟩
    | "tag" =>
      let inner := choiceWithin depth (field "inner" value)
      ⟨.tagged (texts (field "tags" value)) inner.router, inner.isOpen⟩
    | _ => ⟨.standard, false⟩

/-- A router. -/
def choice (value : Json) : Choice := choiceWithin (value.depth + 1) value

end ServiceMesh.Description
