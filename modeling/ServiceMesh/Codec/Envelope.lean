import ServiceMesh.Codec
import ServiceMesh.Message
import ServiceMesh.Wire
/-!
# Envelopes as pairs of buffers

A message travels as a data buffer and a header buffer.  Raw payloads pass through; values are
written by the codec of the message's data format.  The reserved fields travel among the headers,
and a message without any header has an empty header buffer.  Decoding leaves the data raw, until
somebody asks for its value or for a type.
-/

namespace ServiceMesh

/-- A message as it travels: the data buffer and the header buffer. -/
structure Envelope where
  /-- The payload. -/
  data : Bytes
  /-- The reserved fields and the application headers. -/
  headers : Bytes
  deriving DecidableEq, Repr, Inhabited

/-- Turns messages into envelopes and back. -/
structure MessageCodec where
  /-- The codecs at hand. -/
  registry : CodecRegistry
  /-- The content type of the header buffer. -/
  headerFormat : String

namespace MessageCodec

/-- The codec that writes headers in the default format. -/
def ofRegistry (registry : CodecRegistry) : MessageCodec := ⟨registry, Codec.defaultType⟩

/-- The headers that travel: the application headers, and the reserved fields that are present. -/
def mergedHeaders (message : Message) : Dict String :=
  message.headers.insertMany
    (Reserved.all.filterMap (fun field =>
      (message.reserved? field).map (fun value => (field.key, value))))

/-- The data buffer of a message. -/
def encodeData (codec : MessageCodec) (message : Message) : Outcome Bytes :=
  match message.payload with
  | .empty => .ok []
  | .bytes content => .ok content
  | .value content => do (← codec.registry.dataCodec message.dataFormat).encode content

/-- The header buffer of a message. -/
def encodeHeaders (codec : MessageCodec) (message : Message) : Outcome Bytes :=
  let merged := mergedHeaders message
  if merged.isEmpty then .ok []
  else do (← codec.registry.headerCodec (some codec.headerFormat)).encode merged

/-- The envelope of a message. -/
def encode (codec : MessageCodec) (message : Message) : Outcome Envelope := do
  let data ← codec.encodeData message
  let headers ← codec.encodeHeaders message
  return ⟨data, headers⟩

/-- The headers of an envelope. -/
def decodeHeaders (codec : MessageCodec) (headers : Bytes) : Outcome (Dict String) :=
  if headers.isEmpty then .ok Dict.empty
  else do (← codec.registry.headerCodec (some codec.headerFormat)).decode headers

/-- The message of an envelope, its data still raw; an empty data buffer means no data. -/
def decode (codec : MessageCodec) (envelope : Envelope) : Outcome Message := do
  let headers ← codec.decodeHeaders envelope.headers
  let message := Message.blank.withHeaders headers.entries
  return if envelope.data.isEmpty then message else message.withPayload (.bytes envelope.data)

end MessageCodec

namespace Message

/-- The payload as a value; raw data goes through the codec of the data format, and no data is
null. -/
def dataValue (message : Message) (codecs : CodecRegistry) : Outcome Json :=
  match message.payload with
  | .empty => .ok .null
  | .value content => .ok content
  | .bytes content => do (← codecs.dataCodec message.dataFormat).decode content

/-- The payload as a value of a type. -/
def decodeData (α : Type) [Wire α] (message : Message) (codecs : CodecRegistry) : Outcome α := do
  let value ← message.dataValue codecs
  match Wire.read value with
  | .ok content => return content
  | .error mismatch =>
    throw (.badRequest (s!"Failed to decode payload of '{message.qualifier}' as " ++
      s!"{Wire.typeName α}: {mismatch.message}"))

/-- The payload that holds a value of a type. -/
def payloadOf {α : Type} [Wire α] (content : α) : Outcome Payload :=
  match Wire.write content with
  | .ok value => .ok (.value value)
  | .error reason => .error (.unserializable reason)

end Message

end ServiceMesh
