import ServiceMesh.Json.Printer
import ServiceMesh.Text.Unsigned
/-!
# Messages

A message is the envelope of a call: a qualifier, four optional fields, application headers and a
payload.  The five fields have reserved header keys.  Writing a header under a reserved key sets the
field instead, so the application headers of a message built here hold no reserved key.  Every
`with` function returns a changed copy and leaves all else as it was.
-/

namespace ServiceMesh

/-- What a message carries. -/
inductive Payload where
  /-- No data. -/
  | empty
  /-- Data as it came, not yet decoded. -/
  | bytes (content : Bytes)
  /-- A decoded value. -/
  | value (content : Json)
  deriving Inhabited, BEq

/-- Whether there is no data. -/
def Payload.isEmpty : Payload → Bool
  | .empty => true
  | _ => false

/-- The fields of a message that travel among its headers. -/
inductive Reserved where
  | qualifier
  | streamId
  | dataType
  | dataFormat
  | inactivity
  deriving DecidableEq, Repr

namespace Reserved

/-- The reserved fields in the order in which they are written. -/
def all : List Reserved := [.qualifier, .streamId, .dataType, .dataFormat, .inactivity]

/-- The header key of a reserved field. -/
def key : Reserved → String
  | .qualifier => "q"
  | .streamId => "sid"
  | .dataType => "_type"
  | .dataFormat => "_data_format"
  | .inactivity => "_inactivity"

/-- The reserved field of a header key. -/
def ofKey? (key : String) : Option Reserved := all.find? (fun field => field.key = key)

@[simp]
theorem ofKey?_key (field : Reserved) : ofKey? field.key = some field := by
  cases field <;> decide

end Reserved

/-- The envelope of a call. -/
structure Message where
  /-- The qualifier of the method; empty if the message names none. -/
  qualifier : String
  /-- The id of the exchange that the message belongs to. -/
  streamId : Option String
  /-- A hint at the type of the payload. -/
  dataType : Option String
  /-- The content type of the payload. -/
  dataFormat : Option String
  /-- A hint at how long the exchange may be silent. -/
  inactivity : Option String
  /-- The application headers. -/
  headers : Dict String
  /-- The payload. -/
  payload : Payload
  deriving Inhabited, BEq

namespace Message

/-- The message without any content. -/
def blank : Message := ⟨"", none, none, none, none, Dict.empty, .empty⟩

/-- A copy with another qualifier. -/
def withQualifier (message : Message) (qualifier : String) : Message :=
  { message with qualifier := qualifier }

/-- A copy with another stream id. -/
def withStreamId (message : Message) (streamId : String) : Message :=
  { message with streamId := some streamId }

/-- A copy with another data type. -/
def withDataType (message : Message) (dataType : String) : Message :=
  { message with dataType := some dataType }

/-- A copy with another data format. -/
def withDataFormat (message : Message) (dataFormat : String) : Message :=
  { message with dataFormat := some dataFormat }

/-- A copy with another inactivity hint. -/
def withInactivity (message : Message) (inactivity : String) : Message :=
  { message with inactivity := some inactivity }

/-- A copy with an inactivity hint in milliseconds. -/
def withInactivityMillis (message : Message) (millis : Nat) : Message :=
  message.withInactivity (toString millis)

/-- A copy with another payload. -/
def withPayload (message : Message) (payload : Payload) : Message :=
  { message with payload := payload }

/-- A copy with one reserved field written. -/
def withReserved (message : Message) (field : Reserved) (value : String) : Message :=
  match field with
  | .qualifier => message.withQualifier value
  | .streamId => message.withStreamId value
  | .dataType => message.withDataType value
  | .dataFormat => message.withDataFormat value
  | .inactivity => message.withInactivity value

/-- A copy with one header written; a reserved key writes its field. -/
def withHeader (message : Message) (key value : String) : Message :=
  match Reserved.ofKey? key with
  | some field => message.withReserved field value
  | none => { message with headers := message.headers.insert key value }

/-- A copy with headers written one after the other. -/
def withHeaders (message : Message) (headers : List (String × String)) : Message :=
  headers.foldl (fun written header => written.withHeader header.1 header.2) message

/-- A message with a qualifier and a payload. -/
def carrying (qualifier : String) (payload : Payload) : Message :=
  (blank.withQualifier qualifier).withPayload payload

/-- The value of a reserved field; an empty qualifier counts as absent. -/
def reserved? (message : Message) : Reserved → Option String
  | .qualifier => if message.qualifier = "" then none else some message.qualifier
  | .streamId => message.streamId
  | .dataType => message.dataType
  | .dataFormat => message.dataFormat
  | .inactivity => message.inactivity

/-- The application header under a key. -/
def header? (message : Message) (key : String) : Option String := message.headers.get? key

/-- Whether the message carries data. -/
def hasData (message : Message) : Bool := !message.payload.isEmpty

/-- The inactivity hint as a number of milliseconds, if it is one of at most 64 bits. -/
def inactivityMillis? (message : Message) : Option Nat := do
  match Text.readUnsigned 0xFFFFFFFFFFFFFFFF (← message.inactivity) with
  | .ok millis => some millis
  | .error _ => none

/-- One line that shows what the message is about. -/
def describe (message : Message) : String :=
  let streamId := match message.streamId with
    | some id => s!", sid={id}"
    | none => ""
  let headers :=
    if message.headers.isEmpty then "" else s!", headers={message.headers.size}"
  let data := match message.payload with
    | .empty => "empty"
    | .bytes content => s!"{content.length} bytes"
    | .value _ => "value"
  s!"Message[q={message.qualifier}{streamId}{headers}, data={data}]"

end Message

end ServiceMesh
