import ServiceMesh.Dispatcher
import ServiceMesh.Frame
import ServiceMesh.Registry

/-!
# Reports

Domain values as JSON values, for people and tools that look at what has happened.  A computed JSON
value is shown as its text, bytes as a text where they are one, and numbers that may be large as
texts of digits.
-/

namespace ServiceMesh.Report

/-- A count. -/
def number (value : Nat) : Json := .ofNat value

/-- A number that may be large. -/
def decimal (value : Nat) : Json := .str (toString value)

/-- A truth value. -/
def flag (value : Bool) : Json := .bool value

/-- A list of values. -/
def list {α : Type} (report : α → Json) (values : List α) : Json := .arr (values.map report)

/-- A text that may be absent. -/
def optional : Option String → Json
  | some content => .str content
  | none => .null

/-- The positions of the values that pass a test. -/
def positions {α : Type} (test : α → Bool) (values : List α) : Json :=
  list number ((values.zipIdx.filter (fun entry => test entry.1)).map Prod.snd)

/-- A computed value, by its text. -/
def value (content : Json) : Json := .object [("json", .str content.render)]

/-- Two hexadecimal digits for each byte. -/
def hexText (bytes : Bytes) : String :=
  String.ofList (bytes.flatMap (fun byte =>
    [Json.hexDigit (byte.toNat / 16), Json.hexDigit (byte.toNat % 16)]))

/-- Bytes as the text that they encode, or by their hexadecimal digits. -/
def bytes (content : Bytes) : Json :=
  match Utf8.decode? content with
  | some text => .str text
  | none => .object [("hex", .str (hexText content))]

/-- Bytes of headers as an object, if they hold one, since the order of headers is of no
importance. -/
def headerBytes (content : Bytes) : Json :=
  match Json.textsOfBytes? content with
  | some headers => .ofTexts headers
  | none => bytes content

/-- A payload. -/
def payload : Payload → Json
  | .empty => .str "empty"
  | .value content => value content
  | .bytes content => .object [("bytes", bytes content)]

/-- A message with all its fields. -/
def message (content : Message) : Json :=
  .object [("q", .str content.qualifier), ("sid", optional content.streamId),
    ("type", optional content.dataType), ("format", optional content.dataFormat),
    ("inactivity", optional content.inactivity), ("headers", .ofTexts content.headers),
    ("data", payload content.payload)]

/-- An error, without the details of malformed JSON. -/
def error (failure : CallError) : Json :=
  let remote := if failure.isRemote then [("remote", flag true)] else []
  .object ([("error", .str failure.kind.name),
    ("message", .str (Codec.withoutDetail failure.message))] ++ remote)

/-- The result of an operation. -/
def outcome {α : Type} (report : α → Json) : Outcome α → Json
  | .ok content => report content
  | .error failure => error failure

/-- The result of an operation that gives nothing. -/
def done : Outcome Unit → Json := outcome (fun _ => .str "ok")

/-- A value that does not fit its type. -/
def mismatch (failure : Mismatch) : Json :=
  .object [("error", .str "json"), ("message", .str failure.message)]

/-- The result of reading a value. -/
def reading {α : Type} (report : α → Json) : Except Mismatch α → Json
  | .ok content => report content
  | .error failure => mismatch failure

/-- A value of a type, as it is written in payloads. -/
def wire {α : Type} [Wire α] (content : α) : Json :=
  match Wire.write content with
  | .ok written => value written
  | .error reason => error (.unserializable reason)

/-- The text of a value of a type. -/
def wireText {α : Type} [Wire α] (content : α) : Json :=
  match Wire.write content with
  | .ok written => .str written.render
  | .error reason => .str reason

/-- A frame; `headers` shows the bytes of its headers. -/
def frame (headers : Bytes → Json) (content : Frame) : Json :=
  let envelope (envelope : Envelope) : List (String × Json) :=
    [("headers", headers envelope.headers), ("data", bytes envelope.data)]
  let body : List (String × Json) := match content with
    | .request mode _ carried =>
      ("kind", .str "request") :: ("mode", .str mode.name) :: envelope carried
    | .next _ carried => ("kind", .str "next") :: envelope carried
    | .complete _ => [("kind", .str "complete")]
    | .error _ code text =>
      [("kind", .str "error"), ("code", number code.toNat),
        ("text", .str (Codec.withoutDetail text))]
    | .cancel _ => [("kind", .str "cancel")]
    | .requestN _ count => [("kind", .str "request_n"), ("n", number count.toNat)]
  .object (("id", decimal content.streamId.toNat) :: body)

/-- The members of the report of a binding. -/
def bindingMembers (content : Binding) : List (String × Json) :=
  [("namespace", .str content.space), ("action", .str content.action),
    ("qualifier", .str content.qualifier), ("mode", .str content.mode.name),
    ("response_type", .str content.responseType),
    ("request_is_message", flag content.requestIsMessage),
    ("response_is_message", flag content.responseIsMessage)]

/-- A binding. -/
def binding (content : Binding) : Json := .object (bindingMembers content)

/-- An address, and whether its text is read back as the same. -/
def address (content : Address) : Json :=
  let isReadBack := match Address.parse content.render with
    | .ok read => read == content
    | .error _ => false
  .object [("host", .str content.host), ("port", number content.port.toNat),
    ("display", .str content.render), ("reparsed", flag isReadBack), ("json", wireText content)]

/-- A reference. -/
def reference (content : Reference) : Json :=
  .object [("endpoint", .str content.endpointId), ("address", .str content.address.render),
    ("namespace", .str content.space), ("action", .str content.action),
    ("qualifier", .str content.qualifier), ("mode", .str content.mode.name),
    ("tags", .ofTexts content.tags)]

/-- The endpoints of a registry, and which of them serve each qualifier. -/
def registry (content : Registry) : Json :=
  .object
    [("endpoints", list (fun (endpoint : Endpoint) =>
        .arr [.str endpoint.id, .str endpoint.address.render]) content.endpoints),
      ("by_qualifier", .object (content.qualifiers.map (fun qualifier =>
        (qualifier, list (fun (reference : Reference) => .str reference.endpointId)
          (content.lookup qualifier))))),
      ("empty", flag content.isEmpty)]

/-- A choice among references, or only that one was made. -/
def choice (isOpen : Bool) : Option Reference → Json
  | none => .null
  | some chosen =>
    if isOpen then .object [("member", flag true)]
    else .arr [.str chosen.endpointId, .str chosen.address.render, .str chosen.qualifier]

/-- What a call shows: the marks it leaves, and its result. -/
structure Shown (ε : Type) where
  /-- The marks. -/
  marks : List ε
  /-- The report of the result. -/
  result : Json

/-- A crash that reaches the caller. -/
def crash : Json := .object [("error", .str "panic")]

/-- One result. -/
def reply {ε α : Type} (report : α → Json) (content : Reply ε α) : Shown ε :=
  ⟨content.marks, match content.conclusion with
    | .done result => report result
    | .crashed _ => crash
    | .silent _ => .null⟩

/-- More pulls than a stream of any use needs. -/
def patience : Nat := 10000000

/-- The results of a stream, up to a limit. -/
def source {ε α : Type} (report : α → Json) (limit : Nat) (content : Source ε α) : Shown ε :=
  let collected := content.collect patience limit content.state
  let shown := collected.items.map report
  ⟨collected.marks, match collected.ending with
    | .ended => .arr shown
    | .more => .arr (shown ++ [.str "more"])
    | .crashed _ => crash
    | .waiting => .null⟩

end ServiceMesh.Report
