import ServiceMesh.Error
import ServiceMesh.Json.Parser
import ServiceMesh.Json.Printer
import ServiceMesh.Text.Quoted
/-!
# Codecs by content type

A data codec turns payload values into bytes and back, a header codec does so with header maps.  A
registry holds codecs under their content types; whoever needs a codec names the content type or
takes the default.
-/

namespace ServiceMesh

/-- Turns payload values into bytes and back. -/
structure DataCodec where
  /-- The content type that the codec serves. -/
  contentType : String
  /-- The bytes of a value. -/
  encode : Json → Outcome Bytes
  /-- The value of bytes. -/
  decode : Bytes → Outcome Json

/-- Turns header maps into bytes and back. -/
structure HeaderCodec where
  /-- The content type that the codec serves. -/
  contentType : String
  /-- The bytes of a header map. -/
  encode : Dict String → Outcome Bytes
  /-- The header map of bytes. -/
  decode : Bytes → Outcome (Dict String)

namespace Codec

/-- The content type of JSON. -/
def jsonType : String := "application/json"

/-- The content type of plain text. -/
def textType : String := "text/plain"

/-- The content type of a message that names none. -/
def defaultType : String := jsonType

/-- Payloads as compact JSON text. -/
def jsonData : DataCodec where
  contentType := jsonType
  encode value := .ok value.toBytes
  decode bytes :=
    match Json.ofBytes? bytes with
    | some value => .ok value
    | none => .error (.badRequest "Malformed JSON payload: no single JSON value")

/-- Headers as a JSON object of strings.  Its members may be written in any order, and are read in any
order. -/
def jsonHeaders (arrangement : Dict.Arrangement String) : HeaderCodec where
  contentType := jsonType
  encode headers := .ok (Json.ofEntries (arrangement.list headers)).toBytes
  decode bytes :=
    match Json.textsOfBytes? bytes with
    | some headers => .ok headers
    | none => .error (.badRequest "Malformed headers: no single JSON object of strings")

/-- Strings as their UTF-8 bytes; no other value is plain text. -/
def textData : DataCodec where
  contentType := textType
  encode
    | .str text => .ok (Utf8.encode text)
    | value => .error (.badRequest s!"text/plain can only carry strings, got {value.render}")
  decode bytes :=
    match Utf8.decode bytes with
    | .ok text => .ok (.str text)
    | .error failure => .error (.badRequest s!"Payload is not UTF-8: {failure.message}")

/-- The text up to and including the first occurrence of a phrase. -/
def throughPhrase? (phrase : List Char) : List Char → Option (List Char)
  | [] => if phrase.isEmpty then some [] else none
  | character :: rest =>
    if phrase.isPrefixOf (character :: rest) then some phrase
    else (throughPhrase? phrase rest).map (character :: ·)

/-- A report of malformed JSON without the details of where the text went wrong. -/
def withoutDetail (report : String) : String :=
  let conceal (phrase : String) :=
    (throughPhrase? phrase.toList report.toList).map
      (fun shown => String.ofList shown ++ "<json>")
  (conceal "Malformed headers: " <|> conceal "Malformed JSON payload: ").getD report

end Codec

/-- Codecs under their content types. -/
structure CodecRegistry where
  /-- The data codecs. -/
  data : Dict DataCodec
  /-- The header codecs. -/
  headers : Dict HeaderCodec

namespace CodecRegistry

/-- The registry without codecs. -/
def empty : CodecRegistry := ⟨Dict.empty, Dict.empty⟩

/-- Adds a data codec; it replaces another of its content type. -/
def registerData (registry : CodecRegistry) (codec : DataCodec) : CodecRegistry :=
  { registry with data := registry.data.insert codec.contentType codec }

/-- Adds a header codec; it replaces another of its content type. -/
def registerHeaders (registry : CodecRegistry) (codec : HeaderCodec) : CodecRegistry :=
  { registry with headers := registry.headers.insert codec.contentType codec }

/-- The registry with the JSON codecs and the text codec; headers are written by increasing key. -/
def withJson : CodecRegistry :=
  ((empty.registerData Codec.jsonData).registerHeaders (Codec.jsonHeaders .byKey)).registerData
    Codec.textData

/-- The data codec of a content type, or of the default type. -/
def dataCodec (registry : CodecRegistry) (contentType : Option String) : Outcome DataCodec :=
  let name := contentType.getD Codec.defaultType
  match registry.data.get? name with
  | some codec => .ok codec
  | none => .error (.badRequest s!"No data codec registered for content type '{name}'")

/-- The header codec of a content type, or of the default type. -/
def headerCodec (registry : CodecRegistry) (contentType : Option String) : Outcome HeaderCodec :=
  let name := contentType.getD Codec.defaultType
  match registry.headers.get? name with
  | some codec => .ok codec
  | none => .error (.badRequest s!"No header codec registered for content type '{name}'")

/-- The content types of the data codecs, in order. -/
def dataTypes (registry : CodecRegistry) : List String := registry.data.keys

/-- The content types of the header codecs, in order. -/
def headerTypes (registry : CodecRegistry) : List String := registry.headers.keys

/-- One line that names the codecs at hand. -/
def describe (registry : CodecRegistry) : String :=
  let listing (types : List String) := ", ".intercalate (types.map Text.quoted)
  let inner := s!"data: [{listing registry.dataTypes}], headers: [{listing registry.headerTypes}]"
  "CodecRegistry \x7b " ++ inner ++ " \x7d"

end CodecRegistry

end ServiceMesh
