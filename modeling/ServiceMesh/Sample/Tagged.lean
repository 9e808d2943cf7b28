import ServiceMesh.Codec

/-!
# Sample codecs

Codecs that write JSON text behind a tag and a bar, and read nothing without that tag.  They show
which codec has handled a buffer.
-/

namespace ServiceMesh.Sample

/-- What stands in front of everything that the codecs of a tag write. -/
def tagMark (tag : String) : Bytes := Utf8.encode s!"{tag}|"

/-- The error of bytes without the tag. -/
def notTagged (tag : String) : CallError := .internal s!"not tagged {tag}"

/-- The bytes behind the tag, if `read` takes them. -/
def readTagged {α : Type} (tag : String) (read : Bytes → Option α) (bytes : Bytes) : Outcome α :=
  let mark := tagMark tag
  if mark.isPrefixOf bytes then
    match read (bytes.drop mark.length) with
    | some value => .ok value
    | none => .error (notTagged tag)
  else .error (notTagged tag)

/-- Payloads as JSON text behind a tag. -/
def taggedData (contentType tag : String) : DataCodec where
  contentType := contentType
  encode value := .ok (tagMark tag ++ value.toBytes)
  decode := readTagged tag Json.ofBytes?

/-- Headers as a JSON object of strings behind a tag. -/
def taggedHeaders (contentType tag : String) : HeaderCodec where
  contentType := contentType
  encode headers := .ok (tagMark tag ++ (Json.ofTexts headers).toBytes)
  decode := readTagged tag Json.textsOfBytes?

end ServiceMesh.Sample
