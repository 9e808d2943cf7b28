import ServiceMesh.Json.Parser

/-!
# Parts of descriptions

Domain values can be described by JSON values.  Descriptions are read leniently: a part that is
missing or of another kind counts as absent, empty or zero.
-/

namespace ServiceMesh.Description

/-- The member under a key, or null. -/
def field (key : String) (value : Json) : Json := (value.member? key).getD .null

/-- The items of an array. -/
def items : Json → List Json
  | .arr values => values
  | _ => []

/-- The members of an object. -/
def members : Json → List (String × Json)
  | .obj entries => entries
  | _ => []

/-- A text, if the value is one. -/
def text? : Json → Option String
  | .str value => some value
  | _ => none

/-- A text. -/
def text (value : Json) : String := (text? value).getD ""

/-- A natural number, which may be written as a text of digits. -/
def natural? : Json → Option Nat
  | .int number => some number.val.toNat
  | .str digits => digits.toNat?
  | _ => none

/-- A natural number. -/
def natural (value : Json) : Nat := (natural? value).getD 0

/-- Whether a flag is set. -/
def isSet : Json → Bool
  | .bool flag => flag
  | _ => false

/-- Whether there is anything. -/
def isPresent : Json → Bool
  | .null => false
  | _ => true

/-- The item at a position, or null. -/
def argument (value : Json) (position : Nat) : Json := ((items value)[position]?).getD .null

/-- A map of texts. -/
def texts (value : Json) : Dict String :=
  Dict.ofList ((members value).map (fun entry => (entry.1, text entry.2)))

/-- The bytes of hexadecimal digits. -/
def hexBytes : List Char → Bytes
  | high :: low :: rest =>
    UInt8.ofNat (16 * (Json.hexValue? high).getD 0 + (Json.hexValue? low).getD 0) :: hexBytes rest
  | _ => []

mutual

/-- Bytes: a text, hexadecimal digits, a repetition, or several descriptions in a row. -/
def bytes : Json → Bytes
  | .str content => Utf8.encode content
  | .obj [("hex", .str digits)] => hexBytes digits.toList
  | .obj [("cat", .arr parts)] => bytesOfAll parts
  | .obj [("repeat", part), ("times", times)] =>
    (List.replicate (natural times) (bytes part)).flatten
  | _ => []

/-- The bytes of descriptions in a row. -/
def bytesOfAll : List Json → Bytes
  | [] => []
  | part :: parts => bytes part ++ bytesOfAll parts

end

end ServiceMesh.Description
