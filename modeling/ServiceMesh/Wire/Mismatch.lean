import ServiceMesh.Json.Printer
import ServiceMesh.Text.Quoted
/-!
# Values of the wrong type

When a JSON value is read as a type that it does not fit, the report names what was found and what
was expected.
-/

namespace ServiceMesh

/-- A JSON value in the words of a report. -/
def Json.describe : Json → String
  | .null => "null"
  | .bool flag => "boolean `" ++ (if flag then "true" else "false") ++ "`"
  | .int number => "integer `" ++ String.ofList (Json.writeInt number.val) ++ "`"
  | .float number => "floating point `" ++ Json.floatText number ++ "`"
  | .str text => "string " ++ Text.quoted text
  | .arr _ => "sequence"
  | .obj _ => "map"

/-- Why a JSON value cannot be read as a type. -/
inductive Mismatch where
  /-- A value of another type. -/
  | wrongType (found : Json) (expected : String)
  /-- A value of the type that is not among those allowed. -/
  | wrongValue (found : Json) (expected : String)
  /-- A sequence of the wrong length. -/
  | wrongLength (length : Nat) (expected : String)
  /-- A record without one of its fields. -/
  | missingField (name : String)
  /-- A name that belongs to no variant. -/
  | unknownVariant (name : String) (variants : List String)

/-- Names in a row, each between back quotes. -/
def Mismatch.listing (names : List String) : String :=
  ", ".intercalate (names.map (fun name => "`" ++ name ++ "`"))

/-- The wording of a mismatch. -/
def Mismatch.message : Mismatch → String
  | .wrongType found expected => s!"invalid type: {found.describe}, expected {expected}"
  | .wrongValue found expected => s!"invalid value: {found.describe}, expected {expected}"
  | .wrongLength length expected => s!"invalid length {length}, expected {expected}"
  | .missingField name => "missing field `" ++ name ++ "`"
  | .unknownVariant name variants =>
    "unknown variant `" ++ name ++ "`, expected one of " ++ Mismatch.listing variants

end ServiceMesh
