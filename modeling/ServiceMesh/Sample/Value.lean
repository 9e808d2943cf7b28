import ServiceMesh.Wire.Record

/-!
# Sample values

Three types that the sample services exchange.  Their names are those of a scope that whoever uses
the samples chooses.
-/

namespace ServiceMesh.Sample

/-- The scope that the names of the sample types begin with. -/
class Scope where
  /-- The name of the scope. -/
  name : String

/-- The name of a type in the chosen scope. -/
def inScope [Scope] (name : String) : String := s!"{Scope.name}::{name}"

/-- Somebody with a name and perhaps an age. -/
structure Person where
  /-- The name. -/
  name : String
  /-- The age, if it is known. -/
  age : Option UInt8
  deriving DecidableEq, Repr

instance [Scope] : Wire Person where
  typeName := inScope "Person"
  read value := do
    let fields := [Wire.required String "name", Wire.defaulted (Option UInt8) "age"]
    match ← Wire.readFields "Person" fields value with
    | [some name, none] => return ⟨← Wire.read name, none⟩
    | [some name, some age] => return ⟨← Wire.read name, ← Wire.read age⟩
    | _ => throw (.missingField "name")
  write person :=
    return .obj [("age", ← Wire.write person.age), ("name", ← Wire.write person.name)]

/-- A text together with its length. -/
structure Greeting where
  /-- The text. -/
  text : String
  /-- The length of the text in bytes. -/
  length : UInt64
  deriving DecidableEq, Repr

instance [Scope] : Wire Greeting where
  typeName := inScope "Greeting"
  read value := do
    let fields := [Wire.required String "text", Wire.required UInt64 "length"]
    match ← Wire.readFields "Greeting" fields value with
    | [some text, some length] => return ⟨← Wire.read text, ← Wire.read length⟩
    | _ => throw (.missingField "text")
  write greeting :=
    return .obj [("length", ← Wire.write greeting.length), ("text", ← Wire.write greeting.text)]

/-- Any value; one text among them cannot be written. -/
structure Anything where
  /-- The value. -/
  value : Json

/-- The text that cannot be written. -/
def unwritable : String := "!bad"

instance [Scope] : Wire Anything where
  typeName := inScope "Any"
  read value := .ok ⟨value⟩
  write content :=
    if content.value == .str unwritable then .error "unserializable" else .ok content.value

end ServiceMesh.Sample
