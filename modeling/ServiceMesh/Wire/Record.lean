import ServiceMesh.Wire
/-!
# Records on the wire

A record is an object with named fields, or a sequence of the fields in their order of declaration.
An object may hold further members, which are ignored; its fields are read in key order, so of two
bad fields the one with the lesser name is reported, and any bad field before a missing one.  A
field with a default may be missing from an object, and from a sequence at its end.
-/

namespace ServiceMesh.Wire

/-- What a record declares about one of its fields. -/
structure Field where
  /-- The name of the field. -/
  name : String
  /-- The record cannot do without the field. -/
  isRequired : Bool
  /-- Whether a value fits the field. -/
  check : Json → Except Mismatch Unit

/-- A field that must be present. -/
def required (α : Type) [Wire α] (name : String) : Field :=
  ⟨name, true, fun value => (read (α := α) value).map (fun _ => ())⟩

/-- A field that has a default. -/
def defaulted (α : Type) [Wire α] (name : String) : Field :=
  ⟨name, false, fun value => (read (α := α) value).map (fun _ => ())⟩

/-- Checks the members of an object that are fields, in the order of the members. -/
def checkMembers (fields : List Field) : List (String × Json) → Except Mismatch Unit
  | [] => .ok ()
  | (key, value) :: members => do
    match fields.find? (fun field => field.name = key) with
    | some field => field.check value
    | none => pure ()
    checkMembers fields members

/-- Looks a field up among the members of an object. -/
def memberOf (members : List (String × Json)) (field : Field) : Except Mismatch (Option Json) :=
  match members.lookup field.name with
  | some value => .ok (some value)
  | none => if field.isRequired then .error (.missingField field.name) else .ok none

/-- What a sequence that ends too early should have been. -/
def recordShape (title : String) (fields : Nat) : String :=
  s!"struct {title} with {fields} elements"

/-- Takes the fields, of which the first has the given position, from the items of a sequence, and
returns them with the number of items left over. -/
def takeItems (shape : String) : (position : Nat) → List Field → List Json →
    Except Mismatch (List (Option Json) × Nat)
  | _, [], surplus => .ok ([], surplus.length)
  | position, field :: fields, [] => do
    if field.isRequired then throw (.wrongLength position shape)
    let (values, surplus) ← takeItems shape (position + 1) fields []
    return (none :: values, surplus)
  | position, field :: fields, item :: items => do
    field.check item
    let (values, surplus) ← takeItems shape (position + 1) fields items
    return (some item :: values, surplus)

/-- The value of each field of a record, in their order of declaration. -/
def readFields (title : String) (fields : List Field) : Json → Except Mismatch (List (Option Json))
  | .obj members => do
    checkMembers fields members
    fields.mapM (memberOf members)
  | .arr items => do
    let (values, surplus) ← takeItems (recordShape title fields.length) 0 fields items
    if surplus = 0 then return values
    else throw (.wrongLength items.length "fewer elements in array")
  | value => .error (.wrongType value s!"struct {title}")

end ServiceMesh.Wire
