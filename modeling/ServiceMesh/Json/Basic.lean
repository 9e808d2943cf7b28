import ServiceMesh.Dict
/-!
# JSON values

Payloads and announcements are JSON values.  Integers between `-2 ^ 63` and `2 ^ 64` are kept
exactly, every other number is a double.  The members of an object stand in increasing key order,
each key once; `Json.object` puts a list of members into that order, the later of two members with
one key counting.
-/

namespace ServiceMesh

/-- An integer that fits a signed or an unsigned word of 64 bits. -/
structure WideInt where
  /-- The integer. -/
  val : Int
  /-- It is no less than the least signed word. -/
  least : -0x8000000000000000 ≤ val
  /-- It is no greater than the greatest unsigned word. -/
  greatest : val < 0x10000000000000000
  deriving DecidableEq, Repr

/-- The integer as a wide integer, if it is one. -/
def WideInt.ofInt? (number : Int) : Option WideInt :=
  if fits : -0x8000000000000000 ≤ number ∧ number < 0x10000000000000000 then
    some ⟨number, fits.1, fits.2⟩
  else none

/-- A JSON value. -/
inductive Json where
  | null
  | bool (flag : Bool)
  | int (number : WideInt)
  | float (number : Float)
  | str (text : String)
  | arr (items : List Json)
  /-- Members in increasing key order. -/
  | obj (members : List (String × Json))

namespace Json

instance : Inhabited Json := ⟨.null⟩

mutual

/-- Equality of values: integers and doubles differ even when they denote one number, and doubles
compare as numbers, so that the two zeros are equal. -/
def same : Json → Json → Bool
  | .null, .null => true
  | .bool first, .bool second => first == second
  | .int first, .int second => first.val == second.val
  | .float first, .float second => first == second
  | .str first, .str second => first == second
  | .arr first, .arr second => sameItems first second
  | .obj first, .obj second => sameMembers first second
  | _, _ => false

/-- Equality of two lists of items. -/
def sameItems : List Json → List Json → Bool
  | [], [] => true
  | first :: firsts, second :: seconds => same first second && sameItems firsts seconds
  | _, _ => false

/-- Equality of two lists of members. -/
def sameMembers : List (String × Json) → List (String × Json) → Bool
  | [], [] => true
  | (key, first) :: firsts, (other, second) :: seconds =>
    key == other && same first second && sameMembers firsts seconds
  | _, _ => false

end

instance : BEq Json := ⟨same⟩

mutual

/-- How many containers are open around the innermost value. -/
def depth : Json → Nat
  | .arr items => depthItems items + 1
  | .obj members => depthMembers members + 1
  | _ => 0

/-- The greatest depth among items. -/
def depthItems : List Json → Nat
  | [] => 0
  | item :: items => max (depth item) (depthItems items)

/-- The greatest depth among members. -/
def depthMembers : List (String × Json) → Nat
  | [] => 0
  | (_, value) :: members => max (depth value) (depthMembers members)

end

/-- The object of a list of members in any order. -/
def object (members : List (String × Json)) : Json := .obj (Dict.ofList members).entries

/-- The integer of a natural below `2 ^ 64`; a greater one becomes the nearest double. -/
def ofNat (number : Nat) : Json :=
  match WideInt.ofInt? number with
  | some wide => .int wide
  | none => .float (Float.ofNat number)

/-- The integer of a signed number, or the nearest double outside the wide range. -/
def ofInt (number : Int) : Json :=
  match WideInt.ofInt? number with
  | some wide => .int wide
  | none => .float (Float.ofInt number)

/-- A double, or null where it is no number. -/
def ofFloat (number : Float) : Json := if number.isFinite then .float number else .null

/-- The object of strings whose members are given in their order. -/
def ofEntries (entries : List (String × String)) : Json :=
  .obj (entries.map (fun entry => (entry.1, .str entry.2)))

/-- A map of texts as an object of strings, by increasing key. -/
def ofTexts (texts : Dict String) : Json := ofEntries texts.entries

/-- The member of an object under a key. -/
def member? (key : String) : Json → Option Json
  | .obj members => members.lookup key
  | _ => none

end Json

end ServiceMesh
