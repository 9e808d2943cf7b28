import ServiceMesh.Decimal.Nearest
import ServiceMesh.Mode
import ServiceMesh.Wire.Mismatch
/-!
# Types that travel in payloads

A type is on the wire when its values can be written as JSON values and read back from them.  Its
name travels along with responses.  Reading is strict: an integer type takes integers in its range
only, a double takes any number, an optional value takes null or a value.
-/

namespace ServiceMesh

/-- Types whose values travel in payloads. -/
class Wire (α : Type) where
  /-- The name of the type in messages and reports. -/
  typeName : String
  /-- The value that a JSON value denotes. -/
  read : Json → Except Mismatch α
  /-- The JSON value that denotes a value, or the reason why there is none. -/
  write : α → Except String Json

namespace Wire

/-- Reads an integer between two bounds. -/
def readInteger (expected : String) (least greatest : Int) : Json → Except Mismatch Int
  | .int number =>
    if least ≤ number.val && number.val ≤ greatest then .ok number.val
    else .error (.wrongValue (.int number) expected)
  | value => .error (.wrongType value expected)

instance : Wire String where
  typeName := "alloc::string::String"
  read
    | .str text => .ok text
    | value => .error (.wrongType value "a string")
  write text := .ok (.str text)

instance : Wire Char where
  typeName := "char"
  read
    | .str text =>
      match text.toList with
      | [character] => .ok character
      | _ => .error (.wrongValue (.str text) "a character")
    | value => .error (.wrongType value "a character")
  write character := .ok (.str (String.ofList [character]))

instance : Wire UInt8 where
  typeName := "u8"
  read value := do return UInt8.ofNat (← readInteger "u8" 0 0xFF value).toNat
  write number := .ok (.ofNat number.toNat)

instance : Wire Int8 where
  typeName := "i8"
  read value := do return Int8.ofInt (← readInteger "i8" (-0x80) 0x7F value)
  write number := .ok (.ofInt number.toInt)

instance : Wire UInt16 where
  typeName := "u16"
  read value := do return UInt16.ofNat (← readInteger "u16" 0 0xFFFF value).toNat
  write number := .ok (.ofNat number.toNat)

instance : Wire UInt32 where
  typeName := "u32"
  read value := do return UInt32.ofNat (← readInteger "u32" 0 0xFFFFFFFF value).toNat
  write number := .ok (.ofNat number.toNat)

instance : Wire Int64 where
  typeName := "i64"
  read value := do return Int64.ofInt (← readInteger "i64" (-0x8000000000000000)
    0x7FFFFFFFFFFFFFFF value)
  write number := .ok (.ofInt number.toInt)

instance : Wire UInt64 where
  typeName := "u64"
  read value := do return UInt64.ofNat (← readInteger "u64" 0 0xFFFFFFFFFFFFFFFF value).toNat
  write number := .ok (.ofNat number.toNat)

instance : Wire Float where
  typeName := "f64"
  read
    | .float number => .ok number
    | .int number => .ok (Decimal.nearest (number.val < 0) number.val.natAbs 0)
    | value => .error (.wrongType value "f64")
  write number := .ok (.ofFloat number)

instance : Wire Bool where
  typeName := "bool"
  read
    | .bool flag => .ok flag
    | value => .error (.wrongType value "a boolean")
  write flag := .ok (.bool flag)

instance : Wire Unit where
  typeName := "()"
  read
    | .null => .ok ()
    | value => .error (.wrongType value "unit")
  write _ := .ok .null

instance : Wire Json where
  typeName := "serde_json::value::Value"
  read value := .ok value
  write value := .ok value

instance {α : Type} [Wire α] : Wire (Option α) where
  typeName := s!"core::option::Option<{typeName α}>"
  read
    | .null => .ok none
    | value => (read value).map some
  write
    | none => .ok .null
    | some value => write value

instance {α : Type} [Wire α] : Wire (List α) where
  typeName := s!"alloc::vec::Vec<{typeName α}>"
  read
    | .arr items => items.mapM read
    | value => .error (.wrongType value "a sequence")
  write items := return .arr (← items.mapM write)

instance {α β : Type} [Wire α] [Wire β] : Wire (α × β) where
  typeName := s!"({typeName α}, {typeName β})"
  read
    | .arr items => do
      match items with
      | [] => throw (.wrongLength 0 "a tuple of size 2")
      | first :: others =>
        let left ← read first
        match others with
        | [] => throw (.wrongLength 1 "a tuple of size 2")
        | second :: surplus =>
          let right ← read second
          if surplus.isEmpty then return (left, right)
          else throw (.wrongLength items.length "fewer elements in array")
    | value => .error (.wrongType value "a tuple of size 2")
  write pair := return .arr [← write pair.1, ← write pair.2]

instance {α : Type} [Wire α] : Wire (Dict α) where
  typeName := s!"alloc::collections::btree::map::BTreeMap<alloc::string::String, {typeName α}>"
  read
    | .obj members => do
      let entries ← members.mapM (fun member => return (member.1, ← read member.2))
      return Dict.ofList entries
    | value => .error (.wrongType value "a map")
  write dict :=
    return .obj (← dict.entries.mapM (fun entry => return (entry.1, ← write entry.2)))

/-- Reads the variant that a name spells. -/
def readMode (name : String) : Except Mismatch Mode :=
  match Mode.ofName? name with
  | some mode => .ok mode
  | none => .error (.unknownVariant name (Mode.all.map Mode.name))

/-- A mode is the name of its variant, or an object that maps this name to null. -/
instance : Wire Mode where
  typeName := "meshrpc_common::protocol::binding::CommunicationMode"
  read
    | .str name => readMode name
    | .obj [(name, content)] => do
      let mode ← readMode name
      let _ : Unit ← read content
      return mode
    | .obj members => .error (.wrongValue (.obj members) "map with a single key")
    | value => .error (.wrongType value "string or map")
  write mode := .ok (.str mode.name)

end Wire

end ServiceMesh
