import ServiceMesh.Error
import ServiceMesh.Text.Split
import ServiceMesh.Text.Unsigned
import ServiceMesh.Wire.Record
/-!
# Addresses

An endpoint is reached at a host and a port.  In text the port follows the last colon, and a host
with colons of its own stands in brackets.  Reading strips any brackets around the host.
-/

namespace ServiceMesh

/-- The network location of an endpoint. -/
structure Address where
  /-- The name or number of the host. -/
  host : String
  /-- The port. -/
  port : UInt16
  deriving DecidableEq, Repr, Inhabited

namespace Address

/-- The address as text. -/
def render (address : Address) : String :=
  if address.host.toList.contains ':' then s!"[{address.host}]:{address.port.toNat}"
  else s!"{address.host}:{address.port.toNat}"

/-- A host without the brackets around it. -/
def stripBrackets (host : List Char) : List Char :=
  (((host.dropWhile (· = '[')).reverse).dropWhile (· = ']')).reverse

/-- Reads an address from text. -/
def parse (text : String) : Outcome Address :=
  match Text.splitLast? ':' text.toList with
  | none => .error (.badRequest s!"Invalid address '{text}': missing port")
  | some (host, port) =>
    match Text.readUnsigned 0xFFFF (String.ofList port) with
    | .error error => .error (.badRequest s!"Invalid address '{text}': {error.message}")
    | .ok number =>
      let host := stripBrackets host
      if host.isEmpty then .error (.badRequest s!"Invalid address '{text}': missing host")
      else .ok ⟨String.ofList host, UInt16.ofNat number⟩

/-- Addresses are ordered by host, then by port. -/
def precedes (first second : Address) : Bool :=
  first.host < second.host || (first.host = second.host && first.port ≤ second.port)

/-- Addresses in their order. -/
def sort (addresses : List Address) : List Address := addresses.mergeSort precedes

instance : Wire Address where
  typeName := "Address"
  read value := do
    let values ← Wire.readFields "Address"
      [Wire.required String "host", Wire.required UInt16 "port"] value
    match values with
    | [some host, some port] => return ⟨← Wire.read host, ← Wire.read port⟩
    | _ => throw (.missingField "host")
  write address :=
    return .obj [("host", ← Wire.write address.host), ("port", ← Wire.write address.port)]

end Address

end ServiceMesh
