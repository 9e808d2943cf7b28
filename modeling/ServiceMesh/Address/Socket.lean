import ServiceMesh.Address
import ServiceMesh.Text.Quoted
/-!
# Numeric socket addresses

A socket address is a numeric host and a port: four decimal bytes, or eight hexadecimal groups in
brackets, of which a run of zeros may be left out and the last two may be written as four decimal
bytes.  Shown again, the longest run of two or more zero groups is left out, the first of several.
-/

namespace ServiceMesh

/-- A numeric host. -/
inductive NumericHost where
  /-- Four bytes. -/
  | v4 (bytes : List Nat)
  /-- Eight groups of sixteen bits. -/
  | v6 (groups : List Nat)
  deriving DecidableEq, Repr

namespace NumericHost

/-- The value of a digit in a base of at most sixteen. -/
def digit? (base : Nat) (character : Char) : Option Nat :=
  let value :=
    if character.isDigit then some (character.toNat - '0'.toNat)
    else if 'a' ≤ character && character ≤ 'f' then some (character.toNat - 'a'.toNat + 10)
    else if 'A' ≤ character && character ≤ 'F' then some (character.toNat - 'A'.toNat + 10)
    else none
  value.filter (· < base)

/-- Reads a number of at least one digit and at most `limit`. -/
def readNumber (base limit : Nat) (input : List Char) : Option (Nat × List Char) :=
  let digits := input.takeWhile (fun character => (digit? base character).isSome)
  let value := digits.foldl
    (fun number character => base * number + (digit? base character).getD 0) 0
  if digits.isEmpty || limit < value then none else some (value, input.drop digits.length)

/-- Reads a byte of a dotted host: up to three digits without a leading zero. -/
def readByte (input : List Char) : Option (Nat × List Char) := do
  let (value, rest) ← readNumber 10 255 input
  let digits := input.length - rest.length
  if 3 < digits || (1 < digits && input.head? = some '0') then none else some (value, rest)

/-- Reads one given character. -/
def readChar (expected : Char) : List Char → Option (List Char)
  | [] => none
  | character :: rest => if character = expected then some rest else none

/-- Reads four bytes separated by points. -/
def readV4 (input : List Char) : Option (List Nat × List Char) := do
  let (first, rest) ← readByte input
  let (second, rest) ← readByte (← readChar '.' rest)
  let (third, rest) ← readByte (← readChar '.' rest)
  let (fourth, rest) ← readByte (← readChar '.' rest)
  some ([first, second, third, fourth], rest)

/-- Reads a group of up to four hexadecimal digits. -/
def readGroup (input : List Char) : Option (Nat × List Char) := do
  let digits := (input.take 5).takeWhile (fun character => (digit? 16 character).isSome)
  if 4 < digits.length then none else readNumber 16 0xFFFF input

/-- Reads up to `room` groups separated by colons, the last two of them perhaps as four decimal
bytes; tells whether they were. -/
def readGroups : (room : Nat) → (isFirst : Bool) → List Char → List Nat × Bool × List Char
  | 0, _, input => ([], false, input)
  | room + 1, isFirst, input =>
    match if isFirst then some input else readChar ':' input with
    | none => ([], false, input)
    | some start =>
      match if 1 ≤ room then readV4 start else none with
      | some ([first, second, third, fourth], rest) =>
        ([first * 256 + second, third * 256 + fourth], true, rest)
      | _ =>
        match readGroup start with
        | none => ([], false, input)
        | some (group, rest) =>
          let (groups, dotted, rest) := readGroups room false rest
          (group :: groups, dotted, rest)

/-- Reads eight groups, a run of zeros perhaps left out. -/
def readV6 (input : List Char) : Option (List Nat × List Char) :=
  let (before, dotted, rest) := readGroups 8 true input
  if before.length = 8 then some (before, rest)
  else if dotted then none
  else do
    let rest ← readChar ':' (← readChar ':' rest)
    let (after, _, rest) := readGroups (7 - before.length) true rest
    some (before ++ List.replicate (8 - before.length - after.length) 0 ++ after, rest)

/-- Where the longest run of zeros begins and how long it is; the first of several. -/
def longestZeros : (position start length bestStart bestLength : Nat) → List Nat → Nat × Nat
  | _, _, _, bestStart, bestLength, [] => (bestStart, bestLength)
  | position, start, length, bestStart, bestLength, group :: groups =>
    if group = 0 then
      let start := if length = 0 then position else start
      if bestLength < length + 1 then
        longestZeros (position + 1) start (length + 1) start (length + 1) groups
      else longestZeros (position + 1) start (length + 1) bestStart bestLength groups
    else longestZeros (position + 1) 0 0 bestStart bestLength groups

/-- Groups in lower-case hexadecimal digits, separated by colons. -/
def renderGroups (groups : List Nat) : String :=
  ":".intercalate (groups.map (fun group => String.ofList (Text.hexDigits group)))

/-- Bytes in decimal, separated by points. -/
def renderBytes (bytes : List Nat) : String := ".".intercalate (bytes.map toString)

/-- The host as text. -/
def render : NumericHost → String
  | .v4 bytes => renderBytes bytes
  | .v6 [0, 0, 0, 0, 0, 0xFFFF, high, low] =>
    "::ffff:" ++ renderBytes [high / 256, high % 256, low / 256, low % 256]
  | .v6 groups =>
    let (start, length) := longestZeros 0 0 0 0 0 groups
    if length < 2 then renderGroups groups
    else renderGroups (groups.take start) ++ "::" ++ renderGroups (groups.drop (start + length))

end NumericHost

namespace Address

/-- Reads the colon and the port that end a socket address. -/
def readPort (input : List Char) : Option UInt16 := do
  let (port, rest) ← NumericHost.readNumber 10 0xFFFF (← NumericHost.readChar ':' input)
  if rest.isEmpty then some (UInt16.ofNat port) else none

/-- Reads the scope of a host, if there is one; it leaves no trace in the address. -/
def skipScope (input : List Char) : Option (List Char) :=
  match input with
  | '%' :: rest =>
    match NumericHost.readNumber 10 0xFFFFFFFF rest with
    | some (_, rest) => some rest
    | none => some ('%' :: rest)
  | rest => some rest

/-- Reads a socket address in text. -/
def ofSocket? (text : String) : Option Address :=
  let dotted : Option Address := do
    let (bytes, rest) ← NumericHost.readV4 text.toList
    return ⟨(NumericHost.v4 bytes).render, ← readPort rest⟩
  let bracketed : Option Address := do
    let (groups, rest) ← NumericHost.readV6 (← NumericHost.readChar '[' text.toList)
    let rest ← NumericHost.readChar ']' (← skipScope rest)
    return ⟨(NumericHost.v6 groups).render, ← readPort rest⟩
  dotted <|> bracketed

/-- A text that is no socket address. -/
def notASocket : CallError := .badRequest "invalid socket address syntax"

/-- A text that is no numeric host. -/
def notAHost : CallError := .badRequest "invalid IP address syntax"

end Address

end ServiceMesh
