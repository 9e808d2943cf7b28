import ServiceMesh.Decimal.Nearest
import ServiceMesh.Json.Basic
import ServiceMesh.Text.Utf8
/-!
# JSON text

A strict reader: nothing but blanks around the tokens, no trailing data, no lone surrogates, and no
more open containers than a given depth.  Each reader takes characters and returns what it read
together with the rest.  A reader of a container takes the reader of its elements as an argument, so
the recursion over nested values descends on the remaining depth alone.  The loops over elements and
characters descend on `turns`, a list with an entry for every turn that they may still take.  They
start with their own input as `turns`, which lasts, as every turn takes at least one character.
-/

namespace ServiceMesh.Json

/-- The blanks that may stand around tokens. -/
def isBlank (character : Char) : Bool :=
  character = ' ' || character = '\n' || character = '\r' || character = '\t'

/-- The input without its leading blanks. -/
def skipBlank (input : List Char) : List Char := input.dropWhile isBlank

/-- Reads the characters of a fixed word. -/
def readWord : (word input : List Char) → Option (List Char)
  | [], rest => some rest
  | _ :: _, [] => none
  | expected :: word, character :: rest =>
    if character = expected then readWord word rest else none

/-- The value of a hexadecimal digit of either case. -/
def hexValue? (character : Char) : Option Nat :=
  if '0' ≤ character && character ≤ '9' then some (character.toNat - '0'.toNat)
  else if 'a' ≤ character && character ≤ 'f' then some (character.toNat - 'a'.toNat + 10)
  else if 'A' ≤ character && character ≤ 'F' then some (character.toNat - 'A'.toNat + 10)
  else none

/-- Reads four hexadecimal digits. -/
def readUnit : List Char → Option (Nat × List Char)
  | first :: second :: third :: fourth :: rest => do
    let a ← hexValue? first
    let b ← hexValue? second
    let c ← hexValue? third
    let d ← hexValue? fourth
    some (((a * 16 + b) * 16 + c) * 16 + d, rest)
  | _ => none

/-- Reads the rest of an escape that gives a UTF-16 unit.  A leading surrogate needs a trailing one
right after it, and a trailing surrogate must not come first. -/
def readEscapedUnit (input : List Char) : Option (Char × List Char) := do
  let (unit, rest) ← readUnit input
  if 0xD800 ≤ unit && unit < 0xDC00 then
    match rest with
    | '\\' :: 'u' :: rest =>
      let (trailing, rest) ← readUnit rest
      if 0xDC00 ≤ trailing && trailing < 0xE000 then
        some (Char.ofNat (0x10000 + (unit - 0xD800) * 0x400 + (trailing - 0xDC00)), rest)
      else none
    | _ => none
  else if 0xDC00 ≤ unit && unit < 0xE000 then none
  else some (Char.ofNat unit, rest)

/-- Reads the rest of an escape, after its backslash. -/
def readEscape : List Char → Option (Char × List Char)
  | '"' :: rest => some ('"', rest)
  | '\\' :: rest => some ('\\', rest)
  | '/' :: rest => some ('/', rest)
  | 'b' :: rest => some (Char.ofNat 0x08, rest)
  | 'f' :: rest => some (Char.ofNat 0x0C, rest)
  | 'n' :: rest => some ('\n', rest)
  | 'r' :: rest => some ('\r', rest)
  | 't' :: rest => some ('\t', rest)
  | 'u' :: rest => readEscapedUnit rest
  | _ => none

/-- Reads the characters of a string up to its closing quote. -/
def readChars : (turns input : List Char) → Option (List Char × List Char)
  | [], _ => none
  | _ :: _, [] => none
  | _ :: turns, character :: rest =>
    if character = '"' then some ([], rest)
    else if character = '\\' then do
      let (escaped, rest) ← readEscape rest
      let (characters, rest) ← readChars turns rest
      some (escaped :: characters, rest)
    else if character.toNat < 0x20 then none
    else do
      let (characters, rest) ← readChars turns rest
      some (character :: characters, rest)

/-- Reads a string, its opening quote included. -/
def readText (input : List Char) : Option (String × List Char) :=
  match skipBlank input with
  | '"' :: rest => do
    let (characters, rest) ← readChars rest rest
    some (String.ofList characters, rest)
  | _ => none

/-- Splits off the leading digits. -/
def spanDigits (input : List Char) : List Char × List Char := input.span Char.isDigit

/-- Reads the digits of the whole part: a zero alone, or digits that do not begin with zero. -/
def readWhole (input : List Char) : Option (List Char × List Char) :=
  match input with
  | '0' :: rest => some (['0'], rest)
  | _ =>
    match spanDigits input with
    | ([], _) => none
    | (digits, rest) => some (digits, rest)

/-- Reads the digits after a point, if there is one. -/
def readFraction : List Char → Option (Option (List Char) × List Char)
  | '.' :: rest =>
    match spanDigits rest with
    | ([], _) => none
    | (digits, rest) => some (some digits, rest)
  | rest => some (none, rest)

/-- Reads an exponent, if there is one. -/
def readExponent : List Char → Option ((Option Int) × List Char)
  | mark :: rest =>
    if mark = 'e' || mark = 'E' then
      let (negative, rest) := match rest with
        | '-' :: rest => (true, rest)
        | '+' :: rest => (false, rest)
        | rest => (false, rest)
      match spanDigits rest with
      | ([], _) => none
      | (digits, rest) =>
        let magnitude : Int := Decimal.natOfDigits digits
        some (some (if negative then -magnitude else magnitude), rest)
    else some (none, mark :: rest)
  | [] => some (none, [])

/-- The number that a numeral denotes.  Without fraction and exponent it is an integer if it lies in
the wide range and is no negative zero; otherwise it is the nearest double, which must be finite. -/
def number? (negative : Bool) (whole : List Char) (fraction : Option (List Char))
    (exponent : Option Int) : Option Json :=
  let double (mantissa : Nat) (scale : Int) : Option Json :=
    let value := Decimal.nearest negative mantissa scale
    if value.isFinite then some (.float value) else none
  match fraction, exponent with
  | none, none =>
    let magnitude := Decimal.natOfDigits whole
    if negative && magnitude = 0 then double 0 0
    else match WideInt.ofInt? (if negative then -(magnitude : Int) else magnitude) with
      | some wide => some (.int wide)
      | none => double magnitude 0
  | _, _ =>
    let fractionDigits := fraction.getD []
    double (Decimal.natOfDigits (whole ++ fractionDigits))
      (exponent.getD 0 - fractionDigits.length)

/-- Reads a number after its sign. -/
def readMagnitude (negative : Bool) (input : List Char) : Option (Json × List Char) := do
  let (whole, rest) ← readWhole input
  let (fraction, rest) ← readFraction rest
  let (exponent, rest) ← readExponent rest
  let number ← number? negative whole fraction exponent
  some (number, rest)

/-- Reads a number. -/
def readNumber : List Char → Option (Json × List Char)
  | '-' :: rest => readMagnitude true rest
  | input => readMagnitude false input

/-- Reads elements separated by commas up to a closing character. -/
def readElements {α : Type} (readElement : List Char → Option (α × List Char)) (closing : Char) :
    (turns input : List Char) → Option (List α × List Char)
  | [], _ => none
  | _ :: turns, input => do
    let (element, rest) ← readElement input
    match skipBlank rest with
    | [] => none
    | character :: rest =>
      if character = ',' then do
        let (elements, rest) ← readElements readElement closing turns rest
        some (element :: elements, rest)
      else if character = closing then some ([element], rest)
      else none

/-- Reads the inside of a container and its closing character. -/
def readContainer {α : Type} (readElement : List Char → Option (α × List Char)) (closing : Char)
    (input : List Char) : Option (List α × List Char) :=
  match skipBlank input with
  | [] => none
  | character :: rest =>
    if character = closing then some ([], rest)
    else readElements readElement closing (character :: rest) (character :: rest)

/-- Reads one member: a string, a colon and a value. -/
def readMember {α : Type} (readValue : List Char → Option (α × List Char)) (input : List Char) :
    Option ((String × α) × List Char) := do
  let (key, rest) ← readText input
  match skipBlank rest with
  | ':' :: rest =>
    let (value, rest) ← readValue rest
    some ((key, value), rest)
  | _ => none

/-- Reads a value that opens at most `depth` containers around each other. -/
def readValue : (depth : Nat) → List Char → Option (Json × List Char)
  | depth, input =>
    match skipBlank input with
    | [] => none
    | 'n' :: rest => (readWord ['u', 'l', 'l'] rest).map (fun rest => (.null, rest))
    | 't' :: rest => (readWord ['r', 'u', 'e'] rest).map (fun rest => (.bool true, rest))
    | 'f' :: rest => (readWord ['a', 'l', 's', 'e'] rest).map (fun rest => (.bool false, rest))
    | '"' :: rest => (readText ('"' :: rest)).map (fun (text, rest) => (.str text, rest))
    | '[' :: rest =>
      match depth with
      | 0 => none
      | depth + 1 =>
        (readContainer (readValue depth) ']' rest).map (fun (items, rest) => (.arr items, rest))
    | '\x7b' :: rest =>
      match depth with
      | 0 => none
      | depth + 1 =>
        (readContainer (readMember (readValue depth)) '\x7d' rest).map
          (fun (members, rest) => (object members, rest))
    | character :: rest => readNumber (character :: rest)

/-- The result of a reader that must take its whole input, apart from blanks at the end. -/
def complete {α : Type} : Option (α × List Char) → Option α
  | some (result, rest) => if (skipBlank rest).isEmpty then some result else none
  | none => none

/-- How many containers may be open around each other. -/
def depthLimit : Nat := 127

/-- The value that a text denotes, with at most `depth` open containers. -/
def parseWithin? (depth : Nat) (input : List Char) : Option Json := complete (readValue depth input)

/-- The value that a text denotes. -/
def parse? (input : List Char) : Option Json := parseWithin? depthLimit input

/-- The map that the text of an object of strings denotes; the later of two members with one key
counts. -/
def parseTexts? (input : List Char) : Option (Dict String) :=
  match skipBlank input with
  | '\x7b' :: rest =>
    (complete (readContainer (readMember readText) '\x7d' rest)).map Dict.ofList
  | _ => none

/-- The value whose text the bytes hold. -/
def ofBytes? (bytes : Bytes) : Option Json := do parse? (← Utf8.decode? bytes).toList

/-- The map of texts whose text the bytes hold. -/
def textsOfBytes? (bytes : Bytes) : Option (Dict String) := do
  parseTexts? (← Utf8.decode? bytes).toList

end ServiceMesh.Json
