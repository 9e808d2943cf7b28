import ServiceMesh.Decimal.Shortest
import ServiceMesh.Json.Basic
import ServiceMesh.Text.Utf8
/-!
# Compact JSON text

Values are written without blanks.  Strings escape the quote, the backslash and the characters
below the blank, and hold every other character as it is.
-/

namespace ServiceMesh.Json

/-- Doubles are written positionally from `10 ^ -5` up to below `10 ^ 16`, and with a signed
exponent outside. -/
def floatLayout : Decimal.Layout := ⟨-5, 16, "e+", "e-"⟩

/-- The text of a finite double. -/
def floatText (number : Float) : String := floatLayout.renderFloat number

/-- One hexadecimal digit in lower case. -/
def hexDigit (digit : Nat) : Char :=
  if digit < 10 then Char.ofNat ('0'.toNat + digit) else Char.ofNat ('a'.toNat + (digit - 10))

/-- How one character stands inside a string. -/
def escapeChar (character : Char) : List Char :=
  if character = '"' then ['\\', '"']
  else if character = '\\' then ['\\', '\\']
  else if character.toNat = 0x08 then ['\\', 'b']
  else if character.toNat = 0x0C then ['\\', 'f']
  else if character = '\n' then ['\\', 'n']
  else if character = '\r' then ['\\', 'r']
  else if character = '\t' then ['\\', 't']
  else if character.toNat < 0x20 then
    ['\\', 'u', '0', '0', hexDigit (character.toNat / 16), hexDigit (character.toNat % 16)]
  else [character]

/-- A string between quotes. -/
def writeText (text : String) : List Char :=
  '"' :: text.toList.flatMap escapeChar ++ ['"']

/-- The decimal digits of an integer, after its sign. -/
def writeInt (number : Int) : List Char :=
  if number < 0 then '-' :: Nat.toDigits 10 number.natAbs else Nat.toDigits 10 number.natAbs

mutual

/-- The characters of a value. -/
def write : Json → List Char
  | .null => ['n', 'u', 'l', 'l']
  | .bool true => ['t', 'r', 'u', 'e']
  | .bool false => ['f', 'a', 'l', 's', 'e']
  | .int number => writeInt number.val
  | .float number =>
    if number.isFinite then (floatText number).toList else ['n', 'u', 'l', 'l']
  | .str text => writeText text
  | .arr items => '[' :: writeItems items
  | .obj members => '\x7b' :: writeMembers members

/-- The items of an array and its closing bracket. -/
def writeItems : List Json → List Char
  | [] => [']']
  | [item] => write item ++ [']']
  | item :: items => write item ++ ',' :: writeItems items

/-- The members of an object and its closing brace. -/
def writeMembers : List (String × Json) → List Char
  | [] => ['\x7d']
  | [(key, value)] => writeText key ++ ':' :: write value ++ ['\x7d']
  | (key, value) :: members => writeText key ++ ':' :: write value ++ ',' :: writeMembers members

end

/-- The text of a value. -/
def render (value : Json) : String := String.ofList value.write

/-- The bytes of a value's text. -/
def toBytes (value : Json) : Bytes := Utf8.encode value.render

end ServiceMesh.Json
