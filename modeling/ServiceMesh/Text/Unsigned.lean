import ServiceMesh.Decimal.Nearest
/-!
# Unsigned numerals

Ports and durations are written in decimal digits, which a plus sign may precede.
-/

namespace ServiceMesh.Text

/-- Why a text is no unsigned numeral within a limit. -/
inductive NumeralError where
  /-- There is nothing to read. -/
  | empty
  /-- Something other than a digit. -/
  | invalidDigit
  /-- The digits so far exceed the limit. -/
  | tooLarge
  deriving DecidableEq, Repr

/-- The wording of a numeral error. -/
def NumeralError.message : NumeralError → String
  | .empty => "cannot parse integer from empty string"
  | .invalidDigit => "invalid digit found in string"
  | .tooLarge => "number too large to fit in target type"

/-- Reads further digits after the value read so far; the first offence from the left counts. -/
def readDigits (limit : Nat) : (value : Nat) → List Char → Except NumeralError Nat
  | value, [] => .ok value
  | value, character :: rest =>
    if character.isDigit then
      let value := 10 * value + Decimal.digitValue character
      if limit < value then .error .tooLarge else readDigits limit value rest
    else .error .invalidDigit

/-- Reads an unsigned numeral of at most `limit`. -/
def readUnsigned (limit : Nat) (text : String) : Except NumeralError Nat :=
  match text.toList with
  | [] => .error .empty
  | ['+'] => .error .invalidDigit
  | '+' :: digits => readDigits limit 0 digits
  | digits => readDigits limit 0 digits

end ServiceMesh.Text
