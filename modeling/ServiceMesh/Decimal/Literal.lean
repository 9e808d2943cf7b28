import ServiceMesh.Decimal.Nearest
/-!
# Decimal literals

A weight is written as a decimal literal: an optional sign, digits with an optional point, and an
optional exponent; or the name of an infinity or of the value that is no number, in any case.  There
is no room for blanks or separators.
-/

namespace ServiceMesh.Decimal

/-- What a literal denotes. -/
inductive Literal where
  /-- The number `mantissa · 10 ^ exponent`, with a sign. -/
  | finite (negative : Bool) (mantissa : Nat) (exponent : Int)
  /-- An infinity. -/
  | infinite (negative : Bool)
  /-- No number. -/
  | undefined
  deriving DecidableEq, Repr

namespace Literal

/-- Reads the sign of a literal. -/
def readSign : List Char → Bool × List Char
  | '-' :: rest => (true, rest)
  | '+' :: rest => (false, rest)
  | rest => (false, rest)

/-- Reads the exponent that ends a literal. -/
def readExponent : List Char → Option Int
  | [] => some 0
  | mark :: rest =>
    if mark = 'e' || mark = 'E' then
      let (negative, digits) := readSign rest
      if digits.isEmpty || !digits.all Char.isDigit then none
      else
        let magnitude : Int := natOfDigits digits
        some (if negative then -magnitude else magnitude)
    else none

/-- Reads digits with an optional point and exponent. -/
def readNumber (negative : Bool) (input : List Char) : Option Literal :=
  let (whole, rest) := input.span Char.isDigit
  let (fraction, rest) := match rest with
    | '.' :: rest => rest.span Char.isDigit
    | rest => ([], rest)
  if whole.isEmpty && fraction.isEmpty then none
  else (readExponent rest).map (fun exponent =>
    .finite negative (natOfDigits (whole ++ fraction)) (exponent - fraction.length))

/-- Reads a literal. -/
def read? (text : String) : Option Literal :=
  let (negative, rest) := readSign text.toList
  let name := rest.map Char.toLower
  if name = ['n', 'a', 'n'] then some .undefined
  else if name = ['i', 'n', 'f'] || name = ['i', 'n', 'f', 'i', 'n', 'i', 't', 'y'] then
    some (.infinite negative)
  else readNumber negative rest

/-- The double nearest to what a literal denotes. -/
def toFloat : Literal → Float
  | .finite negative mantissa exponent => nearest negative mantissa exponent
  | .infinite negative => if negative then -(1.0 / 0.0) else 1.0 / 0.0
  | .undefined => 0.0 / 0.0

end Literal

end ServiceMesh.Decimal
