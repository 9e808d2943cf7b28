/-!
# The double nearest to a decimal

A numeral is read as `mantissa · 10 ^ exponent` and rounded once to the nearest double.  Numerals
beyond the range of finite doubles go to an infinity, numerals below it to a zero of their sign.
-/

namespace ServiceMesh.Decimal

/-- The double nearest to `mantissa · 10 ^ exponent`, with a sign.  A bit is worth between 30102 and
30103 hundred-thousandths of a decimal digit; where the bits of the mantissa and the exponent show
that the value lies far outside the range of doubles, nothing else is computed. -/
def nearest (negative : Bool) (mantissa : Nat) (exponent : Int) : Float :=
  let bits : Int := mantissa.log2
  let absolute : Float :=
    if mantissa = 0 || (bits + 1) * 30103 / 100000 + exponent < -400 then 0.0
    else if 400 < bits * 30102 / 100000 + exponent then 1.0 / 0.0
    else if 0 ≤ exponent then Float.ofScientific (mantissa * Nat.pow 10 exponent.toNat) false 0
    else Float.ofScientific mantissa true (-exponent).toNat
  if negative then -absolute else absolute

/-- The value of a digit. -/
def digitValue (character : Char) : Nat := character.toNat - '0'.toNat

/-- The natural that further digits make of `total * scale + chunk`.  Digits gather in the chunk,
which stays small, and `scale` is the power of ten that makes room for them. -/
def joinDigits : (total scale chunk : Nat) → List Char → Nat
  | total, scale, chunk, [] => total * scale + chunk
  | total, scale, chunk, character :: rest =>
    if scale < 100000000000000000 then joinDigits total (scale * 10) (chunk * 10 + digitValue character) rest
    else joinDigits (total * scale + chunk) 10 (digitValue character) rest

/-- The natural that a list of digits writes. -/
def natOfDigits (digits : List Char) : Nat := joinDigits 0 1 0 digits

theorem joinDigits_eq_foldl (digits : List Char) : ∀ total scale chunk : Nat,
    joinDigits total scale chunk digits =
      digits.foldl (fun number character => number * 10 + digitValue character)
        (total * scale + chunk) := by
  induction digits with
  | nil => intro total scale chunk; rfl
  | cons character rest step =>
    intro total scale chunk
    simp only [joinDigits, List.foldl_cons]
    split
    · rw [step, ← Nat.mul_assoc, Nat.add_mul, Nat.add_assoc]
    · rw [step]

/-- Each digit adds its value to ten times what the digits before it write. -/
theorem natOfDigits_eq_foldl (digits : List Char) :
    natOfDigits digits =
      digits.foldl (fun number character => number * 10 + digitValue character) 0 := by
  simp [natOfDigits, joinDigits_eq_foldl]

end ServiceMesh.Decimal
