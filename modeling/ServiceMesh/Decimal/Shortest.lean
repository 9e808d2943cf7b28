/-!
# The shortest decimal of a binary number

A positive number `mantissa · 2 ^ exponent` stands for every real that rounds to it.  Of the
decimals `digits · 10 ^ scale` in that interval, `Shortest.ofBinary` returns one on the coarsest
grid of powers of ten that meets the interval, and of two on that grid the nearer.  All comparisons
are between exact naturals.  `Layout` then says how such a decimal is written as text.
-/

namespace ServiceMesh.Decimal

/-- A positive binary number `mantissa · 2 ^ exponent`, with the shape of the interval of reals that
round to it. -/
structure Binary where
  /-- The integer mantissa. -/
  mantissa : Nat
  /-- The power of two. -/
  exponent : Int
  /-- The neighbour below is only half as far away as the neighbour above. -/
  narrowBelow : Bool
  deriving DecidableEq, Repr

/-- A decimal `digits · 10 ^ scale`. -/
structure Scaled where
  /-- The digits as one natural. -/
  digits : Nat
  /-- The power of ten. -/
  scale : Int
  deriving DecidableEq, Repr

namespace Shortest

/-- A quarter of the unit of `binary`, counted in units of `10 ^ scale`, as a fraction. -/
def quarterUnit (binary : Binary) (scale : Int) : Nat × Nat :=
  let power := binary.exponent - 2
  (Nat.pow 2 power.toNat * Nat.pow 10 (-scale).toNat,
    Nat.pow 2 (-power).toNat * Nat.pow 10 scale.toNat)

/-- The multiple of `10 ^ scale` that rounds to `binary`, the nearer one if both neighbours do; of
two at the same distance the even one. -/
def onGrid? (binary : Binary) (scale : Int) : Option Nat :=
  let unit := quarterUnit binary scale
  let centre := 4 * binary.mantissa * unit.1
  let low := (4 * binary.mantissa - (if binary.narrowBelow then 1 else 2)) * unit.1
  let high := (4 * binary.mantissa + 2) * unit.1
  let closed := binary.mantissa % 2 = 0
  let inside (digits : Nat) : Bool :=
    let point := digits * unit.2
    (low < point || (closed && low = point)) && (point < high || (closed && point = high))
  let below := centre / unit.2
  let above := below + 1
  match inside below && 0 < below, inside above with
  | true, true =>
    let distanceBelow := centre - below * unit.2
    let distanceAbove := above * unit.2 - centre
    if distanceBelow < distanceAbove then some below
    else if distanceAbove < distanceBelow then some above
    else if below % 2 = 0 then some below else some above
  | true, false => some below
  | false, true => some above
  | false, false => none

/-- Tries the grids from `10 ^ scale` on downwards. -/
def search (binary : Binary) : Nat → Int → Scaled
  | 0, scale => ⟨0, scale⟩
  | grids + 1, scale =>
    match onGrid? binary scale with
    | some digits => ⟨digits, scale⟩
    | none => search binary grids (scale - 1)

/-- The digits without trailing zeros. -/
def trim : Nat → Scaled → Scaled
  | 0, decimal => decimal
  | steps + 1, decimal =>
    if decimal.digits % 10 = 0 && decimal.digits ≠ 0 then
      trim steps ⟨decimal.digits / 10, decimal.scale + 1⟩
    else decimal

/-- The shortest decimal that rounds to `binary`.  The search starts above the number's own power
of ten, and seventeen digits always suffice. -/
def ofBinary (binary : Binary) : Scaled :=
  let magnitude : Int := (binary.mantissa.log2 : Int) + 1 + binary.exponent
  trim 24 (search binary 24 (magnitude * 30103 / 100000 + 1))

end Shortest

/-- The binary number of a positive finite double, given its bits without the sign. -/
def Binary.ofBits (bits : Nat) : Binary :=
  let fraction : Nat := bits % 0x10000000000000
  let biased : Nat := bits / 0x10000000000000
  if biased = 0 then ⟨fraction, -1074, false⟩
  else ⟨0x10000000000000 + fraction, (biased : Int) - 1075, fraction = 0 && 1 < biased⟩

/-- How a decimal is laid out as text. -/
structure Layout where
  /-- The least power of ten of the first digit that is still written positionally. -/
  leastPositional : Int
  /-- The least power of ten of the first digit that is no longer written positionally. -/
  leastExponential : Int
  /-- The text before a positive exponent. -/
  positiveExponent : String
  /-- The text before the magnitude of a negative exponent. -/
  negativeExponent : String

/-- The text of a positive decimal. -/
def Layout.render (layout : Layout) (decimal : Scaled) : String :=
  let digits := Nat.toDigits 10 decimal.digits
  let first : Int := decimal.scale + digits.length - 1
  if layout.leastPositional ≤ first && first < layout.leastExponential then
    if 0 ≤ decimal.scale then
      String.ofList (digits ++ List.replicate decimal.scale.toNat '0' ++ ['.', '0'])
    else if 0 ≤ first then
      let whole := (first + 1).toNat
      String.ofList (digits.take whole ++ '.' :: digits.drop whole)
    else
      String.ofList ('0' :: '.' :: List.replicate (-first - 1).toNat '0' ++ digits)
  else
    let significand := match digits with
      | [] => []
      | [only] => [only]
      | lead :: rest => lead :: '.' :: rest
    let exponent :=
      if 0 ≤ first then layout.positiveExponent ++ toString first.toNat
      else layout.negativeExponent ++ toString (-first).toNat
    String.ofList significand ++ exponent

/-- The text of a finite double: its sign, then the shortest decimal that reads back as it. -/
def Layout.renderFloat (layout : Layout) (number : Float) : String :=
  let bits := number.toBits.toNat
  let sign := if 0x8000000000000000 ≤ bits then "-" else ""
  let magnitude := bits % 0x8000000000000000
  if magnitude = 0 then sign ++ "0.0"
  else sign ++ layout.render (Shortest.ofBinary (Binary.ofBits magnitude))

end ServiceMesh.Decimal
