import ServiceMesh.Decimal.Literal
import ServiceMesh.Endpoint
/-!
# Weighted choice

Every candidate has a weight that is not negative.  The weights, scaled by the greatest of them, are
laid end to end, and a point below their sum falls into the part of the candidate that is chosen.  A
candidate of weight zero has an empty part.  The walk along the parts asks of the numbers only that
they can be compared, added, subtracted and divided.
-/

namespace ServiceMesh.Weight

universe u v

variable {α : Type u} {κ : Type v}

/-- The greatest of some numbers, and at least zero. -/
def greatest [OfNat κ 0] [LT κ] [DecidableLT κ] (weights : List κ) : κ :=
  weights.foldl (fun most weight => if most < weight then weight else most) 0

/-- The numbers scaled by the greatest of them, which keeps their sum small. -/
def scaled [OfNat κ 0] [LT κ] [DecidableLT κ] [Div κ] (weights : List κ) : List κ :=
  weights.map (· / greatest weights)

/-- The sum of some numbers. -/
def total [OfNat κ 0] [Add κ] (weights : List κ) : κ := weights.foldl (· + ·) 0

/-- Walks along the parts until the point falls into one; a point beyond all of them, which only
rounding can produce, goes to the last part that is not empty. -/
def walk [OfNat κ 0] [LT κ] [DecidableLT κ] [Sub κ] :
    (point : κ) → (lastEligible : Option α) → List (α × κ) → Option α
  | _, lastEligible, [] => lastEligible
  | point, lastEligible, (candidate, weight) :: others =>
    if 0 < weight then
      if point < weight then some candidate
      else walk (point - weight) (some candidate) others
    else walk point lastEligible others

/-- The candidate into whose part a point falls. -/
def choose [OfNat κ 0] [LT κ] [DecidableLT κ] [Sub κ] (point : κ) (parts : List (α × κ)) :
    Option α :=
  walk point none parts

/-- The tag that holds the weight of an instance. -/
def tagKey : String := "weight"

/-- The weight that a tag text gives: one without a readable text, zero for a negative number and
for anything that is not finite. -/
def ofText (text : Option String) : Float :=
  match text.bind Decimal.Literal.read? with
  | none => 1.0
  | some literal =>
    let number := literal.toFloat
    if number.isFinite && 0.0 < number then number else 0.0

/-- The weight of an instance. -/
def ofReference (reference : Reference) : Float := ofText (reference.tag? tagKey)

end ServiceMesh.Weight
