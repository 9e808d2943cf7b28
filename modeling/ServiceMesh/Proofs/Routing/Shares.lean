import Mathlib.Algebra.BigOperators.Ring.List
import Mathlib.Algebra.Order.BigOperators.Group.List
import Mathlib.Algebra.Order.Field.Basic
import Mathlib.Algebra.Order.Field.Rat
import Mathlib.Order.Interval.Set.Defs
import Mathlib.Tactic.Linarith
import Mathlib.Tactic.NormNum
import ServiceMesh.Routing

/-!
# Shares of weighted candidates

Weighted choice lays the scaled weights end to end, and a point falls into the part before whose end it
lies.  In an ordered field the walk along the parts finds this part, and never runs past the last one
(`walkInside_of_falls`).  A double that is finite stands for a rational, so the weights of candidates
have exact values, and by them each candidate is chosen by its share of all points
(`weighted_follows_shares`).
-/

namespace ServiceMesh.Weight

universe u v

/-! ## The walk along the parts -/

section

variable {α : Type u} {κ : Type v} [OfNat κ 0] [LT κ] [DecidableLT κ] [Sub κ] {point : κ}
  {last : Option α} {parts : List (α × κ)} {candidate : α}

/-- The walk along the parts without an answer for a point beyond all of them. -/
def walkInside : (point : κ) → List (α × κ) → Option α
  | _, [] => none
  | point, (candidate, weight) :: others =>
    if 0 < weight then
      if point < weight then some candidate else walkInside (point - weight) others
    else walkInside point others

/-- Where the walk ends inside the parts the last one that is not empty does not matter. -/
theorem walk_of_inside (inside : walkInside point parts = some candidate) :
    walk point last parts = some candidate := by
  induction parts generalizing point last with
  | nil => cases inside
  | cons part parts induction =>
      rcases part with ⟨other, weight⟩
      rw [walkInside] at inside
      rw [walk]
      split
      · next positive =>
          rw [if_pos positive] at inside
          split
          · next below => rwa [if_pos below] at inside
          · next beyond => exact induction (by rwa [if_neg beyond] at inside)
      · next empty => exact induction (by rwa [if_neg empty] at inside)

/-- The walk comes to a part that is not empty, if there is one. -/
theorem walk_eq_none_iff :
    walk point last parts = none ↔ last = none ∧ ∀ part ∈ parts, ¬ 0 < part.2 := by
  induction parts generalizing point last with
  | nil => simp [walk]
  | cons part parts induction =>
      rcases part with ⟨other, weight⟩
      rw [walk]
      split
      · next positive =>
          split
          · simp [positive]
          · rw [induction]
            simp [positive]
      · next empty =>
          rw [induction]
          simp [empty]

theorem mem_of_walk (chosen : walk point last parts = some candidate) :
    last = some candidate ∨ ∃ weight, (candidate, weight) ∈ parts ∧ 0 < weight := by
  induction parts generalizing point last with
  | nil => exact .inl chosen
  | cons part parts induction =>
      rcases part with ⟨other, weight⟩
      have later : (∃ weight, (candidate, weight) ∈ parts ∧ 0 < weight) →
          ∃ found, (candidate, found) ∈ (other, weight) :: parts ∧ 0 < found :=
        fun ⟨found, member, positive⟩ => ⟨found, List.mem_cons_of_mem _ member, positive⟩
      rw [walk] at chosen
      split at chosen
      · next positive =>
          have own : some other = some candidate →
              ∃ found, (candidate, found) ∈ (other, weight) :: parts ∧ 0 < found := by
            rintro ⟨⟩
            exact ⟨weight, List.mem_cons_self, positive⟩
          split at chosen
          · exact .inr (own chosen)
          · exact .inr ((induction chosen).elim own later)
      · exact (induction chosen).imp id later

end

section

variable {α : Type u} {κ : Type v} [Field κ]

theorem total_eq_sum (weights : List κ) : total weights = weights.sum :=
  List.sum_eq_foldl.symm

variable [LinearOrder κ] {weights parts : List κ} {point : κ} {place : Nat}

theorem sum_take_scaled (weights : List κ) (place : Nat) :
    ((scaled weights).take place).sum = (weights.take place).sum / greatest weights := by
  have moved := List.sum_map_mul_right (weights.take place) id (greatest weights)⁻¹
  simp only [List.map_id, id_eq, ← div_eq_mul_inv] at moved
  rw [← moved, scaled, ← List.map_take]

theorem sum_scaled (weights : List κ) :
    (scaled weights).sum = weights.sum / greatest weights := by
  have taken := sum_take_scaled weights weights.length
  rwa [List.take_length, List.take_of_length_le (by rw [scaled, List.length_map])] at taken

/-- A point falls into the part at a place: the parts before it sum to at most the point, and with it
to more. -/
def Falls (parts : List κ) (point : κ) (place : Nat) : Prop :=
  (parts.take place).sum ≤ point ∧ point < (parts.take (place + 1)).sum

theorem falls_cons_zero {part : κ} :
    Falls (part :: parts) point 0 ↔ 0 ≤ point ∧ point < part := by
  simp [Falls]

theorem Falls.lt_length (falls : Falls parts point place) : place < parts.length := by
  by_contra beyond
  have all : parts.take place = parts.take (place + 1) := by
    rw [List.take_of_length_le (by omega), List.take_of_length_le (by omega)]
  rw [Falls, all] at falls
  exact absurd falls.2 (not_lt.mpr falls.1)

variable [IsStrictOrderedRing κ]

theorem falls_cons_succ {part : κ} :
    Falls (part :: parts) point (place + 1) ↔ Falls parts (point - part) place := by
  simp only [Falls, List.take_succ_cons, List.sum_cons]
  constructor
  · rintro ⟨before, upTo⟩
    constructor <;> linarith
  · rintro ⟨before, upTo⟩
    constructor <;> linarith

/-- A point below the sum of the parts falls into one of them. -/
theorem exists_falls (least : 0 ≤ point) (below : point < parts.sum) :
    ∃ place, Falls parts point place := by
  induction parts generalizing point with
  | nil => exact absurd below (not_lt.mpr least)
  | cons part parts induction =>
      rw [List.sum_cons] at below
      by_cases own : point < part
      · exact ⟨0, falls_cons_zero.mpr ⟨least, own⟩⟩
      · have later : 0 ≤ point - part := by linarith
        rcases induction later (by linarith) with ⟨place, falls⟩
        exact ⟨place + 1, falls_cons_succ.mpr falls⟩

theorem Falls.pos {part : κ} (falls : Falls parts point place)
    (listed : parts[place]? = some part) : 0 < part := by
  rcases List.getElem?_eq_some_iff.mp listed with ⟨within, rfl⟩
  have upTo := falls.2
  rw [List.sum_take_succ parts place within] at upTo
  linarith [falls.1]

/-- A part that is not empty begins where the parts before it end. -/
theorem falls_first {part : κ} (listed : parts[place]? = some part) (filled : 0 < part) :
    Falls parts (parts.take place).sum place := by
  rcases List.getElem?_eq_some_iff.mp listed with ⟨within, rfl⟩
  refine ⟨le_rfl, ?_⟩
  rw [List.sum_take_succ parts place within]
  exact lt_add_of_pos_right _ filled

theorem take_sum_le (nonneg : ∀ part ∈ parts, 0 ≤ part) (place : Nat) :
    (parts.take place).sum ≤ parts.sum :=
  (List.take_sublist place parts).sum_le_sum nonneg

theorem take_sum_nonneg (nonneg : ∀ part ∈ parts, 0 ≤ part) (place : Nat) :
    0 ≤ (parts.take place).sum :=
  List.sum_nonneg fun part member => nonneg part (List.mem_of_mem_take member)

/-- Parts that are not negative do not overlap. -/
theorem Falls.unique {other : Nat} (nonneg : ∀ part ∈ parts, 0 ≤ part)
    (falls : Falls parts point place) (also : Falls parts point other) : place = other := by
  induction parts generalizing point place other with
  | nil => exact absurd falls.lt_length (Nat.not_lt_zero _)
  | cons part parts induction =>
      have rest : ∀ part ∈ parts, 0 ≤ part := fun part member =>
        nonneg part (List.mem_cons_of_mem _ member)
      cases place with
      | zero =>
          cases other with
          | zero => rfl
          | succ other =>
              have own := falls_cons_zero.mp falls
              have later := falls_cons_succ.mp also
              linarith [later.1, own.2, take_sum_nonneg rest other]
      | succ place =>
          cases other with
          | zero =>
              have own := falls_cons_zero.mp also
              have later := falls_cons_succ.mp falls
              linarith [later.1, own.2, take_sum_nonneg rest place]
          | succ other =>
              exact congrArg (· + 1)
                (induction rest (falls_cons_succ.mp falls) (falls_cons_succ.mp also))

/-- The walk finds the part into which the point falls. -/
theorem walkInside_of_falls {candidates : List α} (nonneg : ∀ part ∈ parts, 0 ≤ part)
    (enough : candidates.length = parts.length) (falls : Falls parts point place) :
    walkInside point (candidates.zip parts) = candidates[place]? := by
  induction parts generalizing point place candidates with
  | nil => exact absurd falls.lt_length (Nat.not_lt_zero _)
  | cons part parts induction =>
      rcases candidates with _ | ⟨candidate, candidates⟩
      · cases enough
      have rest : ∀ part ∈ parts, 0 ≤ part := fun part member =>
        nonneg part (List.mem_cons_of_mem _ member)
      rw [List.zip_cons_cons, walkInside]
      cases place with
      | zero =>
          have own := falls_cons_zero.mp falls
          rw [if_pos (own.1.trans_lt own.2), if_pos own.2, List.getElem?_cons_zero]
      | succ place =>
          have later := falls_cons_succ.mp falls
          have beyond : ¬ point < part := by
            linarith [later.1, take_sum_nonneg rest place]
          rw [List.getElem?_cons_succ, if_neg beyond, ← induction rest (by simpa using enough) later]
          split
          · rfl
          · next empty =>
              -- An empty part leaves the point where it is.
              have zero : part = 0 := le_antisymm (not_lt.mp empty) (nonneg _ List.mem_cons_self)
              rw [zero, sub_zero]

theorem choose_of_falls {candidates : List α} (nonneg : ∀ part ∈ parts, 0 ≤ part)
    (enough : candidates.length = parts.length) (falls : Falls parts point place) :
    choose point (candidates.zip parts) = candidates[place]? := by
  have within : place < candidates.length := enough ▸ falls.lt_length
  have inside := walkInside_of_falls nonneg enough falls
  rw [List.getElem?_eq_getElem within] at inside ⊢
  exact walk_of_inside inside

/-- The place of the part that a point chooses. -/
def placeOf? (parts : List κ) (point : κ) : Option Nat :=
  choose point ((List.range parts.length).zip parts)

theorem placeOf?_of_falls (nonneg : ∀ part ∈ parts, 0 ≤ part) (falls : Falls parts point place) :
    placeOf? parts point = some place := by
  rw [placeOf?, choose_of_falls nonneg List.length_range falls]
  exact List.getElem?_range falls.lt_length

/-- The points that choose a place are those between the ends of its part. -/
theorem points_of_place (nonneg : ∀ part ∈ parts, 0 ≤ part) (place : Nat) :
    {point | 0 ≤ point ∧ point < parts.sum ∧ placeOf? parts point = some place} =
      Set.Ico (parts.take place).sum (parts.take (place + 1)).sum := by
  ext point
  constructor
  · rintro ⟨least, below, chosen⟩
    rcases exists_falls least below with ⟨own, falls⟩
    rw [placeOf?_of_falls nonneg falls] at chosen
    cases chosen
    exact falls
  · intro falls
    exact ⟨(take_sum_nonneg nonneg place).trans falls.1,
      falls.2.trans_le (take_sum_le nonneg (place + 1)), placeOf?_of_falls nonneg falls⟩

/-! ## Scaled weights -/

/-- The greatest weight is positive just if one of them is. -/
theorem greatest_pos_iff : 0 < greatest weights ↔ ∃ weight ∈ weights, 0 < weight := by
  suffices general : ∀ start : κ, 0 ≤ start →
      (0 < weights.foldl (fun most weight => if most < weight then weight else most) start ↔
        0 < start ∨ ∃ weight ∈ weights, 0 < weight) by
    simpa [greatest] using general 0 le_rfl
  induction weights with
  | nil => simp
  | cons weight weights induction =>
      intro start least
      rw [List.foldl_cons, induction _ (by split <;> linarith)]
      simp only [List.exists_mem_cons_iff, ← or_assoc]
      refine or_congr_left ?_
      split
      · next less => exact ⟨.inr, fun positive => positive.elim (·.trans less) id⟩
      · next more => exact ⟨.inl, fun positive => positive.elim id (·.trans_le (not_lt.mp more))⟩

theorem scaled_nonneg (positive : 0 < greatest weights) (nonneg : ∀ weight ∈ weights, 0 ≤ weight) :
    ∀ part ∈ scaled weights, 0 ≤ part := by
  intro part member
  rcases List.mem_map.mp member with ⟨weight, listed, rfl⟩
  exact div_nonneg (nonneg weight listed) positive.le

end

/-! ## Exact weights -/

open Float.Model (UnpackedFloat)

/-- The rational that a double stands for, if it is finite. -/
def rational (number : Float) : ℚ :=
  match number.toModel.unpack with
  | .finite sign mantissa exponent _ => (sign.apply mantissa : ℤ) * 2 ^ exponent
  | _ => 0

/-- The weight of an instance as a rational. -/
def exact (reference : Reference) : ℚ := rational (ofReference reference)

theorem unpack_zero : (0 : Float).toModel.unpack = .zero .positive := rfl

theorem rational_zero : rational 0 = 0 := by
  rw [rational, unpack_zero]

theorem rational_one : rational 1 = 1 := by
  have unpacked : (1 : Float).toModel.unpack =
      .finite .positive (2 ^ 52) (-52) (Nat.two_pow_pos 52) := rfl
  rw [rational, unpacked]
  show (((2 ^ 52 : ℕ) : ℤ) : ℚ) * 2 ^ (-52 : ℤ) = 1
  norm_num

theorem pos_iff_lt {number : Float} :
    0 < number ↔ (UnpackedFloat.zero .positive).lt number.toModel.unpack = true := by
  rw [← unpack_zero]
  exact decide_eq_true_iff

/-- A finite double is positive just if its rational is. -/
theorem pos_iff_rational_pos {number : Float} (finite : number.isFinite = true) :
    0 < number ↔ 0 < rational number := by
  have bounded : number.toModel.unpack.isFinite = true := finite
  rw [pos_iff_lt, rational]
  cases unpacked : number.toModel.unpack with
  | infinity sign =>
      rw [unpacked] at bounded
      cases bounded
  | notANumber =>
      rw [unpacked] at bounded
      cases bounded
  | zero sign => exact iff_of_false Bool.false_ne_true (lt_irrefl 0)
  | finite sign mantissa exponent filled =>
      have magnitude : (0 : ℚ) < mantissa := by exact_mod_cast filled
      have size : (0 : ℚ) < mantissa * 2 ^ exponent := mul_pos magnitude (zpow_pos two_pos exponent)
      cases sign with
      | positive =>
          refine iff_of_true rfl ?_
          show (0 : ℚ) < ((mantissa : ℤ) : ℚ) * 2 ^ exponent
          rwa [Int.cast_natCast]
      | negative =>
          refine iff_of_false Bool.false_ne_true (not_lt.mpr ?_)
          show ((-(mantissa : ℤ) : ℤ) : ℚ) * 2 ^ exponent ≤ 0
          rw [Int.cast_neg, Int.cast_natCast, neg_mul]
          exact neg_nonpos.mpr size.le

/-- Zero has no part, whatever it is scaled by. -/
theorem not_pos_zero_div (most : Float) : ¬ 0 < 0 / most := by
  have packed : (0 / most).toModel.unpack =
      UnpackedFloat.unpack .binary64 (UnpackedFloat.pack .binary64
        (UnpackedFloat.div .binary64 (.zero .positive) most.toModel.unpack)) := rfl
  -- Nothing but a zero or no number comes of dividing zero.
  have divided : UnpackedFloat.div .binary64 (.zero .positive) most.toModel.unpack = .notANumber ∨
      ∃ sign, UnpackedFloat.div .binary64 (.zero .positive) most.toModel.unpack = .zero sign := by
    cases most.toModel.unpack with
    | infinity sign => exact .inr ⟨_, rfl⟩
    | notANumber => exact .inl rfl
    | zero sign => exact .inl rfl
    | finite sign mantissa exponent filled => exact .inr ⟨_, rfl⟩
  rw [pos_iff_lt, packed]
  rcases divided with undefined | ⟨sign, zero⟩
  · rw [undefined]
    exact Bool.false_ne_true
  · rw [zero]
    cases sign <;> exact Bool.false_ne_true

/-- A weight is one without a readable text, else the number that the text says, but at least zero,
and zero for a number that is not finite. -/
theorem exact_eq (reference : Reference) :
    exact reference =
      match (reference.tag? tagKey).bind Decimal.Literal.read? with
      | none => 1
      | some literal =>
        if literal.toFloat.isFinite then max (rational literal.toFloat) 0 else 0 := by
  rw [exact, ofReference, ofText]
  cases (reference.tag? tagKey).bind Decimal.Literal.read? with
  | none => exact rational_one
  | some literal =>
      by_cases finite : literal.toFloat.isFinite = true
      · have positive_iff : 0.0 < literal.toFloat ↔ 0 < rational literal.toFloat :=
          pos_iff_rational_pos finite
        simp only [finite, Bool.true_and, decide_eq_true_iff, if_true]
        split
        · next positive => exact (max_eq_left (positive_iff.mp positive).le).symm
        · next low =>
            rw [max_eq_right (not_lt.mp fun positive => low (positive_iff.mpr positive))]
            exact rational_zero
      · simp only [Bool.eq_false_iff.mpr finite, Bool.false_and]
        exact rational_zero

theorem exact_nonneg (reference : Reference) : 0 ≤ exact reference := by
  rw [exact_eq]
  split
  · exact zero_le_one
  · split
    · exact le_max_right _ _
    · exact le_rfl

/-- The parts of candidates, by their exact weights. -/
def parts (candidates : List Reference) : List ℚ := scaled (candidates.map exact)

end ServiceMesh.Weight

namespace ServiceMesh

/-- Weights are exact, and a rule gives the points below a limit. -/
def Weighing.exact (draw : ℚ → ℚ) : Weighing ℚ :=
  ⟨Weight.exact, fun generator limit => (draw limit, generator)⟩

namespace Router

/-! ## Weighted choice -/

section

variable {candidates : List Reference} {reference : Reference} {generator : Random.Generator}

/-- Whatever the numbers are, what is chosen by weight is a candidate whose part is not empty. -/
theorem mem_of_takeWeighted {κ : Type} [OfNat κ 0] [LT κ] [DecidableLT κ] [Add κ] [Sub κ] [Div κ]
    {weighing : Weighing κ}
    (chosen : (takeWeighted weighing generator candidates).1 = some reference) :
    reference ∈ candidates ∧ ∃ most : κ, 0 < most ∧ 0 < weighing.weigh reference / most := by
  rw [takeWeighted] at chosen
  split at chosen
  · next positive =>
      rcases Weight.mem_of_walk chosen with none_ | ⟨part, member, filled⟩
      · cases none_
      · rw [Weight.scaled, List.map_map, ← List.map_prod_left_eq_zip, List.mem_map] at member
        rcases member with ⟨candidate, listed, ⟨⟩⟩
        exact ⟨listed, _, positive, filled⟩
  · cases chosen

theorem greatest_pos_iff_exists :
    0 < Weight.greatest (candidates.map Weight.exact) ↔
      ∃ candidate ∈ candidates, 0 < Weight.exact candidate := by
  rw [Weight.greatest_pos_iff]
  simp

/-- By exact weights the choice is that of the point that the rule gives, if a weight is positive. -/
theorem takeWeighted_exact (draw : ℚ → ℚ) (generator : Random.Generator)
    (candidates : List Reference) :
    (takeWeighted (.exact draw) generator candidates).1 =
      if ∃ candidate ∈ candidates, 0 < Weight.exact candidate then
        Weight.choose (draw (Weight.total (Weight.parts candidates)))
          (candidates.zip (Weight.parts candidates))
      else none := by
  rw [takeWeighted]
  split
  · next positive => exact (if_pos (greatest_pos_iff_exists.mp positive)).symm
  · next none_ => exact (if_neg fun some_ => none_ (greatest_pos_iff_exists.mpr some_)).symm

theorem length_parts (candidates : List Reference) :
    (Weight.parts candidates).length = candidates.length := by
  simp [Weight.parts, Weight.scaled]

theorem getElem?_parts (candidates : List Reference) (place : Nat) :
    (Weight.parts candidates)[place]? = candidates[place]?.map fun candidate =>
      Weight.exact candidate / Weight.greatest (candidates.map Weight.exact) := by
  rw [Weight.parts, Weight.scaled, List.map_map, List.getElem?_map]
  rfl

theorem parts_nonneg (positive : ∃ candidate ∈ candidates, 0 < Weight.exact candidate) :
    ∀ part ∈ Weight.parts candidates, 0 ≤ part := by
  refine Weight.scaled_nonneg (greatest_pos_iff_exists.mpr positive) fun weight member => ?_
  rcases List.mem_map.mp member with ⟨candidate, -, rfl⟩
  exact Weight.exact_nonneg candidate

theorem takeWeighted_exact_eq_none_iff {draw : ℚ → ℚ} :
    (takeWeighted (.exact draw) generator candidates).1 = none ↔
      ∀ candidate ∈ candidates, ¬ 0 < Weight.exact candidate := by
  rw [takeWeighted_exact]
  constructor
  · intro declined candidate listed positive
    have some_ : ∃ candidate ∈ candidates, 0 < Weight.exact candidate :=
      ⟨candidate, listed, positive⟩
    rw [if_pos some_] at declined
    have empty := (Weight.walk_eq_none_iff.mp declined).2
    have filled := div_pos positive (greatest_pos_iff_exists.mpr some_)
    refine empty (candidate, _) ?_ filled
    rw [Weight.parts, Weight.scaled, List.map_map, ← List.map_prod_left_eq_zip]
    exact List.mem_map_of_mem listed
  · intro none_
    exact if_neg fun ⟨candidate, listed, positive⟩ => none_ candidate listed positive

theorem takeWeighted_of_falls {draw : ℚ → ℚ} {place : Nat}
    (positive : ∃ candidate ∈ candidates, 0 < Weight.exact candidate)
    (falls : Weight.Falls (Weight.parts candidates)
      (draw (Weight.total (Weight.parts candidates))) place) :
    (takeWeighted (.exact draw) generator candidates).1 = candidates[place]? := by
  rw [takeWeighted_exact, if_pos positive]
  exact Weight.choose_of_falls (parts_nonneg positive) (length_parts candidates).symm falls

/-- A point never falls into the part of a candidate without weight. -/
theorem pos_of_falls {point : ℚ} {place : Nat}
    (positive : ∃ candidate ∈ candidates, 0 < Weight.exact candidate)
    (falls : Weight.Falls (Weight.parts candidates) point place)
    (listed : candidates[place]? = some reference) : 0 < Weight.exact reference := by
  have part := getElem?_parts candidates place
  rw [listed, Option.map_some] at part
  exact (div_pos_iff_of_pos_right (greatest_pos_iff_exists.mpr positive)).mp (falls.pos part)

/-- Scaling keeps the share of a candidate. -/
theorem share_of_place {place : Nat}
    (positive : ∃ candidate ∈ candidates, 0 < Weight.exact candidate)
    (listed : candidates[place]? = some reference) :
    (((Weight.parts candidates).take (place + 1)).sum -
        ((Weight.parts candidates).take place).sum) / (Weight.parts candidates).sum =
      Weight.exact reference / (candidates.map Weight.exact).sum := by
  have weight : (candidates.map Weight.exact)[place]? = some (Weight.exact reference) := by
    rw [List.getElem?_map, listed]
    rfl
  rcases List.getElem?_eq_some_iff.mp weight with ⟨within, weight⟩
  rw [Weight.parts, Weight.sum_take_scaled, Weight.sum_take_scaled, Weight.sum_scaled,
    List.sum_take_succ _ place within, weight, ← sub_div, add_sub_cancel_left]
  exact div_div_div_cancel_right₀ (greatest_pos_iff_exists.mpr positive).ne' _ _

/-! ## Main result -/

/-- Weighted choice by exact weights: which candidate a point chooses, and which points choose a
candidate. -/
structure FollowsShares (candidates : List Reference) : Prop where
  /-- A weight is one without a readable text, else the number that the text says, but at least zero,
  and zero for a number that is not finite. -/
  weighed : ∀ candidate ∈ candidates, Weight.exact candidate =
    match (candidate.tag? Weight.tagKey).bind Decimal.Literal.read? with
    | none => 1
    | some literal =>
      if literal.toFloat.isFinite then max (Weight.rational literal.toFloat) 0 else 0
  /-- Nothing is chosen just if no weight is positive. -/
  declines_iff : ∀ draw generator message,
    ((weighted generator).selectBy (.exact draw) message candidates).1 = none ↔
      ∀ candidate ∈ candidates, ¬ 0 < Weight.exact candidate
  /-- Whatever is drawn, no candidate without weight is chosen. -/
  spares : ∀ draw generator message reference,
    ((weighted generator).selectBy (.exact draw) message candidates).1 = some reference →
      reference ∈ candidates ∧ 0 < Weight.exact reference
  /-- A point below the sum of the parts falls into one of them, and chooses its candidate, whose
  weight is positive; the walk never runs past the last part. -/
  chooses : ∀ draw generator message,
    (∃ candidate ∈ candidates, 0 < Weight.exact candidate) →
    let point := draw (Weight.total (Weight.parts candidates))
    0 ≤ point → point < Weight.total (Weight.parts candidates) →
      ∃ place candidate, candidates[place]? = some candidate ∧ 0 < Weight.exact candidate ∧
        (∀ other, Weight.Falls (Weight.parts candidates) point other ↔ other = place) ∧
        ((weighted generator).selectBy (.exact draw) message candidates).1 = some candidate ∧
        Weight.walkInside point (candidates.zip (Weight.parts candidates)) = some candidate
  /-- The points that choose the candidate at a place are those of an interval, whose share of all is
  that of the candidate's weight. -/
  shares : (∃ candidate ∈ candidates, 0 < Weight.exact candidate) →
    ∀ place candidate, candidates[place]? = some candidate →
      let first := ((Weight.parts candidates).take place).sum
      let last := ((Weight.parts candidates).take (place + 1)).sum
      {point | 0 ≤ point ∧ point < Weight.total (Weight.parts candidates) ∧
          Weight.placeOf? (Weight.parts candidates) point = some place} = Set.Ico first last ∧
        (last - first) / Weight.total (Weight.parts candidates) =
          Weight.exact candidate / (candidates.map Weight.exact).sum

/-- Choice by exact weights follows the shares of the candidates. -/
theorem weighted_follows_shares (candidates : List Reference) : FollowsShares candidates := by
  constructor
  case weighed => exact fun candidate _ => Weight.exact_eq candidate
  case declines_iff =>
    intro draw generator message
    exact takeWeighted_exact_eq_none_iff
  case spares =>
    intro draw generator message reference chosen
    rcases mem_of_takeWeighted chosen with ⟨listed, most, positive, filled⟩
    exact ⟨listed, (div_pos_iff_of_pos_right positive).mp filled⟩
  case chooses =>
    intro draw generator message positive point least below
    rw [Weight.total_eq_sum] at below
    rcases Weight.exists_falls least below with ⟨place, falls⟩
    have within : place < candidates.length := length_parts candidates ▸ falls.lt_length
    have listed : candidates[place]? = some candidates[place] := List.getElem?_eq_getElem within
    have nonneg := parts_nonneg positive
    refine ⟨place, candidates[place], listed, pos_of_falls positive falls listed, ?_, ?_, ?_⟩
    · intro other
      constructor
      · exact fun also => Weight.Falls.unique nonneg also falls
      · rintro rfl
        exact falls
    · exact (takeWeighted_of_falls positive falls).trans listed
    · exact (Weight.walkInside_of_falls nonneg (length_parts candidates).symm falls).trans listed
  case shares =>
    intro positive place candidate listed
    rw [Weight.total_eq_sum]
    exact ⟨Weight.points_of_place (parts_nonneg positive) place, share_of_place positive listed⟩

end

/-- An instance whose weight is written as some text. -/
def withWeight (text : String) : Reference :=
  ⟨text, ⟨"127.0.0.1", 4801⟩, "shop", "find", .requestResponse,
    Dict.empty.insert Weight.tagKey text⟩

example :
    ((weighted (.ofSeed 7)).selectBy (.exact (· / 2)) (.carrying "shop/find" .empty)
        (["0", "1", "heavy", "-3", "inf"].map withWeight)).1 = some (withWeight "heavy") := by
  decide +kernel

end Router

end ServiceMesh
