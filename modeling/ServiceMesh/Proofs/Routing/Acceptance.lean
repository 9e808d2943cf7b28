import ServiceMesh.Proofs.Routing.Classes
import ServiceMesh.Proofs.Routing.Shares

/-!
# Listed and chosen references

A router lists the references that are acceptable for a message, and chooses one of them.  What it can
choose in some state are the references that all its levels accept (`canChoose_iff`), and it lists
those.  But the list is that of the outermost level alone, so it is exact just if the other levels
accept whatever is listed (`routes_exact_iff`); a tag that an inner router requires, or a weight that
is not positive, is one that they do not accept (`innerTags_listed`).
-/

namespace ServiceMesh

open Router

/-! ## Weights that are not positive -/

theorem Weight.ofReference_eq_zero {reference : Reference}
    (weightless : ¬ 0 < Weight.exact reference) : Weight.ofReference reference = 0 := by
  rw [Weight.exact, Weight.ofReference, Weight.ofText] at weightless
  rw [Weight.ofReference, Weight.ofText]
  cases read : (reference.tag? Weight.tagKey).bind Decimal.Literal.read? with
  | none =>
      rw [read] at weightless
      exact absurd (Weight.rational_one ▸ one_pos) weightless
  | some literal =>
      rw [read] at weightless
      simp only [] at weightless ⊢
      split
      · next positive =>
          rw [if_pos positive] at weightless
          rw [Bool.and_eq_true, decide_eq_true_iff] at positive
          exact absurd ((Weight.pos_iff_rational_pos positive.1).mp positive.2) weightless
      · rfl

namespace Weighing

universe u

variable {κ : Type u} [OfNat κ 0] [LT κ] [Div κ]

/-- No candidate without weight gets a part. -/
def Honest (weighing : Weighing κ) : Prop :=
  ∀ reference most, 0 < most → 0 < weighing.weigh reference / most → 0 < Weight.exact reference

theorem honest_double : double.Honest := by
  intro reference most _ filled
  by_contra weightless
  have empty : double.weigh reference = 0 := Weight.ofReference_eq_zero weightless
  rw [empty] at filled
  exact Weight.not_pos_zero_div most filled

theorem honest_exact (draw : ℚ → ℚ) : (exact draw).Honest :=
  fun _ _ positive filled => (div_pos_iff_of_pos_right positive).mp filled

end Weighing

namespace Router

/-! ## States of a router -/

/-- A router that takes turns or goes by weights, or is one by tags around such a router. -/
inductive Stacked : Router → Prop
  | roundRobin (counters : Dict UInt64) : Stacked (roundRobin counters)
  | weighted (generator : Random.Generator) : Stacked (weighted generator)
  | tagged (tags : Dict String) {inner : Router} : Stacked inner → Stacked (tagged tags inner)

/-- The states of a router: its strategies and tags stay, its counters and generators may differ. -/
inductive StateOf : Router → Router → Prop
  | roundRobin (counters other : Dict UInt64) : StateOf (roundRobin counters) (roundRobin other)
  | weighted (generator other : Random.Generator) : StateOf (weighted generator) (weighted other)
  | tagged (tags : Dict String) {inner other : Router} :
      StateOf inner other → StateOf (tagged tags inner) (tagged tags other)

/-- No level of a router goes by weights. -/
def Weightless : Router → Prop
  | roundRobin _ => True
  | random _ => True
  | weighted _ => False
  | tagged _ inner => inner.Weightless

/-- All levels of a router accept a reference for a message. -/
def Accepts : Router → Message → Reference → Prop
  | roundRobin _, _, _ => True
  | random _, _, _ => True
  | weighted _, _, reference => 0 < Weight.exact reference
  | tagged tags inner, message, reference =>
    Satisfies tags message reference ∧ inner.Accepts message reference

/-- A rule draws from zero up to below every positive limit. -/
def Draws (draw : ℚ → ℚ) : Prop := ∀ limit, 0 < limit → 0 ≤ draw limit ∧ draw limit < limit

/-- The rule that draws some point below one limit, and zero below every other. -/
def pointing (whole point limit : ℚ) : ℚ := if limit = whole then point else 0

/-- A router chooses a reference in some state, with exact weights and some draw. -/
def CanChoose (router : Router) (registry : Registry) (message : Message)
    (reference : Reference) : Prop :=
  ∃ state draw, router.StateOf state ∧ Draws draw ∧
    (state.selectBy (.exact draw) message (registry.lookup message.qualifier)).1 = some reference

variable {router state : Router} {registry : Registry} {message : Message}
  {candidates : List Reference} {reference : Reference}

/-! ## What can be chosen -/

/-- Whatever the numbers are, what is chosen is a candidate that all levels accept. -/
theorem StateOf.chosen_accepted {κ : Type} [OfNat κ 0] [LT κ] [DecidableLT κ] [Add κ] [Sub κ]
    [Div κ] {weighing : Weighing κ} (honest : weighing.Honest) (stateOf : router.StateOf state)
    (chosen : (state.selectBy weighing message candidates).1 = some reference) :
    reference ∈ candidates ∧ router.Accepts message reference := by
  induction stateOf generalizing candidates with
  | roundRobin counters other =>
      have turn := (turn_eq other message candidates).symm.trans chosen
      exact ⟨List.mem_of_getElem? turn, trivial⟩
  | weighted generator other =>
      rcases mem_of_takeWeighted chosen with ⟨listed, most, positive, filled⟩
      exact ⟨listed, honest reference most positive filled⟩
  | tagged tags stateOf induction =>
      rcases induction chosen with ⟨kept, accepted⟩
      rcases mem_matching_iff.mp kept with ⟨listed, satisfies⟩
      exact ⟨listed, satisfies, accepted⟩

/-- A counter of 64 bits reaches every one of at most `2 ^ 64` candidates. -/
theorem exists_turn (few : candidates.length ≤ 2 ^ 64) (listed : reference ∈ candidates)
    (message : Message) :
    ∃ counters, ((roundRobin counters).select message candidates).1 = some reference := by
  rcases List.mem_iff_getElem.mp listed with ⟨place, within, rfl⟩
  refine ⟨Dict.empty.insert message.qualifier (UInt64.ofNat place), ?_⟩
  have stands : (count (Dict.empty.insert message.qualifier (UInt64.ofNat place))
      message.qualifier).toNat = place := by
    rw [count_insert, if_pos rfl, UInt64.toNat_ofNat']
    exact Nat.mod_eq_of_lt (by omega)
  rw [turn_eq, stands, Nat.mod_eq_of_lt within]
  exact List.getElem?_eq_getElem within

theorem draws_pointing {whole point : ℚ} (least : 0 ≤ point) (below : point < whole) :
    Draws (pointing whole point) := by
  intro limit above
  rw [pointing]
  split
  · next own => exact ⟨least, own ▸ below⟩
  · exact ⟨le_rfl, above⟩

/-- The point where the part of a candidate with weight begins chooses it. -/
theorem exists_draw (listed : reference ∈ candidates) (weighty : 0 < Weight.exact reference)
    (generator : Random.Generator) :
    ∃ draw, Draws draw ∧
      (takeWeighted (.exact draw) generator candidates).1 = some reference := by
  have positive : ∃ candidate ∈ candidates, 0 < Weight.exact candidate :=
    ⟨reference, listed, weighty⟩
  have nonneg := parts_nonneg positive
  rcases List.mem_iff_getElem?.mp listed with ⟨place, placed⟩
  have part := getElem?_parts candidates place
  rw [placed, Option.map_some] at part
  have falls := Weight.falls_first part (div_pos weighty (greatest_pos_iff_exists.mpr positive))
  have below := falls.2.trans_le (Weight.take_sum_le nonneg (place + 1))
  rw [← Weight.total_eq_sum (Weight.parts candidates)] at below
  refine ⟨pointing _ _, draws_pointing (Weight.take_sum_nonneg nonneg place) below, ?_⟩
  rw [takeWeighted_of_falls positive (by rwa [pointing, if_pos rfl]), placed]

/-- A candidate that all levels accept is chosen in some state by some draw. -/
theorem Stacked.exists_choice (stacked : router.Stacked) (few : candidates.length ≤ 2 ^ 64)
    (listed : reference ∈ candidates) (accepted : router.Accepts message reference) :
    ∃ state draw, router.StateOf state ∧ Draws draw ∧
      (state.selectBy (.exact draw) message candidates).1 = some reference := by
  induction stacked generalizing candidates with
  | roundRobin counters =>
      rcases exists_turn few listed message with ⟨other, chosen⟩
      exact ⟨_, fun _ => 0, .roundRobin counters other, fun _ above => ⟨le_rfl, above⟩, chosen⟩
  | weighted generator =>
      rcases exists_draw listed accepted generator with ⟨draw, draws, chosen⟩
      exact ⟨_, draw, .weighted generator generator, draws, chosen⟩
  | tagged tags stacked induction =>
      have kept := mem_matching_iff.mpr ⟨listed, accepted.1⟩
      have fewer : (matching tags message candidates).length ≤ 2 ^ 64 :=
        (List.length_filter_le _ _).trans few
      rcases induction fewer kept accepted.2 with ⟨state, draw, stateOf, draws, chosen⟩
      exact ⟨_, draw, .tagged tags stateOf, draws, chosen⟩

/-- What a router can choose are the references that all its levels accept. -/
theorem Stacked.canChoose_iff (stacked : router.Stacked)
    (few : (registry.lookup message.qualifier).length ≤ 2 ^ 64) :
    router.CanChoose registry message reference ↔
      reference ∈ registry.lookup message.qualifier ∧ router.Accepts message reference := by
  constructor
  · rintro ⟨state, draw, stateOf, -, chosen⟩
    exact stateOf.chosen_accepted (Weighing.honest_exact draw) chosen
  · rintro ⟨listed, accepted⟩
    exact stacked.exists_choice few listed accepted

/-- Without weights the numbers do not matter. -/
theorem Weightless.selectBy_eq {κ : Type} [OfNat κ 0] [LT κ] [DecidableLT κ] [Add κ] [Sub κ]
    [Div κ] (weighing : Weighing κ) (weightless : state.Weightless) :
    state.selectBy weighing message candidates = state.select message candidates := by
  induction state generalizing candidates with
  | roundRobin counters => rfl
  | random generator => rfl
  | weighted generator => exact weightless.elim
  | tagged tags inner induction =>
      exact congrArg (fun step => (step.1, Router.tagged tags step.2)) (induction weightless)

theorem StateOf.weightless (stateOf : router.StateOf state) (weightless : router.Weightless) :
    state.Weightless := by
  induction stateOf with
  | roundRobin counters other => trivial
  | weighted generator other => exact weightless
  | tagged tags stateOf induction => exact induction weightless

/-! ## What is listed -/

theorem mem_lookup_of_mem_routes (listed : reference ∈ router.routes registry message) :
    reference ∈ registry.lookup message.qualifier := by
  cases router with
  | tagged tags inner => exact (mem_matching_iff.mp listed).1
  | _ => exact listed

theorem mem_routes_of_accepts (known : reference ∈ registry.lookup message.qualifier)
    (accepted : router.Accepts message reference) :
    reference ∈ router.routes registry message := by
  cases router with
  | tagged tags inner => exact mem_matching_iff.mpr ⟨known, accepted.1⟩
  | _ => exact known

/-! ## Main result -/

/-- The references that a router lists for a message, against those that it can choose. -/
structure ListsChoices (router : Router) (registry : Registry) (message : Message) : Prop where
  /-- What is chosen in any state is listed, and all levels accept it. -/
  chosen_listed : ∀ state, router.StateOf state → ∀ reference,
    (state.route registry message).1 = some reference →
      reference ∈ router.routes registry message ∧ router.Accepts message reference
  /-- With exact weights, what can be chosen in some state is listed too. -/
  canChoose_listed : ∀ reference, router.CanChoose registry message reference →
    reference ∈ router.routes registry message
  /-- Every listed reference can be chosen in some state just if all levels accept all of them. -/
  exact_iff : (∀ reference ∈ router.routes registry message,
      router.CanChoose registry message reference) ↔
    ∀ reference ∈ router.routes registry message, router.Accepts message reference
  /-- Where no level goes by weights, what can be chosen is what the router itself chooses in some
  state. -/
  weightless : router.Weightless → ∀ reference,
    router.CanChoose registry message reference ↔
      ∃ state, router.StateOf state ∧ (state.route registry message).1 = some reference

/-- A router lists whatever it can choose, and nothing else just if all its levels accept what the
outermost one lists. -/
theorem routes_exact_iff (stacked : router.Stacked)
    (few : (registry.lookup message.qualifier).length ≤ 2 ^ 64) :
    ListsChoices router registry message := by
  constructor
  case chosen_listed =>
    intro state stateOf reference chosen
    rcases stateOf.chosen_accepted Weighing.honest_double chosen with ⟨known, accepted⟩
    exact ⟨mem_routes_of_accepts known accepted, accepted⟩
  case canChoose_listed =>
    intro reference canChoose
    rcases (stacked.canChoose_iff few).mp canChoose with ⟨known, accepted⟩
    exact mem_routes_of_accepts known accepted
  case exact_iff =>
    constructor
    · intro exact_ reference listed
      exact ((stacked.canChoose_iff few).mp (exact_ reference listed)).2
    · intro accepted reference listed
      exact (stacked.canChoose_iff few).mpr
        ⟨mem_lookup_of_mem_routes listed, accepted reference listed⟩
  case weightless =>
    intro weightless reference
    constructor
    · rintro ⟨state, draw, stateOf, -, chosen⟩
      rw [(stateOf.weightless weightless).selectBy_eq] at chosen
      exact ⟨state, stateOf, chosen⟩
    · rintro ⟨state, stateOf, chosen⟩
      refine ⟨state, fun _ => 0, stateOf, fun _ above => ⟨le_rfl, above⟩, ?_⟩
      rw [(stateOf.weightless weightless).selectBy_eq]
      exact chosen

/-- A router that requires no tag, around one that requires a region. -/
def inEurope (innermost : Router) : Router :=
  tagged Dict.empty (tagged (Dict.ofList [("region", "eu")]) innermost)

/-- Turns as well as weights may be inside. -/
theorem inEurope_lists_choices :
    (inEurope (weighted (.ofSeed 7))).Stacked ∧
      (regions.lookup (Message.carrying "Greeting/hello" .empty).qualifier).length ≤ 2 ^ 64 ∧
      ListsChoices (inEurope (weighted (.ofSeed 7))) regions
        (.carrying "Greeting/hello" .empty) := by
  have stacked : (inEurope (weighted (.ofSeed 7))).Stacked := .tagged _ (.tagged _ (.weighted _))
  exact ⟨stacked, by decide, routes_exact_iff stacked (by decide)⟩

/-- An endpoint that the inner router never takes is listed all the same. -/
theorem innerTags_listed :
    ¬ ∀ reference ∈ (inEurope standard).routes regions (.carrying "Greeting/hello" .empty),
      ∃ state, (inEurope standard).StateOf state ∧
        (state.route regions (.carrying "Greeting/hello" .empty)).1 = some reference := by
  intro exact_
  let foreign := (greeterIn "us" "us-a").reference (.of "Greeting") (.of "hello" .requestResponse)
  rcases exact_ foreign (by decide) with ⟨state, stateOf, chosen⟩
  have accepted := (stateOf.chosen_accepted Weighing.honest_double chosen).2
  -- The region that the inner router requires is not that of the endpoint.
  have required : (Dict.empty.get? (tagHeader "region")).or
      ((Dict.ofList [("region", "eu")]).get? "region") = some "eu" := by decide
  exact absurd (accepted.2.1 "region" "eu" required) (by decide)

end Router

end ServiceMesh
