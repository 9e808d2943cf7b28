import ServiceMesh.Proofs.Routing.Turns

/-!
# Routing by tags

A router by tags requires the tags that it was given and those that the headers of the message name,
the message overriding the router (`get?_requiredTags`).  It keeps the candidates with these tags, in
their order, and asks its inner router (`select_tagged`).  So a nest of such routers leaves to the
innermost one the candidates that have the tags of all levels (`select_nest`).
-/

namespace ServiceMesh

/-! ## Required tags -/

namespace Dict

universe u

variable {α : Type u}

theorem mem_entries_of_get? {dict : Dict α} {key : String} {value : α}
    (found : dict.get? key = some value) : (key, value) ∈ dict.entries := by
  rw [get?, List.lookup_eq_some_iff] at found
  rcases found with ⟨before, after, split, -⟩
  rw [split]
  simp

/-- A look-up among the entries whose keys a rule renames, where the rule never gives one name to two
keys. -/
theorem lookup_filterMap_rename {rename : String → Option String} {key origin : String}
    (renames : ∀ old, rename old = some key ↔ old = origin) (pairs : List (String × α)) :
    (pairs.filterMap fun pair => (rename pair.1).map fun new => (new, pair.2)).lookup key =
      pairs.lookup origin := by
  induction pairs with
  | nil => rfl
  | cons pair pairs induction =>
      by_cases own : pair.1 = origin
      · have renamed : rename pair.1 = some key := (renames _).mpr own
        rw [List.filterMap_cons_some (by rw [renamed]; rfl), List.lookup_cons_self, ← own,
          List.lookup_cons_self]
      · rw [List.lookup_cons, beq_false_of_ne (Ne.symm own)]
        cases renamed : rename pair.1 with
        | none => rw [List.filterMap_cons_none (by rw [renamed]; rfl), induction]
        | some new =>
            have apart : key ≠ new := by
              rintro rfl
              exact own ((renames _).mp renamed)
            rw [List.filterMap_cons_some (by rw [renamed]; rfl), List.lookup_cons,
              beq_false_of_ne apart, induction]

end Dict

namespace Router

/-- The header key that requires a tag for one call. -/
def tagHeader (key : String) : String := "tag." ++ key

theorem tagOfHeader?_eq_some_iff {header key : String} :
    tagOfHeader? header = some key ↔ header = tagHeader key := by
  have letters : "tag.".toList = tagHeaderStart := by decide
  rw [tagOfHeader?, tagHeader, ← String.toList_inj, String.toList_append, letters]
  constructor
  · intro named
    split at named
    · next starts =>
        rcases List.isPrefixOf_iff_prefix.mp starts with ⟨rest, split⟩
        rw [Option.some.injEq, ← split, List.drop_left] at named
        rw [← split, ← named, String.toList_ofList]
    · cases named
  · intro split
    rw [split, if_pos (List.isPrefixOf_iff_prefix.mpr (List.prefix_append _ _)), List.drop_left,
      String.ofList_toList]

/-- A tag is required with the value that the message names, else with that of the router. -/
theorem get?_requiredTags (tags : Dict String) (message : Message) (key : String) :
    (requiredTags tags message).get? key =
      (message.headers.get? (tagHeader key)).or (tags.get? key) := by
  rw [requiredTags, Dict.get?_insertMany, ← List.filterMap_reverse,
    Dict.lookup_filterMap_rename (fun _ => tagOfHeader?_eq_some_iff),
    Dict.lookup_reverse message.headers.ordered]
  rfl

/-- A reference has every tag that a router and a message require. -/
def Satisfies (tags : Dict String) (message : Message) (reference : Reference) : Prop :=
  ∀ key value, (message.headers.get? (tagHeader key)).or (tags.get? key) = some value →
    reference.tag? key = some value

theorem hasTags_iff {tags : Dict String} {message : Message} {reference : Reference} :
    hasTags (requiredTags tags message) reference = true ↔ Satisfies tags message reference := by
  rw [hasTags, List.all_eq_true]
  constructor
  · intro has key value required
    rw [← get?_requiredTags] at required
    simpa using has _ (Dict.mem_entries_of_get? required)
  · intro satisfies tag member
    simpa using satisfies _ _ ((get?_requiredTags _ _ _).symm.trans (Dict.get?_of_mem member))

instance (tags : Dict String) (message : Message) (reference : Reference) :
    Decidable (Satisfies tags message reference) :=
  decidable_of_iff _ hasTags_iff

theorem mem_matching_iff {tags : Dict String} {message : Message} {candidates : List Reference}
    {reference : Reference} :
    reference ∈ matching tags message candidates ↔
      reference ∈ candidates ∧ Satisfies tags message reference := by
  rw [matching, List.mem_filter, hasTags_iff]

theorem matching_eq (tags : Dict String) (message : Message) (candidates : List Reference) :
    matching tags message candidates =
      candidates.filter fun reference => Satisfies tags message reference :=
  List.filter_congr fun _ _ => Bool.eq_iff_iff.mpr (hasTags_iff.trans decide_eq_true_iff.symm)

/-! ## Nests of routers -/

/-- A router by tags in a router by tags, and so on, the outermost first, around an innermost
router. -/
def nest (levels : List (Dict String)) (inner : Router) : Router := levels.foldr tagged inner

/-- The candidates that have the tags of all levels. -/
def accepted (levels : List (Dict String)) (message : Message) (candidates : List Reference) :
    List Reference :=
  candidates.filter fun reference => ∀ tags ∈ levels, Satisfies tags message reference

theorem mem_accepted_iff {levels : List (Dict String)} {message : Message}
    {candidates : List Reference} {reference : Reference} :
    reference ∈ accepted levels message candidates ↔
      reference ∈ candidates ∧ ∀ tags ∈ levels, Satisfies tags message reference := by
  rw [accepted, List.mem_filter, decide_eq_true_iff]

theorem accepted_cons (tags : Dict String) (levels : List (Dict String)) (message : Message)
    (candidates : List Reference) :
    accepted (tags :: levels) message candidates =
      accepted levels message (matching tags message candidates) := by
  rw [accepted, accepted, matching_eq, List.filter_filter]
  refine List.filter_congr fun reference _ => ?_
  rw [Bool.and_comm, ← Bool.decide_and]
  exact decide_eq_decide.mpr List.forall_mem_cons

theorem select_tagged (tags : Dict String) (inner : Router) (message : Message)
    (candidates : List Reference) :
    (tagged tags inner).select message candidates =
      ((inner.select message (matching tags message candidates)).1,
        tagged tags (inner.select message (matching tags message candidates)).2) :=
  rfl

/-- The innermost router chooses from the candidates that have the tags of all levels. -/
theorem select_nest (levels : List (Dict String)) (inner : Router) (message : Message)
    (candidates : List Reference) :
    (nest levels inner).select message candidates =
      ((inner.select message (accepted levels message candidates)).1,
        nest levels (inner.select message (accepted levels message candidates)).2) := by
  induction levels generalizing candidates with
  | nil =>
      have all : accepted [] message candidates = candidates := by simp [accepted]
      rw [all]
      rfl
  | cons tags levels induction =>
      rw [accepted_cons]
      exact (select_tagged tags (nest levels inner) message candidates).trans
        (congrArg (fun step => (step.1, tagged tags step.2)) (induction _))

theorem turn_eq (counters : Dict UInt64) (message : Message) (candidates : List Reference) :
    ((roundRobin counters).select message candidates).1 =
      candidates[(count counters message.qualifier).toNat % candidates.length]? := by
  rcases exists_select_roundRobin counters ⟨message, candidates⟩ with ⟨after, chosen, -⟩
  exact congrArg Prod.fst chosen

theorem turn_eq_none_iff {counters : Dict UInt64} {message : Message}
    {candidates : List Reference} :
    ((roundRobin counters).select message candidates).1 = none ↔ candidates = [] := by
  rw [turn_eq, List.getElem?_eq_none_iff]
  constructor
  · intro beyond
    by_contra filled
    exact absurd (Nat.mod_lt _ (List.length_pos_iff.mpr filled)) (Nat.not_lt.mpr beyond)
  · rintro rfl
    exact Nat.zero_le _

/-! ## Main result -/

/-- The choices that a nest of routers by tags leaves to its innermost router, and makes if that one
takes turns. -/
structure KeepsTags (levels : List (Dict String)) (message : Message)
    (candidates : List Reference) : Prop where
  /-- Whatever the innermost router is, it chooses from the candidates that have the tags of all
  levels, in their order, and nothing else of the nest changes. -/
  seen : ∀ inner : Router, (nest levels inner).select message candidates =
    ((inner.select message (accepted levels message candidates)).1,
      nest levels (inner.select message (accepted levels message candidates)).2)
  /-- Nothing is chosen just if no candidate has the tags of all levels. -/
  declines_iff : ∀ counters,
    ((nest levels (roundRobin counters)).select message candidates).1 = none ↔
      ∀ reference ∈ candidates, ¬ ∀ tags ∈ levels, Satisfies tags message reference
  /-- What is chosen is a candidate that has the tags of all levels. -/
  chosen : ∀ counters reference,
    ((nest levels (roundRobin counters)).select message candidates).1 = some reference →
      reference ∈ candidates ∧ ∀ tags ∈ levels, Satisfies tags message reference

/-- A nest of routers by tags keeps to the tags of all its levels. -/
theorem nest_keeps_tags (levels : List (Dict String)) (message : Message)
    (candidates : List Reference) : KeepsTags levels message candidates := by
  constructor
  case seen => exact fun inner => select_nest levels inner message candidates
  case declines_iff =>
    intro counters
    rw [select_nest, turn_eq_none_iff, List.eq_nil_iff_forall_not_mem]
    simp only [mem_accepted_iff, not_and]
  case chosen =>
    intro counters reference chosen
    rw [select_nest, turn_eq] at chosen
    exact mem_accepted_iff.mp (List.mem_of_getElem? chosen)

end Router

end ServiceMesh
