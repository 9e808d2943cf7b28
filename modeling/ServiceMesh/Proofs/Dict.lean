import ServiceMesh.Dict
import Mathlib.Data.List.Induction

/-!
# Look-ups in finite maps

A finite map is known by its look-ups (`Dict.ext_get?`).  Writing the entries of a map over another
one changes the look-ups under its keys and no others (`get?_insertMany`, `get?_override`), and a
list of pairs that is in order already is the list of entries of its map (`entries_ofList`).  The
keys of a map are those that have a value, each once (`mem_keys_iff`, `nodup_keys`).
-/

namespace ServiceMesh.Dict

universe u v

variable {α : Type u}

/-- Keys increase strictly along a list of pairs. -/
def Ordered (pairs : List (String × α)) : Prop :=
  pairs.Pairwise (fun earlier later => earlier.1 < later.1)

theorem lookup_eq_none_of_lt {key : String} {pairs : List (String × α)}
    (below : ∀ pair ∈ pairs, key < pair.1) : pairs.lookup key = none := by
  rw [List.lookup_eq_none_iff]
  intro pair member
  simpa using String.ne_of_lt (below pair member)

theorem Ordered.lookup_of_mem {pairs : List (String × α)} (sorted : Ordered pairs)
    {pair : String × α} (member : pair ∈ pairs) : pairs.lookup pair.1 = some pair.2 := by
  induction pairs with
  | nil => cases member
  | cons first pairs induction =>
      have least := List.pairwise_cons.mp sorted
      rcases List.mem_cons.mp member with rfl | later
      · exact List.lookup_cons_self
      · have apart := String.ne_of_lt (least.1 pair later)
        rw [List.lookup_cons, beq_false_of_ne apart.symm]
        exact induction least.2 later

/-- Lists in order that look up alike are the same list. -/
theorem Ordered.ext {first second : List (String × α)} (sorted : Ordered first)
    (also : Ordered second) (alike : ∀ key, first.lookup key = second.lookup key) :
    first = second := by
  induction first generalizing second with
  | nil =>
      cases second with
      | nil => rfl
      | cons pair second =>
          have found := alike pair.1
          rw [List.lookup_nil, List.lookup_cons_self] at found
          cases found
  | cons pair first induction =>
      cases second with
      | nil =>
          have found := alike pair.1
          rw [List.lookup_nil, List.lookup_cons_self] at found
          cases found
      | cons other second =>
          have least := List.pairwise_cons.mp sorted
          have lesser := List.pairwise_cons.mp also
          rcases pair with ⟨key, value⟩
          rcases other with ⟨head, stored⟩
          -- Neither head can lie below the other, as its own look-up would then fail there.
          have same : key = head := by
            apply String.le_antisymm
            · intro after
              have found := alike head
              rw [List.lookup_cons_self, List.lookup_cons, beq_false_of_ne (String.ne_of_lt after),
                lookup_eq_none_of_lt fun pair member =>
                  String.lt_trans after (least.1 pair member)] at found
              cases found
            · intro before
              have found := alike key
              rw [List.lookup_cons_self, List.lookup_cons, beq_false_of_ne (String.ne_of_lt before),
                lookup_eq_none_of_lt fun pair member =>
                  String.lt_trans before (lesser.1 pair member)] at found
              cases found
          subst same
          have value_eq := alike key
          rw [List.lookup_cons_self, List.lookup_cons_self, Option.some.injEq] at value_eq
          rw [value_eq, induction least.2 lesser.2]
          intro other
          by_cases equal : other = key
          · subst equal
            rw [lookup_eq_none_of_lt least.1, lookup_eq_none_of_lt lesser.1]
          · have found := alike other
            rw [List.lookup_cons, List.lookup_cons, beq_false_of_ne equal] at found
            exact found

@[ext]
theorem ext_get? {first second : Dict α} (alike : ∀ key, first.get? key = second.get? key) :
    first = second := by
  rcases first with ⟨entries, sorted⟩
  rcases second with ⟨others, also⟩
  have same : entries = others := Ordered.ext sorted also alike
  subst same
  rfl

theorem get?_of_mem {dict : Dict α} {pair : String × α} (member : pair ∈ dict.entries) :
    dict.get? pair.1 = some pair.2 :=
  Ordered.lookup_of_mem dict.ordered member

/-- Of a list with several pairs under one key the last one counts. -/
theorem get?_insertMany (dict : Dict α) (pairs : List (String × α)) (key : String) :
    (dict.insertMany pairs).get? key = (pairs.reverse.lookup key).or (dict.get? key) := by
  induction pairs using List.reverseRecOn with
  | nil => simp [insertMany]
  | append_singleton pairs pair induction =>
      rw [insertMany, List.foldl_append, List.foldl_cons, List.foldl_nil, get?_insert,
        List.reverse_append, List.reverse_singleton, List.singleton_append, List.lookup_cons]
      by_cases same : key = pair.1
      · simp [same]
      · rw [if_neg same, beq_false_of_ne same]
        exact induction

theorem lookup_reverse {pairs : List (String × α)} (sorted : Ordered pairs) (key : String) :
    pairs.reverse.lookup key = pairs.lookup key := by
  induction pairs with
  | nil => rfl
  | cons pair pairs induction =>
      have least := List.pairwise_cons.mp sorted
      rcases pair with ⟨head, value⟩
      rw [List.reverse_cons, List.lookup_append, induction least.2]
      by_cases same : key = head
      · subst same
        rw [lookup_eq_none_of_lt least.1, Option.none_or, List.lookup_cons_self,
          List.lookup_cons_self]
      · rw [List.lookup_cons, List.lookup_cons, beq_false_of_ne same, List.lookup_nil,
          Option.or_none]

/-- A list in order is the list of entries of its map. -/
theorem entries_ofList {pairs : List (String × α)} (sorted : Ordered pairs) :
    (ofList pairs).entries = pairs := by
  refine Ordered.ext (ofList pairs).ordered sorted fun key => ?_
  have found := get?_insertMany empty pairs key
  rw [lookup_reverse sorted, get?_empty, Option.or_none] at found
  exact found

theorem ofList_entries (dict : Dict α) : ofList dict.entries = dict := by
  rcases dict with ⟨entries, sorted⟩
  have same := entries_ofList sorted
  cases made : ofList entries
  rw [made] at same
  subst same
  rfl

theorem isEmpty_iff {dict : Dict α} : dict.isEmpty = true ↔ dict = empty := by
  constructor
  · intro none_
    apply ext_get?
    intro key
    rw [get?, List.isEmpty_iff.mp none_]
    rfl
  · rintro rfl
    rfl

/-- Writes under different keys may be exchanged. -/
theorem insert_comm (dict : Dict α) {key other : String} (apart : key ≠ other) (value later : α) :
    (dict.insert key value).insert other later = (dict.insert other later).insert key value := by
  apply ext_get?
  intro asked
  simp only [get?_insert]
  split_ifs with second first
  · exact absurd (first.symm.trans second) apart
  · rfl
  · rfl
  · rfl

/-- The entries of a map may be written in any order. -/
theorem ofList_of_perm {dict : Dict α} {pairs : List (String × α)}
    (perm : pairs.Perm dict.entries) : ofList pairs = dict := by
  rw [← ofList_entries dict, ofList, ofList, insertMany, insertMany]
  apply perm.foldl_eq'
  intro first member second also written
  by_cases same : first.1 = second.1
  · have value := get?_of_mem (perm.mem_iff.mp member)
    rw [same, get?_of_mem (perm.mem_iff.mp also), Option.some.injEq] at value
    rw [same, value]
  · exact insert_comm written same first.2 second.2

/-- The overriding map counts where it has a value. -/
theorem get?_override (dict overriding : Dict α) (key : String) :
    (dict.override overriding).get? key = (overriding.get? key).or (dict.get? key) := by
  rw [override, get?_insertMany, lookup_reverse overriding.ordered]
  rfl

/-- What overrides nothing stays as it is. -/
@[simp]
theorem empty_override (overriding : Dict α) : empty.override overriding = overriding :=
  ofList_entries overriding

theorem get?_map {β : Type v} (rewriteValue : α → β) (dict : Dict α) (key : String) :
    (dict.map rewriteValue).get? key = (dict.get? key).map rewriteValue := by
  rcases dict with ⟨entries, sorted⟩
  show (entries.map fun entry => (entry.1, rewriteValue entry.2)).lookup key =
    (entries.lookup key).map rewriteValue
  induction entries with
  | nil => rfl
  | cons entry entries induction =>
      rw [List.map_cons, List.lookup_cons, List.lookup_cons,
        induction (List.pairwise_cons.mp sorted).2]
      cases key == entry.1 <;> rfl

/-- The map with the entry of one key only. -/
def only (dict : Dict α) (key : String) : Dict α :=
  ⟨dict.entries.filter (fun entry => entry.1 == key), dict.ordered.filter _⟩

theorem get?_only (dict : Dict α) (key other : String) :
    (dict.only key).get? other = if other = key then dict.get? key else none := by
  rcases dict with ⟨entries, sorted⟩
  show (entries.filter fun entry => entry.1 == key).lookup other =
    if other = key then entries.lookup key else none
  induction entries with
  | nil => simp
  | cons entry entries induction =>
      have rest := induction (List.pairwise_cons.mp sorted).2
      rcases entry with ⟨head, value⟩
      by_cases kept : head = key
      · subst kept
        rw [List.filter_cons_of_pos (by simp), List.lookup_cons, List.lookup_cons_self, rest]
        by_cases same : other = head
        · simp [same]
        · simp [same, beq_false_of_ne same]
      · rw [List.filter_cons_of_neg (by simpa using kept), rest, List.lookup_cons,
          beq_false_of_ne (Ne.symm kept)]

theorem mem_keys_iff {dict : Dict α} {key : String} : key ∈ dict.keys ↔ dict.get? key ≠ none := by
  rw [keys, List.mem_map, get?, ne_eq, List.lookup_eq_none_iff]
  push Not
  constructor
  · rintro ⟨pair, member, rfl⟩
    exact ⟨pair, member, by simp⟩
  · rintro ⟨pair, member, same⟩
    have named : key = pair.1 := by simpa using same
    exact ⟨pair, member, named.symm⟩

theorem nodup_keys (dict : Dict α) : dict.keys.Nodup :=
  List.pairwise_map.mpr (dict.ordered.imp fun before => String.ne_of_lt before)

end ServiceMesh.Dict
