/-!
# Finite maps with ordered keys

Headers, tags, dispatch tables and look-up indexes are finite maps from text.  A `Dict` keeps its
entries in strictly increasing key order, so the order in which entries were written leaves no
trace: two maps with the same look-ups are the same value.  Text is ordered by code point, which is
also the order of its UTF-8 bytes.
-/

namespace ServiceMesh

universe u v

/-- A finite map from text to `α`: pairs in strictly increasing key order. -/
structure Dict (α : Type u) where
  /-- The pairs, each key once. -/
  entries : List (String × α)
  /-- Keys strictly increase along the entries. -/
  ordered : entries.Pairwise (fun earlier later => earlier.1 < later.1)

namespace Dict

variable {α : Type u} {β : Type v}

instance [DecidableEq α] : DecidableEq (Dict α) := fun first second =>
  decidable_of_iff (first.entries = second.entries) (by
    cases first; cases second; simp)

/-- The map without entries. -/
def empty : Dict α := ⟨[], List.Pairwise.nil⟩

instance : Inhabited (Dict α) := ⟨empty⟩

instance : EmptyCollection (Dict α) := ⟨empty⟩

/-- Places one pair in an ordered list of pairs, replacing the pair of the same key. -/
def place (key : String) (value : α) : List (String × α) → List (String × α)
  | [] => [(key, value)]
  | entry :: rest =>
    if key < entry.1 then (key, value) :: entry :: rest
    else if entry.1 < key then entry :: place key value rest
    else (key, value) :: rest

theorem mem_place {key : String} {value : α} {entry : String × α} :
    ∀ {entries : List (String × α)},
      entry ∈ place key value entries → entry = (key, value) ∨ entry ∈ entries
  | [], member => by simpa [place] using member
  | head :: rest, member => by
    simp only [place] at member
    split at member
    · simpa using member
    · split at member
      · rcases List.mem_cons.1 member with rfl | inRest
        · simp
        · rcases mem_place inRest with same | old
          · exact Or.inl same
          · exact Or.inr (List.mem_cons_of_mem _ old)
      · rcases List.mem_cons.1 member with same | old
        · exact Or.inl same
        · exact Or.inr (List.mem_cons_of_mem _ old)

theorem place_ordered (key : String) (value : α) :
    ∀ {entries : List (String × α)},
      entries.Pairwise (fun earlier later => earlier.1 < later.1) →
        (place key value entries).Pairwise (fun earlier later => earlier.1 < later.1)
  | [], _ => by simp [place]
  | head :: rest, sorted => by
    have below := List.pairwise_cons.1 sorted
    simp only [place]
    split
    · rename_i before
      refine List.pairwise_cons.2 ⟨fun entry member => ?_, sorted⟩
      rcases List.mem_cons.1 member with rfl | inRest
      · exact before
      · exact String.lt_trans before (below.1 entry inRest)
    · split
      · rename_i after
        refine List.pairwise_cons.2 ⟨fun entry member => ?_, place_ordered key value below.2⟩
        rcases mem_place member with rfl | old
        · exact after
        · exact below.1 entry old
      · rename_i notBefore notAfter
        have same : head.1 = key :=
          String.le_antisymm (String.not_lt.1 notBefore) (String.not_lt.1 notAfter)
        refine List.pairwise_cons.2 ⟨fun entry member => ?_, below.2⟩
        exact same ▸ below.1 entry member

/-- The map with one entry written; the last value written under a key stays. -/
def insert (dict : Dict α) (key : String) (value : α) : Dict α :=
  ⟨place key value dict.entries, place_ordered key value dict.ordered⟩

/-- The value under a key. -/
def get? (dict : Dict α) (key : String) : Option α := dict.entries.lookup key

/-- Whether a key has a value. -/
def contains (dict : Dict α) (key : String) : Bool := (dict.get? key).isSome

/-- The map without one key. -/
def erase (dict : Dict α) (key : String) : Dict α :=
  ⟨dict.entries.filter (fun entry => entry.1 != key), dict.ordered.filter _⟩

/-- The keys, in order. -/
def keys (dict : Dict α) : List String := dict.entries.map Prod.fst

/-- The number of entries. -/
def size (dict : Dict α) : Nat := dict.entries.length

/-- Whether there is no entry. -/
def isEmpty (dict : Dict α) : Bool := dict.entries.isEmpty

/-- Writes pairs one after the other over a map. -/
def insertMany (dict : Dict α) (pairs : List (String × α)) : Dict α :=
  pairs.foldl (fun written pair => written.insert pair.1 pair.2) dict

/-- The map of a list of pairs; of two pairs with one key the later counts. -/
def ofList (pairs : List (String × α)) : Dict α := empty.insertMany pairs

/-- The first map overridden and extended by the second. -/
def override (dict overriding : Dict α) : Dict α := dict.insertMany overriding.entries

/-- An order for the entries of every map.  A map has none of its own; whoever writes it down chooses
one. -/
structure Arrangement (α : Type u) where
  /-- The entries of a map, in the order in which they are written down. -/
  list : Dict α → List (String × α)
  /-- Every entry is written down once, and nothing else is. -/
  perm : ∀ dict, (list dict).Perm dict.entries

/-- The entries by increasing key. -/
def Arrangement.byKey : Arrangement α := ⟨entries, fun _ => .refl _⟩

/-- The map with every value rewritten. -/
def map (rewriteValue : α → β) (dict : Dict α) : Dict β :=
  ⟨dict.entries.map (fun entry => (entry.1, rewriteValue entry.2)),
    List.pairwise_map.2 dict.ordered⟩

@[simp]
theorem get?_empty (key : String) : (empty : Dict α).get? key = none := rfl

theorem lookup_place (key other : String) (value : α) :
    ∀ entries : List (String × α),
      (place key value entries).lookup other =
        if other = key then some value else entries.lookup other
  | [] => by
    by_cases same : other = key
    · simp [place, same]
    · simp [place, List.lookup_cons, same, beq_false_of_ne same]
  | (head, stored) :: rest => by
    have step := lookup_place key other value rest
    simp only [place]
    split
    · by_cases same : other = key
      · simp [same]
      · simp [List.lookup_cons, same, beq_false_of_ne same]
    · split
      · rename_i after
        by_cases sameHead : other = head
        · subst sameHead
          simp [String.ne_of_lt after]
        · simp [List.lookup_cons, beq_false_of_ne sameHead, step]
      · rename_i notBefore notAfter
        have equal : head = key :=
          String.le_antisymm (String.not_lt.1 notBefore) (String.not_lt.1 notAfter)
        by_cases same : other = key
        · simp [same]
        · simp [List.lookup_cons, same, equal, beq_false_of_ne same]

/-- Reading after one write. -/
@[simp]
theorem get?_insert (dict : Dict α) (key other : String) (value : α) :
    (dict.insert key value).get? other = if other = key then some value else dict.get? other :=
  lookup_place key other value dict.entries

end Dict

end ServiceMesh
