/-!
# Tables

A table maps keys to values; writing a key replaces what stood under it.  The view of a table is
its look-up, which the lemmas below give for every operation.
-/

namespace ServiceMesh

universe u v

/-- Pairs of keys and values, each key once. -/
abbrev Table (κ : Type u) (α : Type v) := List (κ × α)

namespace Table

variable {κ : Type u} {α : Type v} [DecidableEq κ]

/-- The value under a key. -/
def find? (table : Table κ α) (key : κ) : Option α := List.lookup key table

/-- The table without a key. -/
def remove (table : Table κ α) (key : κ) : Table κ α :=
  table.filter (fun entry => decide (entry.1 ≠ key))

/-- The table with a value written under a key. -/
def put (table : Table κ α) (key : κ) (value : α) : Table κ α := (key, value) :: table.remove key

/-- The keys of a table. -/
def keys (table : Table κ α) : List κ := table.map Prod.fst

@[simp]
theorem find?_nil (key : κ) : find? ([] : Table κ α) key = none := rfl

@[simp]
theorem find?_remove (table : Table κ α) (key other : κ) :
    (table.remove key).find? other = if other = key then none else table.find? other := by
  induction table with
  | nil => simp [remove, find?]
  | cons entry rest step =>
    obtain ⟨head, value⟩ := entry
    simp only [remove, find?] at step ⊢
    by_cases sameHead : head = key
    · subst sameHead
      by_cases sameOther : other = head
      · simpa [sameOther] using step
      · simpa [sameOther, List.lookup_cons, beq_false_of_ne sameOther] using step
    · by_cases sameOther : other = head
      · subst sameOther
        simp [sameHead]
      · simpa [sameHead, List.lookup_cons, beq_false_of_ne sameOther] using step

@[simp]
theorem find?_put (table : Table κ α) (key other : κ) (value : α) :
    (table.put key value).find? other = if other = key then some value else table.find? other := by
  have removed := find?_remove table key other
  simp only [find?] at removed
  by_cases same : other = key
  · simp [put, find?, same]
  · simp [put, find?, List.lookup_cons, beq_false_of_ne same, removed, same]

end Table

end ServiceMesh
