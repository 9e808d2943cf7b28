import ServiceMesh.Binding

/-!
# Qualifiers and their parts

Joining is associative, so a slash in a qualifier may belong to the namespace or to the action.  A
split always takes the last slash: a qualifier with slashes is joined from parts of which the action
has none (`Qualifier.exists_join`), and those are the parts that a split gives
(`Qualifier.split_join_of_slashless`).

From this follow what a split makes of any two parts that were joined (`Qualifier.split_join`), what
a join makes of the parts of any text (`Qualifier.join_split`) and which parts share their qualifier
(`Qualifier.join_eq_join_iff`).  The main result says when parts and texts are restored, and that
actions without slashes let the qualifier tell methods apart
(`Qualifier.splitting_inverts_joining`).
-/

namespace ServiceMesh

namespace Qualifier

/-! ## Joining -/

theorem toList_join (space action : String) :
    (join space action).toList = space.toList ++ '/' :: action.toList := by
  simp [join]

theorem slash_mem_join (space action : String) : '/' ∈ (join space action).toList := by
  rw [toList_join]
  exact List.mem_append_right _ List.mem_cons_self

theorem join_ne_empty (space action : String) : join space action ≠ "" := by
  intro empty
  have slash := slash_mem_join space action
  rw [empty] at slash
  exact absurd slash (by decide)

theorem join_assoc (outer inner action : String) :
    join (join outer inner) action = join outer (join inner action) := by
  apply String.toList_injective
  simp only [toList_join, List.append_assoc, List.cons_append]

/-! ## Splitting -/

variable {space action qualifier : String}

/-- A text with a slash is joined at its last one. -/
theorem exists_join (slash : '/' ∈ qualifier.toList) :
    ∃ space action, join space action = qualifier ∧ '/' ∉ action.toList := by
  cases found : Text.splitLast? '/' qualifier.toList with
  | none => exact absurd slash (Text.splitLast?_eq_none_iff.mp found)
  | some parts =>
      rcases parts with ⟨before, after⟩
      rcases Text.splitLast?_eq_some_iff.mp found with ⟨whole, outside⟩
      refine ⟨String.ofList before, String.ofList after, ?_, by rwa [String.toList_ofList]⟩
      apply String.toList_injective
      rw [toList_join, String.toList_ofList, String.toList_ofList, whole]

theorem split_of_slashless (slashless : '/' ∉ qualifier.toList) :
    split qualifier = (qualifier, "") := by
  rw [split, Text.splitLast?_eq_none_iff.mpr slashless]

theorem split_join_of_slashless (slashless : '/' ∉ action.toList) :
    split (join space action) = (space, action) := by
  have found : Text.splitLast? '/' (join space action).toList =
      some (space.toList, action.toList) :=
    Text.splitLast?_eq_some_iff.mpr ⟨toList_join space action, slashless⟩
  simp only [split, found, String.ofList_toList]

/-- A split moves what precedes the last slash of an action into the namespace. -/
theorem split_join (space action : String) :
    split (join space action) =
      if '/' ∈ action.toList then (join space (split action).1, (split action).2)
      else (space, action) := by
  by_cases slash : '/' ∈ action.toList
  · rcases exists_join slash with ⟨middle, last, rfl, slashless⟩
    rw [if_pos slash, ← join_assoc, split_join_of_slashless slashless,
      split_join_of_slashless slashless]
  · rw [if_neg slash, split_join_of_slashless slash]

/-- The parts of a text without a slash are joined to the text with a slash at its end. -/
theorem join_split (qualifier : String) :
    join (split qualifier).1 (split qualifier).2 =
      if '/' ∈ qualifier.toList then qualifier else qualifier ++ "/" := by
  by_cases slash : '/' ∈ qualifier.toList
  · rcases exists_join slash with ⟨space, action, rfl, slashless⟩
    rw [if_pos slash, split_join_of_slashless slashless]
  · rw [if_neg slash, split_of_slashless slash, join, String.append_empty]

/-- Parts are restored from their qualifier just if the action has no slash. -/
theorem split_join_iff :
    split (join space action) = (space, action) ↔ '/' ∉ action.toList := by
  refine ⟨fun restored slash => ?_, split_join_of_slashless⟩
  rcases exists_join slash with ⟨middle, last, rfl, slashless⟩
  rw [split_join, if_pos slash, split_join_of_slashless slashless, Prod.mk.injEq] at restored
  have same : last = join middle last := restored.2
  apply slashless
  rw [same]
  exact slash_mem_join middle last

/-- A text is restored from its parts just if it has a slash. -/
theorem join_split_iff :
    join (split qualifier).1 (split qualifier).2 = qualifier ↔ '/' ∈ qualifier.toList := by
  refine ⟨fun restored => restored ▸ slash_mem_join _ _, fun slash => ?_⟩
  rw [join_split, if_pos slash]

/-! ## Shared qualifiers -/

variable {other another : String}

/-- Where a qualifier is joined in two ways, the longer namespace ends inside the action behind the
shorter one. -/
theorem parts_of_longer {more : List Char} (longer : other.toList = space.toList ++ more)
    (same : '/' :: action.toList = more ++ '/' :: another.toList) :
    (space = other ∧ action = another) ∨
      ∃ middle, other = join space middle ∧ action = join middle another := by
  -- What the longer namespace has more is nothing, or it starts with the slash behind the shorter.
  cases more with
  | nil =>
      rw [List.append_nil] at longer
      rw [List.nil_append, List.cons.injEq] at same
      exact .inl ⟨(String.toList_injective longer).symm, String.toList_injective same.2⟩
  | cons first middle =>
      rw [List.cons_append, List.cons.injEq] at same
      rcases same with ⟨rfl, same⟩
      refine .inr ⟨String.ofList middle, ?_, ?_⟩
      · apply String.toList_injective
        rw [longer, toList_join, String.toList_ofList]
      · apply String.toList_injective
        rw [same, toList_join, String.toList_ofList]

/-- Different parts share their qualifier just if one text ends the namespace of the one and starts
the action of the other, and they agree apart from it. -/
theorem join_eq_join_iff :
    join space action = join other another ↔
      (space = other ∧ action = another) ∨
        (∃ middle, other = join space middle ∧ action = join middle another) ∨
          ∃ middle, space = join other middle ∧ another = join middle action := by
  constructor
  · intro same
    have texts := congrArg String.toList same
    rw [toList_join, toList_join, List.append_eq_append_iff] at texts
    rcases texts with ⟨more, longer, rest⟩ | ⟨more, longer, rest⟩
    · exact (parts_of_longer longer rest).imp_right .inl
    · exact (parts_of_longer longer rest).imp (.imp Eq.symm Eq.symm) .inr
  · rintro (⟨rfl, rfl⟩ | ⟨middle, rfl, rfl⟩ | ⟨middle, rfl, rfl⟩)
    · rfl
    · exact (join_assoc space middle another).symm
    · exact join_assoc other middle action

theorem join_eq_join_iff_of_slashless (slashless : '/' ∉ action.toList)
    (also : '/' ∉ another.toList) :
    join space action = join other another ↔ space = other ∧ action = another := by
  rw [join_eq_join_iff]
  refine ⟨fun shared => ?_, .inl⟩
  rcases shared with equal | ⟨middle, -, rfl⟩ | ⟨middle, -, rfl⟩
  · exact equal
  · exact absurd (slash_mem_join middle another) slashless
  · exact absurd (slash_mem_join middle action) also

/-! ## Main result -/

/-- A namespace and an action are the parts of their qualifier just if the action has no slash, and a
text is the qualifier of its parts just if it has a slash.  Methods whose actions have no slash share
their qualifier just if they agree on namespace and action. -/
theorem splitting_inverts_joining (space action qualifier : String) (first second : Binding) :
    (split (join space action) = (space, action) ↔ '/' ∉ action.toList) ∧
      (join (split qualifier).1 (split qualifier).2 = qualifier ↔ '/' ∈ qualifier.toList) ∧
      ('/' ∉ first.action.toList → '/' ∉ second.action.toList →
        (first.qualifier = second.qualifier ↔
          first.space = second.space ∧ first.action = second.action)) :=
  ⟨split_join_iff, join_split_iff, join_eq_join_iff_of_slashless⟩

/-- Slashes at the end of a namespace belong to it. -/
theorem slashedSpace_restored :
    '/' ∉ "list".toList ∧ split (join "shop/" "list") = ("shop/", "list") ∧
      join (split "shop//").1 (split "shop//").2 = "shop//" ∧
      (Binding.raw "shop/" "list" .requestStream).qualifier ≠
        (Binding.raw "shop" "list" .requestStream).qualifier := by
  have slashless : '/' ∉ "list".toList := by decide
  rcases splitting_inverts_joining "shop/" "list" "shop//"
    (Binding.raw "shop/" "list" .requestStream)
    (Binding.raw "shop" "list" .requestStream) with ⟨parts, text, methods⟩
  refine ⟨slashless, parts.mpr slashless, text.mpr (by decide), fun shared => ?_⟩
  exact absurd ((methods slashless slashless).mp shared).1 (by decide)

/-- With a slash in an action another method has the same qualifier. -/
example : join "shop" "item/list" = join "shop/item" "list" ∧
    split (join "shop" "item/list") = ("shop/item", "list") := by decide +kernel

end Qualifier

end ServiceMesh
