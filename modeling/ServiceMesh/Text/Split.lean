/-!
# Splitting at the last separator

Qualifiers and addresses are read from the right: the part after the last separator names the
action or the port, and everything before it belongs to the other part.
-/

namespace ServiceMesh.Text

/-- The parts before and after the last occurrence of a character. -/
def splitLast? (separator : Char) : List Char → Option (List Char × List Char)
  | [] => none
  | character :: rest =>
    match splitLast? separator rest with
    | some (before, after) => some (character :: before, after)
    | none => if character = separator then some ([], rest) else none

theorem splitLast?_eq_none_iff {separator : Char} {text : List Char} :
    splitLast? separator text = none ↔ separator ∉ text := by
  induction text with
  | nil => simp [splitLast?]
  | cons character rest step =>
    simp only [splitLast?]
    cases found : splitLast? separator rest with
    | some parts =>
      have inRest : separator ∈ rest := by
        rcases Decidable.em (separator ∈ rest) with inside | outside
        · exact inside
        · rw [step.2 outside] at found
          cases found
      simp [inRest]
    | none =>
      have outside := step.1 found
      by_cases same : character = separator
      · simp [same]
      · simp [same, outside, Ne.symm same]

/-- A split gives back the text, and no separator stands after the split. -/
theorem splitLast?_eq_some_iff {separator : Char} {text before after : List Char} :
    splitLast? separator text = some (before, after) ↔
      text = before ++ separator :: after ∧ separator ∉ after := by
  induction text generalizing before after with
  | nil => simp [splitLast?]
  | cons character rest step =>
    simp only [splitLast?]
    cases found : splitLast? separator rest with
    | some parts =>
      obtain ⟨earlier, later⟩ := parts
      have split := step.1 found
      constructor
      · intro equal
        cases equal
        exact ⟨by simp [split.1], split.2⟩
      · rintro ⟨equal, outside⟩
        cases before with
        | nil =>
          have restEq : rest = after := by simpa using (List.cons.inj equal).2
          rw [restEq, splitLast?_eq_none_iff.2 outside] at found
          cases found
        | cons first others =>
          obtain ⟨rfl, tailEq⟩ := List.cons.inj equal
          have again := step.2 ⟨tailEq, outside⟩
          rw [found] at again
          cases again
          rfl
    | none =>
      have outside := splitLast?_eq_none_iff.1 found
      by_cases same : character = separator
      · subst same
        simp only [if_pos]
        constructor
        · intro equal
          cases equal
          exact ⟨rfl, outside⟩
        · rintro ⟨equal, _⟩
          cases before with
          | nil => simp [(List.cons.inj equal).2]
          | cons first others =>
            have tailEq := (List.cons.inj equal).2
            exact absurd (by simp [tailEq]) outside
      · simp only [if_neg same]
        constructor
        · intro equal
          cases equal
        · rintro ⟨equal, _⟩
          cases before with
          | nil => exact absurd (List.cons.inj equal).1 same
          | cons first others =>
            have tailEq := (List.cons.inj equal).2
            exact absurd (by simp [tailEq]) outside

end ServiceMesh.Text
