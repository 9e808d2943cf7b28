import ServiceMesh.Proofs.Flow.Pulls

/-!
# Sources that cannot be told apart

Two sources are alike if whoever pulls them, and abandons them at whatever moment, sees the same
(`Source.Alike`).  Their states may differ as long as some relation between them lasts through the
pulls (`Source.Paired`).  Alike sources have the same transcripts (`Alike.pulled`), and the
combinators that rewrite or guard a source make alike sources of alike ones.  Openings are alike if
the sources that the first item selects are (`Alike.opening_cons`).
-/

namespace ServiceMesh.Source

variable {ε δ α β : Type}

/-- In related states two sources leave and give the same, whether they are pulled or abandoned, and
pulls lead to related states. -/
structure Paired (source other : Source ε α) (related : source.State → other.State → Prop) :
    Prop where
  seen : ∀ first second, related first second →
    (source.pull first).seen = (other.pull second).seen
  next : ∀ first second, related first second →
    related (source.pull first).next (other.pull second).next
  abandoned : ∀ first second, related first second →
    source.abandoned first = other.abandoned second

/-- Nobody can tell one source from the other. -/
def Alike (source other : Source ε α) : Prop :=
  ∃ related, Paired source other related ∧ related source.state other.state

theorem Alike.refl (source : Source ε α) : source.Alike source := by
  refine ⟨Eq, ⟨?_, ?_, ?_⟩, rfl⟩
  all_goals
    rintro state _ rfl
    rfl

section

variable {source other : Source ε α} {related : source.State → other.State → Prop}

theorem Paired.marks (paired : Paired source other related) {first : source.State}
    {second : other.State} (meet : related first second) :
    (source.pull first).marks = (other.pull second).marks :=
  congrArg Turn.marks (paired.seen first second meet)

theorem Paired.signal (paired : Paired source other related) {first : source.State}
    {second : other.State} (meet : related first second) :
    (source.pull first).signal = (other.pull second).signal :=
  congrArg Turn.signal (paired.seen first second meet)

theorem Paired.pulls (paired : Paired source other related) (count : Nat)
    {first : source.State} {second : other.State} (meet : related first second) :
    source.pulls count first = other.pulls count second := by
  induction count generalizing first second with
  | zero => rfl
  | succ count induction =>
      rw [source.pulls_of_pull rfl, other.pulls_of_pull rfl, paired.seen first second meet,
        induction (paired.next first second meet)]

/-- The transcripts of alike sources. -/
theorem Alike.pulled (alike : source.Alike other) (count : Nat) :
    source.pulled count = other.pulled count := by
  rcases alike with ⟨related, paired, start⟩
  exact paired.pulls count start

/-! ## Combinators -/

theorem Alike.map (alike : source.Alike other) (rename : α → β) :
    (source.map rename).Alike (other.map rename) := by
  rcases alike with ⟨related, paired, start⟩
  refine ⟨related, ⟨fun first second meet => ?_, paired.next, paired.abandoned⟩, start⟩
  exact congrArg (Turn.mapItem rename) (paired.seen first second meet)

theorem Alike.mapMarks (alike : source.Alike other) (rename : ε → δ) :
    (source.mapMarks rename).Alike (other.mapMarks rename) := by
  rcases alike with ⟨related, paired, start⟩
  refine ⟨related, ⟨fun first second meet => ?_, paired.next, fun first second meet => ?_⟩, start⟩
  · exact congrArg (Turn.mapMarks rename) (paired.seen first second meet)
  · exact congrArg (List.map rename) (paired.abandoned first second meet)

end

/-- Guards that have come equally far, around related states. -/
inductive GuardsMeet {σ τ : Type} (related : σ → τ → Prop) : GuardState σ → GuardState τ → Prop
  | early {first : σ} {second : τ} (meet : related first second) :
      GuardsMeet related (.open first) (.open second)
  | failed {first : σ} {second : τ} (meet : related first second) :
      GuardsMeet related (.failed first) (.failed second)
  | shut {first : σ} {second : τ} (meet : related first second) :
      GuardsMeet related (.shut first) (.shut second)

section

variable {source other : Source ε (Outcome α)} {related : source.State → other.State → Prop}

/-- One pull of two guarded sources. -/
theorem Paired.pull_guarded (paired : Paired source other related)
    {first : GuardState source.State} {second : GuardState other.State}
    (meet : GuardsMeet related first second) :
    (source.guarded.pull first).seen = (other.guarded.pull second).seen ∧
      GuardsMeet related (source.guarded.pull first).next (other.guarded.pull second).next := by
  cases meet with
  | @early first second meet =>
      have same := paired.signal meet
      by_cases fails : ∃ error, (source.pull first).signal = .item (.error error)
      · rcases fails with ⟨error, given⟩
        rw [pull_guarded_of_error given, pull_guarded_of_error (same ▸ given)]
        exact ⟨paired.seen _ _ meet, .failed (paired.next _ _ meet)⟩
      · rw [not_exists] at fails
        rw [pull_guarded_of_sound fails, pull_guarded_of_sound (same ▸ fails)]
        exact ⟨paired.seen _ _ meet, .early (paired.next _ _ meet)⟩
  | @failed first second meet =>
      have same := paired.signal meet
      by_cases comes : ∃ value, (source.pull first).signal = .item value
      · rcases comes with ⟨value, given⟩
        rw [pull_guarded_failed_of_item given, pull_guarded_failed_of_item (same ▸ given)]
        refine ⟨?_, .shut (paired.next _ _ meet)⟩
        exact congrArg (fun marks => (⟨marks, .ended, ()⟩ : Turn ε (Outcome α) Unit))
          (paired.marks meet)
      · rw [not_exists] at comes
        rw [pull_guarded_failed_of_bare comes, pull_guarded_failed_of_bare (same ▸ comes)]
        exact ⟨paired.seen _ _ meet, .failed (paired.next _ _ meet)⟩
  | shut meet => exact ⟨rfl, .shut meet⟩

theorem Alike.guarded (alike : source.Alike other) : source.guarded.Alike other.guarded := by
  rcases alike with ⟨related, paired, start⟩
  refine ⟨GuardsMeet related, ⟨fun _ _ meet => (paired.pull_guarded meet).1,
    fun _ _ meet => (paired.pull_guarded meet).2, ?_⟩, .early start⟩
  rintro _ _ (meet | meet | meet) <;> exact paired.abandoned _ _ meet

end

/-- Openings of one source are alike if its first item selects alike sources. -/
theorem Alike.opening_cons {first : α} {others : Source ε α}
    {select other : Option α → Source ε α → Source ε β}
    (alike : ∀ rest, (select (some first) rest).Alike (other (some first) rest)) :
    ((cons first others).opening select).Alike ((cons first others).opening other) := by
  rcases alike ((cons first others).inState (true, others.state)) with ⟨related, paired, start⟩
  let chosen : Option α × (cons first others).State := (some first, true, others.state)
  -- Either nothing was pulled yet, or the first item has selected the two sources.
  refine ⟨fun former latter =>
    (former = .inl (false, others.state) ∧ latter = .inl (false, others.state)) ∨
      ∃ state mate, related state mate ∧ former = .inr ⟨chosen, state⟩ ∧
        latter = .inr ⟨chosen, mate⟩, ⟨?_, ?_, ?_⟩, .inl ⟨rfl, rfl⟩⟩
  · rintro _ _ (⟨rfl, rfl⟩ | ⟨state, mate, meet, rfl, rfl⟩)
    · exact paired.seen _ _ start
    · exact paired.seen _ _ meet
  · rintro _ _ (⟨rfl, rfl⟩ | ⟨state, mate, meet, rfl, rfl⟩)
    · exact .inr ⟨_, _, paired.next _ _ start, rfl, rfl⟩
    · exact .inr ⟨_, _, paired.next _ _ meet, rfl, rfl⟩
  · rintro _ _ (⟨rfl, rfl⟩ | ⟨state, mate, meet, rfl, rfl⟩)
    · rfl
    · exact paired.abandoned _ _ meet

end ServiceMesh.Source
