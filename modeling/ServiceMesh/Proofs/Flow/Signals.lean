import Mathlib.Tactic.ByContra
import ServiceMesh.Flow.Source

/-!
# What sources give

`Source.Gives` says of a source in a state that it gives some items, with any number of pulls in vain
in between, and then ends.  `Source.Shows` says what a run of pulls, which may stop anywhere, has
given.  The two fit together (`Source.Gives.begins_of_shows`), and both pass through the combinators:
those that answer each pull by one pull of another source mimic it (`Source.Mimics`).
-/

namespace ServiceMesh

/-- Whether a pull was not in vain. -/
def Signal.isGiven {α : Type} : Signal α → Bool
  | .pending => false
  | _ => true

namespace Source

variable {ε δ α β : Type}

/-- From a state on a source gives these items, and then it ends. -/
inductive Gives (source : Source ε α) : source.State → List α → Prop where
  /-- The source ends. -/
  | ended {state : source.State} (signal : (source.pull state).signal = .ended) :
      Gives source state []
  /-- A pull was in vain. -/
  | pending {state : source.State} {items : List α}
      (signal : (source.pull state).signal = .pending)
      (later : Gives source (source.pull state).next items) : Gives source state items
  /-- An item comes first. -/
  | item {state : source.State} {value : α} {items : List α}
      (signal : (source.pull state).signal = .item value)
      (later : Gives source (source.pull state).next items) :
      Gives source state (value :: items)

/-- A run of pulls of a source has given these signals, apart from those in vain. -/
inductive Shows (source : Source ε α) : source.State → List (Signal α) → Prop where
  /-- No more pulls. -/
  | nothing (state : source.State) : Shows source state []
  /-- A pull was in vain. -/
  | pending {state : source.State} {signals : List (Signal α)}
      (signal : (source.pull state).signal = .pending)
      (later : Shows source (source.pull state).next signals) : Shows source state signals
  /-- A pull gives something. -/
  | signal {state : source.State} {signals : List (Signal α)} {signal : Signal α}
      (given : (source.pull state).signal = signal) (some_ : signal ≠ .pending)
      (later : Shows source (source.pull state).next signals) :
      Shows source state (signal :: signals)

/-- Only items come, and no end. -/
def Endless (source : Source ε α) (state : source.State) : Prop :=
  ∀ signals, source.Shows state signals → ∀ signal ∈ signals, ∃ value, signal = .item value

/-- Nothing comes at all. -/
def Silent (source : Source ε α) (state : source.State) : Prop :=
  ∀ signals, source.Shows state signals → signals = []

/-- What a source gives in all. -/
def Yields (source : Source ε α) (items : List α) : Prop := source.Gives source.state items

/-- What a source has given by now. -/
def HasShown (source : Source ε α) (signals : List (Signal α)) : Prop :=
  source.Shows source.state signals

/-- A source from which nothing comes. -/
def Waits (source : Source ε α) : Prop := source.Silent source.state

theorem Endless.signal {source : Source ε α} {state : source.State}
    (endless : source.Endless state) :
    (source.pull state).signal = .pending ∨ ∃ value, (source.pull state).signal = .item value := by
  by_cases pending : (source.pull state).signal = .pending
  · exact .inl pending
  · exact .inr (endless _ (.signal rfl pending (.nothing _)) _ List.mem_cons_self)

theorem Endless.next {source : Source ε α} {state : source.State}
    (endless : source.Endless state) : source.Endless (source.pull state).next := by
  intro signals shows signal member
  by_cases pending : (source.pull state).signal = .pending
  · exact endless _ (.pending pending shows) signal member
  · exact endless _ (.signal rfl pending shows) signal (List.mem_cons_of_mem _ member)

theorem Endless.of_next {source : Source ε α} {state : source.State}
    (endless : source.Endless (source.pull state).next)
    (open_ : (source.pull state).signal = .pending ∨
      ∃ value, (source.pull state).signal = .item value) : source.Endless state := by
  intro signals shows signal member
  cases shows with
  | nothing => cases member
  | pending _ shows => exact endless _ shows signal member
  | signal given some_ shows =>
      rcases List.mem_cons.mp member with rfl | later
      · rcases open_ with waits | ⟨value, comes⟩
        · exact (some_ (given.symm.trans waits)).elim
        · exact ⟨value, given.symm.trans comes⟩
      · exact endless _ shows signal later

theorem Silent.signal {source : Source ε α} {state : source.State}
    (silent : source.Silent state) : (source.pull state).signal = .pending := by
  by_contra given
  cases silent _ (.signal rfl given (.nothing _))

theorem Silent.next {source : Source ε α} {state : source.State}
    (silent : source.Silent state) : source.Silent (source.pull state).next :=
  fun signals shows => silent signals (.pending silent.signal shows)

/-- States in which every pull is in vain and that lead to such states. -/
theorem silent_of_invariant {source : Source ε α} (waiting : source.State → Prop)
    (stays : ∀ state, waiting state →
      (source.pull state).signal = .pending ∧ waiting (source.pull state).next)
    {state : source.State} (waits : waiting state) : source.Silent state := by
  intro signals shows
  induction shows with
  | nothing => rfl
  | pending _ _ induction => exact induction (stays _ waits).2
  | signal given some_ => exact (some_ (given.symm.trans (stays _ waits).1)).elim

/-- What a source gives is determined. -/
theorem Gives.unique {source : Source ε α} {state : source.State} {first second : List α}
    (gives : source.Gives state first) (also : source.Gives state second) : first = second := by
  induction gives generalizing second with
  | ended ends =>
      cases also with
      | ended => rfl
      | pending waits => exact nomatch ends.symm.trans waits
      | item comes => exact nomatch ends.symm.trans comes
  | pending waits _ induction =>
      cases also with
      | ended ends => exact nomatch waits.symm.trans ends
      | pending _ later => exact induction later
      | item comes => exact nomatch waits.symm.trans comes
  | item comes _ induction =>
      cases also with
      | ended ends => exact nomatch comes.symm.trans ends
      | pending waits => exact nomatch comes.symm.trans waits
      | item again later =>
          rw [Signal.item.inj (comes.symm.trans again), induction later]

/-- A run of pulls that stops at the end shows the beginning of what the source gives. -/
theorem Gives.begins_of_shows {source : Source ε α} {state : source.State} {items : List α}
    (gives : source.Gives state items) {signals : List (Signal α)}
    (shows : source.Shows state signals) (stops : .ended ∉ signals.dropLast) :
    signals <+: items.map .item ++ [.ended] := by
  induction gives generalizing signals with
  | ended ends =>
      cases shows with
      | nothing => exact List.nil_prefix
      | pending given later => rw [ends] at given; cases given
      | @signal _ signals signal given some_ later =>
          cases signals with
          | nil => rw [ends] at given; rw [← given]; exact List.prefix_rfl
          | cons next signals =>
              rw [← given, ends] at stops
              simp at stops
  | pending waits _ induction =>
      cases shows with
      | nothing => exact List.nil_prefix
      | pending given later => exact induction later stops
      | signal given some_ later => exact (some_ (given.symm.trans waits)).elim
  | @item _ value items comes _ induction =>
      cases shows with
      | nothing => exact List.nil_prefix
      | pending given later => rw [comes] at given; cases given
      | @signal _ signals signal given some_ later =>
          rw [← given, comes, List.map_cons, List.cons_append, List.cons_prefix_cons]
          refine ⟨rfl, induction later ?_⟩
          intro early
          cases signals with
          | nil => simp at early
          | cons next signals =>
              rw [List.dropLast_cons_cons] at stops
              exact stops (List.mem_cons_of_mem _ early)

/-- Every beginning of what a source gives is shown by a run of pulls. -/
theorem Gives.shows {source : Source ε α} {state : source.State} {items : List α}
    (gives : source.Gives state items) {signals : List (Signal α)}
    (early : signals <+: items.map .item ++ [.ended]) : source.Shows state signals := by
  induction gives generalizing signals with
  | ended ends =>
      rcases List.prefix_cons_iff.mp early with rfl | ⟨rest, rfl, nothing⟩
      · exact .nothing _
      · rw [List.prefix_nil.mp nothing]
        exact .signal ends nofun (.nothing _)
  | pending waits _ induction => exact .pending waits (induction early)
  | item comes _ induction =>
      rcases List.prefix_cons_iff.mp early with rfl | ⟨rest, rfl, later⟩
      · exact .nothing _
      · exact .signal comes nofun (induction later)

/-! ## Sources that follow another one -/

/-- One source answers every pull by a pull of another one, up to a renaming of the items. -/
structure Mimics (source : Source ε α) (mimic : Source δ β) (rename : α → β)
    (embed : source.State → mimic.State) : Prop where
  signal : ∀ state, (mimic.pull (embed state)).signal = (source.pull state).signal.map rename
  next : ∀ state, (mimic.pull (embed state)).next = embed (source.pull state).next

theorem Mimics.gives {source : Source ε α} {mimic : Source δ β} {rename : α → β}
    {embed : source.State → mimic.State} (mimics : source.Mimics mimic rename embed)
    {state : source.State} {items : List α} (gives : source.Gives state items) :
    mimic.Gives (embed state) (items.map rename) := by
  induction gives with
  | ended ends => exact .ended (by rw [mimics.signal, ends]; rfl)
  | pending waits _ induction =>
      exact .pending (by rw [mimics.signal, waits]; rfl) (by rw [mimics.next]; exact induction)
  | item comes _ induction =>
      exact .item (by rw [mimics.signal, comes]; rfl) (by rw [mimics.next]; exact induction)

theorem Mimics.gives_same {source : Source ε α} {mimic : Source δ α}
    {embed : source.State → mimic.State} (mimics : source.Mimics mimic id embed)
    {state : source.State} {items : List α} (gives : source.Gives state items) :
    mimic.Gives (embed state) items := by
  have follows := mimics.gives gives
  rwa [List.map_id] at follows

theorem Mimics.shows {source : Source ε α} {mimic : Source δ β} {rename : α → β}
    {embed : source.State → mimic.State} (mimics : source.Mimics mimic rename embed)
    {state : source.State} {signals : List (Signal β)}
    (shows : mimic.Shows (embed state) signals) :
    ∃ originals, source.Shows state originals ∧ signals = originals.map (Signal.map rename) := by
  generalize reached : embed state = after at shows
  induction shows generalizing state with
  | nothing => exact ⟨[], .nothing _, rfl⟩
  | pending waits _ induction =>
      subst reached
      rcases induction (mimics.next state).symm with ⟨originals, shows, same⟩
      rw [mimics.signal] at waits
      refine ⟨originals, .pending ?_ shows, same⟩
      cases given : (source.pull state).signal with
      | pending => rfl
      | _ => rw [given] at waits; cases waits
  | signal given some_ _ induction =>
      subst reached
      rcases induction (mimics.next state).symm with ⟨originals, shows, same⟩
      rw [mimics.signal] at given
      refine ⟨_, .signal rfl ?_ shows, ?_⟩
      · intro waits
        rw [waits] at given
        exact some_ given.symm
      · rw [List.map_cons, ← same, given]

theorem Mimics.silent {source : Source ε α} {mimic : Source δ β} {rename : α → β}
    {embed : source.State → mimic.State} (mimics : source.Mimics mimic rename embed)
    {state : source.State} (silent : source.Silent state) : mimic.Silent (embed state) := by
  refine silent_of_invariant (fun after => ∃ state, embed state = after ∧ source.Silent state)
    ?_ ⟨state, rfl, silent⟩
  rintro _ ⟨state, rfl, silent⟩
  refine ⟨?_, (source.pull state).next, (mimics.next state).symm, silent.next⟩
  rw [mimics.signal, silent.signal]
  rfl

theorem Mimics.endless {source : Source ε α} {mimic : Source δ β} {rename : α → β}
    {embed : source.State → mimic.State} (mimics : source.Mimics mimic rename embed)
    {state : source.State} (endless : source.Endless state) : mimic.Endless (embed state) := by
  intro signals shows signal member
  rcases mimics.shows shows with ⟨originals, shown, same⟩
  rw [same] at member
  rcases List.mem_map.mp member with ⟨original, among, rfl⟩
  rcases endless originals shown original among with ⟨value, rfl⟩
  exact ⟨rename value, rfl⟩

theorem mimics_map (source : Source ε α) (rename : α → β) :
    source.Mimics (source.map rename) rename id :=
  ⟨fun _ => rfl, fun _ => rfl⟩

theorem signal_map_id (signal : Signal α) : signal.map id = signal := by
  cases signal <;> rfl

theorem mimics_cons (first : α) (rest : Source ε α) :
    rest.Mimics (cons first rest) id (fun state => (true, state)) :=
  ⟨fun state => (signal_map_id (rest.pull state).signal).symm, fun _ => rfl⟩

theorem mimics_opening (source : Source ε α) (select : Option α → Source ε α → Source ε β)
    (first : Option α × source.State) :
    (select first.1 (source.inState first.2)).Mimics (source.opening select) id
      (fun state => .inr ⟨first, state⟩) :=
  ⟨fun _ => (signal_map_id _).symm, fun _ => rfl⟩

theorem mimics_inState (source : Source ε α) (state : source.State) :
    source.Mimics (source.inState state) id id :=
  ⟨fun _ => (signal_map_id _).symm, fun _ => rfl⟩

theorem mimics_afterMarks (source : Source ε α) (marks : List ε) :
    source.Mimics (source.afterMarks marks) id (fun state => (true, state)) :=
  ⟨fun _ => (signal_map_id _).symm, fun _ => rfl⟩

/-! ## The first pull -/

/-- Two pulls that give the same and lead to states that give the same. -/
theorem Gives.of_pull {source : Source ε α} {other : Source δ α} {state : source.State}
    {start : other.State} {items : List α} (gives : source.Gives state items)
    (signal : (other.pull start).signal = (source.pull state).signal)
    (next : ∀ later, source.Gives (source.pull state).next later →
      other.Gives (other.pull start).next later) : other.Gives start items := by
  cases gives with
  | ended ends => exact .ended (signal.trans ends)
  | pending waits later => exact .pending (signal.trans waits) (next _ later)
  | item comes later => exact .item (signal.trans comes) (next _ later)

theorem Silent.of_pull {source : Source ε α} {other : Source δ α} {state : source.State}
    {start : other.State} (silent : source.Silent state)
    (signal : (other.pull start).signal = (source.pull state).signal)
    (next : source.Silent (source.pull state).next → other.Silent (other.pull start).next) :
    other.Silent start := by
  have later := next silent.next
  rw [silent.signal] at signal
  intro signals shows
  cases shows with
  | nothing => rfl
  | pending waits shows => exact later _ shows
  | signal given some_ shows => exact (some_ (given.symm.trans signal)).elim

theorem yields_afterMarks {source : Source ε α} (marks : List ε) {items : List α}
    (yields : source.Yields items) : (source.afterMarks marks).Yields items :=
  yields.of_pull rfl fun _ gives => (mimics_afterMarks source marks).gives_same gives

section

variable {source : Source ε α} (select : Option α → Source ε α → Source ε β)
  {state : source.State}

/-- With its first item an opening goes on as the source that the item selects. -/
theorem pull_opening_of_item {first : α} (comes : (source.pull state).signal = .item first) :
    ((source.opening select).pull (.inl state)).signal =
        (select (some first) (source.inState (source.pull state).next)).next.2.1 ∧
      ((source.opening select).pull (.inl state)).next =
        .inr ⟨(some first, (source.pull state).next),
          (select (some first) (source.inState (source.pull state).next)).next.2.2.state⟩ := by
  simp only [opening, comes]
  exact ⟨rfl, rfl⟩

theorem gives_opening {first : α} {items : List β}
    (comes : (source.pull state).signal = .item first)
    (yields : (select (some first) (source.inState (source.pull state).next)).Yields items) :
    (source.opening select).Gives (.inl state) items := by
  have pull := pull_opening_of_item select comes
  refine yields.of_pull pull.1 fun later gives => ?_
  rw [pull.2]
  exact (mimics_opening source select (some first, (source.pull state).next)).gives_same gives

theorem waits_opening {first : α} (comes : (source.pull state).signal = .item first)
    (waits : (select (some first) (source.inState (source.pull state).next)).Waits) :
    (source.opening select).Silent (.inl state) := by
  have pull := pull_opening_of_item select comes
  refine waits.of_pull pull.1 fun silent => ?_
  rw [pull.2]
  exact (mimics_opening source select (some first, (source.pull state).next)).silent silent

end

/-! ## Prepared items -/

theorem gives_ofSignals (signals : List (Signal α)) (items : List α) :
    (ofSignals signals : Source ε α).Gives (items.map Signal.item : List (Signal α)) items := by
  induction items with
  | nil => exact .ended rfl
  | cons item items induction => exact .item rfl induction

theorem yields_ofList (items : List α) : (ofList items : Source ε α).Yields items :=
  gives_ofSignals _ items

theorem yields_failed (error : CallError) :
    (failed error : Source ε (Outcome α)).Yields [.error error] :=
  yields_ofList _

theorem yields_cons (first : α) {rest : Source ε α} {items : List α} (yields : rest.Yields items) :
    (cons first rest).Yields (first :: items) :=
  .item rfl ((mimics_cons first rest).gives_same yields)

theorem endless_cons {first : α} {rest : Source ε α} (endless : rest.Endless rest.state) :
    (cons first rest).Endless (cons first rest).state := by
  have later := (mimics_cons first rest).endless endless
  intro signals shows signal member
  cases shows with
  | nothing => cases member
  | pending waits => cases waits
  | signal given some_ shows =>
      rcases List.mem_cons.mp member with rfl | among
      · exact ⟨first, given.symm⟩
      · exact later _ shows _ among

/-! ## Guarded sources -/

/-- The outcomes up to the first error. -/
def untilError : List (Outcome α) → List (Outcome α)
  | [] => []
  | .ok value :: outcomes => .ok value :: untilError outcomes
  | .error error :: _ => [.error error]

theorem gives_guarded_failed {source : Source ε (Outcome α)} {state : source.State}
    {items : List (Outcome α)} (gives : source.Gives state items) :
    source.guarded.Gives (.failed state) [] := by
  induction gives with
  | ended ends => exact .ended (by simp [guarded, guardedPull, ends, Turn.mapState])
  | pending waits _ induction =>
      refine .pending (by simp [guarded, guardedPull, waits, Turn.mapState]) ?_
      simp only [guarded, guardedPull, waits, Turn.mapState] at induction ⊢
      exact induction
  | item comes => exact .ended (by simp [guarded, guardedPull, comes])

/-- A guarded source gives the same up to the first error. -/
theorem gives_guarded {source : Source ε (Outcome α)} {state : source.State}
    {items : List (Outcome α)} (gives : source.Gives state items) :
    source.guarded.Gives (.open state) (untilError items) := by
  induction gives with
  | ended ends => exact .ended (by simp [guarded, guardedPull, ends, Turn.mapState])
  | @pending state items waits _ induction =>
      have pull : source.guarded.pull (.open state) = (source.pull state).mapState .open := by
        simp [guarded, guardedPull, waits]
      exact .pending (by rw [pull]; exact waits) (by rw [pull]; exact induction)
  | @item state value items comes gives induction =>
      cases value with
      | ok value =>
          have pull : source.guarded.pull (.open state) = (source.pull state).mapState .open := by
            simp [guarded, guardedPull, comes]
          exact .item (by rw [pull]; exact comes) (by rw [pull]; exact induction)
      | error error =>
          have pull : source.guarded.pull (.open state) = (source.pull state).mapState .failed := by
            simp [guarded, guardedPull, comes]
          exact .item (by rw [pull]; exact comes)
            (by rw [pull]; exact gives_guarded_failed gives)

theorem waits_guarded {source : Source ε (Outcome α)} (waits : source.Waits) :
    source.guarded.Waits := by
  refine silent_of_invariant
    (fun after => ∃ state, after = GuardState.open state ∧ source.Silent state) ?_
    ⟨source.state, rfl, waits⟩
  rintro _ ⟨state, rfl, silent⟩
  have pull : source.guarded.pull (.open state) = (source.pull state).mapState .open := by
    simp [guarded, guardedPull, silent.signal]
  rw [pull]
  exact ⟨silent.signal, _, rfl, silent.next⟩

/-! ## Answers to whole streams -/

/-- Takes all items of a source and then gives the items that answer them. -/
def gathering (answer : List α → List β) (source : Source ε α) : Source ε β :=
  (source.fold [] fun items item => items ++ [item]).opening fun items _ =>
    .ofList (answer (items.getD []))

section

variable {source : Source ε α} {state : source.State} (answer : List α → List β)
  (earlier : List α)

theorem pull_gathering_of_item {value : α} (comes : (source.pull state).signal = .item value) :
    ((gathering answer source).pull (.inl (some (earlier, state)))).signal = .pending ∧
      ((gathering answer source).pull (.inl (some (earlier, state)))).next =
        .inl (some (earlier ++ [value], (source.pull state).next)) := by
  simp [gathering, opening, fold, comes]

theorem pull_gathering_of_pending (waits : (source.pull state).signal = .pending) :
    ((gathering answer source).pull (.inl (some (earlier, state)))).signal = .pending ∧
      ((gathering answer source).pull (.inl (some (earlier, state)))).next =
        .inl (some (earlier, (source.pull state).next)) := by
  simp [gathering, opening, fold, waits]

/-- The items of a source are gathered, and answered when it has ended. -/
theorem gives_gathering {items : List α} (gives : source.Gives state items) :
    (gathering answer source).Gives (.inl (some (earlier, state))) (answer (earlier ++ items)) := by
  induction gives generalizing earlier with
  | @ended state ends =>
      have folded : ((source.fold [] fun items item => items ++ [item]).pull
          (some (earlier, state))).signal = .item earlier := by
        simp [fold, ends]
      rw [List.append_nil]
      exact gives_opening _ folded (yields_ofList _)
  | pending waits _ induction =>
      have pull := pull_gathering_of_pending answer earlier waits
      exact .pending pull.1 (by rw [pull.2]; exact induction earlier)
  | @item state value items comes _ induction =>
      have pull := pull_gathering_of_item answer earlier comes
      have later := induction (earlier ++ [value])
      rw [List.append_assoc] at later
      exact .pending pull.1 (by rw [pull.2]; exact later)

theorem yields_gathering {items : List α} (yields : source.Yields items) :
    (gathering answer source).Yields (answer items) :=
  gives_gathering answer [] yields

/-- While a source does not end, it is not answered. -/
theorem waits_gathering (endless : source.Endless source.state) :
    (gathering answer source).Waits := by
  refine silent_of_invariant (fun after : (gathering answer source).State => ∃ earlier state,
    after = .inl (some (earlier, state)) ∧ source.Endless state) ?_ ⟨[], _, rfl, endless⟩
  rintro _ ⟨earlier, state, rfl, endless⟩
  rcases endless.signal with waits | ⟨value, comes⟩
  · have pull := pull_gathering_of_pending answer earlier waits
    exact ⟨pull.1, earlier, _, pull.2, endless.next⟩
  · have pull := pull_gathering_of_item answer earlier comes
    exact ⟨pull.1, _, _, pull.2, endless.next⟩

end

/-! ## Items that arrive -/

/-- A stream whose items arrive from elsewhere, as it answers its pulls; after the end, and after an
error, nothing more comes. -/
def arriving (signals : List (Signal (Outcome α))) : Source ε (Outcome α) :=
  unfold signals fun
    | [] => ⟨[], .pending, []⟩
    | .item (.error error) :: _ => ⟨[], .item (.error error), [.ended]⟩
    | .ended :: _ => ⟨[], .ended, [.ended]⟩
    | signal :: rest => ⟨[], signal, rest⟩

section

variable (start : List (Signal (Outcome α)))

/-- What arrives is items, and then perhaps the end. -/
theorem gives_or_endless_arriving {signals : List (Signal (Outcome α))} {values : List α}
    (early : signals.filter Signal.isGiven <+:
      values.map (fun value => .item (.ok value)) ++ [.ended]) :
    (arriving start : Source ε (Outcome α)).Gives signals (values.map .ok) ∨
      (arriving start : Source ε (Outcome α)).Endless signals := by
  induction signals generalizing values with
  | nil =>
      have silent : (arriving start : Source ε (Outcome α)).Silent
          ([] : List (Signal (Outcome α))) :=
        silent_of_invariant (fun state : List (Signal (Outcome α)) => state = [])
          (by rintro _ rfl; exact ⟨rfl, rfl⟩) rfl
      refine .inr fun signals shows signal member => ?_
      rw [silent signals shows] at member
      cases member
  | cons signal signals induction =>
      cases signal with
      | pending =>
          rcases induction early with gives | endless
          · exact .inl (.pending rfl gives)
          · exact .inr (endless.of_next (.inl rfl))
      | ended =>
          cases values with
          | nil => exact .inl (.ended rfl)
          | cons value values => cases (List.cons_prefix_cons.mp early).1
      | crashed cause =>
          cases values with
          | nil => cases (List.cons_prefix_cons.mp early).1
          | cons value values => cases (List.cons_prefix_cons.mp early).1
      | item outcome =>
          cases values with
          | nil => cases (List.cons_prefix_cons.mp early).1
          | cons value values =>
              rcases List.cons_prefix_cons.mp early with ⟨same, later⟩
              cases same
              rcases induction later with gives | endless
              · exact .inl (.item rfl gives)
              · exact .inr (endless.of_next (.inr ⟨_, rfl⟩))

end

end Source

/-! ## Items -/

/-- The item of a signal. -/
def Signal.item? {α : Type} : Signal α → Option α
  | .item value => some value
  | _ => none

/-- The items of some signals. -/
def items {α : Type} (signals : List (Signal α)) : List α := signals.filterMap Signal.item?

theorem items_append {α : Type} (first second : List (Signal α)) :
    items (first ++ second) = items first ++ items second :=
  List.filterMap_append

theorem items_map_item {α : Type} (values : List α) : items (values.map .item) = values := by
  rw [items, List.filterMap_map]
  exact List.filterMap_some

/-- A reader that has come to a signal without an item, where only the last is one, has got all
items. -/
theorem items_eq_of_stop {α : Type} {seen all : List (Signal α)} (early : seen <+: all)
    (shape : ∀ signal ∈ all.dropLast, ∃ value, signal = .item value)
    (stops : ∀ value, all[seen.length]? ≠ some (.item value)) : items seen = items all := by
  rcases early with ⟨rest, rfl⟩
  rw [List.getElem?_append_right (Nat.le_refl _), Nat.sub_self] at stops
  rcases rest with _ | ⟨signal, _ | ⟨next, rest⟩⟩
  · rw [List.append_nil]
  · have none_ : items [signal] = [] := by
      cases signal with
      | item value => exact (stops value rfl).elim
      | _ => rfl
    rw [items_append, none_, List.append_nil]
  · rcases shape signal (by simp [List.dropLast_append_of_ne_nil]) with ⟨value, rfl⟩
    exact (stops value rfl).elim

end ServiceMesh
