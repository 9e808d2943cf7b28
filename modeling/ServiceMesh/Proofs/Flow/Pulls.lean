import ServiceMesh.Proofs.Flow.Signals

/-!
# Transcripts of pulls

`Source.pulled` lists what the first pulls of a source leave and give, pulls in vain included.  Sources
that are built from others have the transcripts of these, rewritten pull by pull (`pulls_of_follows`):
a guarded source cuts the transcript behind the first error (`pulls_guarded`), and an opening has the
pulls in vain of its source in front of the transcript of the source that is selected
(`pulled_opening`).
-/

namespace ServiceMesh

variable {ε δ α β : Type}

namespace Turn

/-- What is seen of a turn from outside. -/
def seen {σ : Type} (turn : Turn ε α σ) : Turn ε α Unit := turn.mapState fun _ => ()

/-- The marks of a turn that gives nothing. -/
def vain {σ : Type} (turn : Turn ε α σ) : Turn ε β σ := ⟨turn.marks, .pending, turn.next⟩

end Turn

/-- The signal of a first item, or of its absence. -/
def Signal.ofFirst : Option α → Signal α
  | some value => .item value
  | none => .ended

/-- Puts marks in front of those of the first pull. -/
def markFirst (marks : List ε) : List (Turn ε α Unit) → List (Turn ε α Unit)
  | [] => []
  | turn :: turns => turn.after marks :: turns

theorem signals_markFirst (marks : List ε) (turns : List (Turn ε α Unit)) :
    (markFirst marks turns).map Turn.signal = turns.map Turn.signal := by
  cases turns <;> rfl

theorem filter_isGiven_map (rename : α → β) (signals : List (Signal α)) :
    (signals.map (Signal.map rename)).filter Signal.isGiven =
      (signals.filter Signal.isGiven).map (Signal.map rename) := by
  rw [List.filter_map]
  refine congrArg (List.map _) (List.filter_congr fun signal _ => ?_)
  cases signal <;> rfl

namespace Source

/-! ## Transcripts -/

/-- What is seen of some pulls from a state on. -/
def pulls (source : Source ε α) : Nat → source.State → List (Turn ε α Unit)
  | 0, _ => []
  | count + 1, state => (source.pull state).seen :: source.pulls count (source.pull state).next

/-- The state after some pulls. -/
def later (source : Source ε α) : Nat → source.State → source.State
  | 0, state => state
  | count + 1, state => source.later count (source.pull state).next

/-- What is seen of the first pulls. -/
def pulled (source : Source ε α) (count : Nat) : List (Turn ε α Unit) :=
  source.pulls count source.state

/-- What the first pulls give. -/
def signals (source : Source ε α) (count : Nat) : List (Signal α) :=
  (source.pulled count).map Turn.signal

/-- The source after the first pulls. -/
def since (source : Source ε α) (count : Nat) : Source ε α :=
  source.inState (source.later count source.state)

/-- After a number of pulls in vain comes one that gives something. -/
structure Opens (source : Source ε α) (waits : Nat) (signal : Signal α) : Prop where
  vain : ∀ turn ∈ source.pulled waits, turn.signal = .pending
  given : (source.since waits).next.2.1 = signal

section

variable (source : Source ε α)

theorem length_pulls (count : Nat) (state : source.State) :
    (source.pulls count state).length = count := by
  induction count generalizing state with
  | zero => rfl
  | succ count induction => exact congrArg (· + 1) (induction _)

theorem length_pulled (count : Nat) : (source.pulled count).length = count :=
  source.length_pulls count source.state

theorem pulls_add (first second : Nat) (state : source.State) :
    source.pulls (first + second) state =
      source.pulls first state ++ source.pulls second (source.later first state) := by
  induction first generalizing state with
  | zero => rw [Nat.zero_add]; rfl
  | succ first induction =>
      rw [Nat.succ_add]
      exact congrArg (_ :: ·) (induction _)

theorem later_succ (count : Nat) (state : source.State) :
    source.later (count + 1) state = (source.pull (source.later count state)).next := by
  induction count generalizing state with
  | zero => rfl
  | succ count induction => exact induction _

variable {source} in
theorem pulls_of_pull {state : source.State} {turn : Turn ε α source.State}
    (pull : source.pull state = turn) (count : Nat) :
    source.pulls (count + 1) state = turn.seen :: source.pulls count turn.next := by
  rw [← pull]
  rfl

end

/-- What some pulls from a state on give, pulls in vain left out. -/
def givenBy (source : Source ε α) (count : Nat) (state : source.State) : List (Signal α) :=
  ((source.pulls count state).map Turn.signal).filter Signal.isGiven

section

variable {source : Source ε α} {state : source.State} (count : Nat)

theorem givenBy_of_pending (waits : (source.pull state).signal = .pending) :
    source.givenBy (count + 1) state = source.givenBy count (source.pull state).next := by
  apply List.filter_cons_of_neg
  simp [Turn.seen, Turn.mapState, waits, Signal.isGiven]

theorem givenBy_of_signal {signal : Signal α} (given : (source.pull state).signal = signal)
    (comes : signal ≠ .pending) :
    source.givenBy (count + 1) state = signal :: source.givenBy count (source.pull state).next := by
  subst given
  apply List.filter_cons_of_pos
  show (source.pull state).signal.isGiven = true
  cases given : (source.pull state).signal with
  | pending => exact (comes given).elim
  | _ => rfl

/-- What the pulls of a source have given is what it has shown. -/
theorem shows_givenBy : source.Shows state (source.givenBy count state) := by
  induction count generalizing state with
  | zero => exact .nothing state
  | succ count induction =>
      by_cases waits : (source.pull state).signal = .pending
      · rw [givenBy_of_pending count waits]
        exact .pending waits induction
      · rw [givenBy_of_signal count rfl waits]
        exact .signal rfl waits induction

/-- Whatever a source has shown was given by its first pulls. -/
theorem Shows.exists_pulls {signals : List (Signal α)} (shows : source.Shows state signals) :
    ∃ count, signals = source.givenBy count state := by
  induction shows with
  | nothing state => exact ⟨0, rfl⟩
  | pending waits _ induction =>
      rcases induction with ⟨count, rfl⟩
      exact ⟨count + 1, (givenBy_of_pending count waits).symm⟩
  | signal given comes _ induction =>
      rcases induction with ⟨count, rfl⟩
      exact ⟨count + 1, (givenBy_of_signal count given comes).symm⟩

end

/-- Pulls in vain change nothing in what a source gives. -/
theorem gives_of_vain {source : Source ε α} (count : Nat) {state : source.State} {items : List α}
    (vain : ∀ turn ∈ source.pulls count state, turn.signal = .pending)
    (gives : source.Gives (source.later count state) items) : source.Gives state items := by
  induction count generalizing state with
  | zero => exact gives
  | succ count induction =>
      rw [source.pulls_of_pull rfl, List.forall_mem_cons] at vain
      exact .pending vain.1 (induction vain.2 gives)

/-- A source that answers every pull by a pull of another one has its transcript, rewritten. -/
theorem pulls_of_follows (source : Source ε α) (mimic : Source δ β)
    (embed : source.State → mimic.State) (rewrite : Turn ε α Unit → Turn δ β Unit)
    (seen : ∀ state, (mimic.pull (embed state)).seen = rewrite (source.pull state).seen)
    (next : ∀ state, (mimic.pull (embed state)).next = embed (source.pull state).next)
    (count : Nat) (state : source.State) :
    mimic.pulls count (embed state) = (source.pulls count state).map rewrite := by
  induction count generalizing state with
  | zero => rfl
  | succ count induction =>
      rw [pulls, pulls, List.map_cons, seen, next, induction]

theorem pulls_inState (source : Source ε α) (start : source.State) (count : Nat)
    (state : source.State) :
    @pulls ε α (source.inState start) count state = source.pulls count state := by
  induction count generalizing state with
  | zero => rfl
  | succ count induction => exact congrArg (_ :: ·) (induction _)

theorem pulled_since (source : Source ε α) (first second : Nat) :
    (source.since first).pulled second =
      source.pulls second (source.later first source.state) :=
  source.pulls_inState _ second _

theorem pulled_map (source : Source ε α) (rename : α → β) (count : Nat) :
    (source.map rename).pulled count = (source.pulled count).map (Turn.mapItem rename) :=
  pulls_of_follows source (source.map rename) id _ (fun _ => rfl) (fun _ => rfl) count source.state

theorem pulled_cons (first : α) (rest : Source ε α) (count : Nat) :
    (cons first rest).pulled (count + 1) = ⟨[], .item first, ()⟩ :: rest.pulled count := by
  refine congrArg (_ :: ·) ?_
  have follows := pulls_of_follows rest (cons first rest) (fun state => (true, state)) id
    (fun _ => rfl) (fun _ => rfl) count rest.state
  rwa [List.map_id] at follows

theorem pulled_afterMarks (source : Source ε α) (marks : List ε) (count : Nat) :
    (source.afterMarks marks).pulled count = markFirst marks (source.pulled count) := by
  cases count with
  | zero => rfl
  | succ count =>
      refine congrArg (_ :: ·) ?_
      have follows := pulls_of_follows source (source.afterMarks marks)
        (fun state => (true, state)) id (fun _ => rfl) (fun _ => rfl) count
        (source.pull source.state).next
      rwa [List.map_id] at follows

theorem pulled_failed (error : CallError) (count : Nat) :
    (failed error : Source ε (Outcome α)).pulled (count + 1) =
      ⟨[], .item (.error error), ()⟩ :: List.replicate count ⟨[], .ended, ()⟩ := by
  refine congrArg (_ :: ·) ?_
  induction count with
  | zero => rfl
  | succ count induction => exact congrArg (_ :: ·) induction

/-! ## Guarded sources -/

/-- A transcript from behind an error on: the next item is replaced by the end, after which nothing is
asked any more. -/
def shut : List (Turn ε (Outcome α) Unit) → List (Turn ε (Outcome α) Unit)
  | [] => []
  | turn :: turns =>
    match turn.signal with
    | .item _ => ⟨turn.marks, .ended, ()⟩ :: List.replicate turns.length ⟨[], .ended, ()⟩
    | _ => turn :: shut turns

/-- A transcript that is cut behind its first error. -/
def cut : List (Turn ε (Outcome α) Unit) → List (Turn ε (Outcome α) Unit)
  | [] => []
  | turn :: turns =>
    match turn.signal with
    | .item (.error _) => turn :: shut turns
    | _ => turn :: cut turns

section

variable {turn : Turn ε (Outcome α) Unit} {turns : List (Turn ε (Outcome α) Unit)}

theorem shut_cons_of_item {value : Outcome α} (given : turn.signal = .item value) :
    shut (turn :: turns) =
      ⟨turn.marks, .ended, ()⟩ :: List.replicate turns.length ⟨[], .ended, ()⟩ := by
  rw [shut, given]

theorem shut_cons (bare : ∀ value, turn.signal ≠ .item value) :
    shut (turn :: turns) = turn :: shut turns := by
  rw [shut]
  split
  · exact (bare _ ‹_›).elim
  · rfl

theorem cut_cons_of_error {error : CallError} (given : turn.signal = .item (.error error)) :
    cut (turn :: turns) = turn :: shut turns := by
  rw [cut, given]

theorem cut_cons (sound : ∀ error, turn.signal ≠ .item (.error error)) :
    cut (turn :: turns) = turn :: cut turns := by
  rw [cut]
  split
  · exact (sound _ ‹_›).elim
  · rfl

end

/-- Behind an error a cut transcript has no items. -/
theorem items_shut (turns : List (Turn ε (Outcome α) Unit)) :
    items ((shut turns).map Turn.signal) = [] := by
  induction turns with
  | nil => rfl
  | cons turn turns induction =>
      by_cases comes : ∃ value, turn.signal = .item value
      · rcases comes with ⟨value, given⟩
        rw [shut_cons_of_item given]
        simp [items, Signal.item?]
      · have bare : ∀ value, turn.signal ≠ .item value := fun value given => comes ⟨value, given⟩
        rw [shut_cons bare, List.map_cons]
        cases given : turn.signal with
        | item value => exact (bare value given).elim
        | _ => exact induction

/-- The items of a cut transcript are those up to the first error. -/
theorem items_cut (turns : List (Turn ε (Outcome α) Unit)) :
    items ((cut turns).map Turn.signal) = untilError (items (turns.map Turn.signal)) := by
  induction turns with
  | nil => rfl
  | cons turn turns induction =>
      by_cases fails : ∃ error, turn.signal = .item (.error error)
      · rcases fails with ⟨error, given⟩
        rw [cut_cons_of_error given, List.map_cons, List.map_cons, given]
        show .error error :: items ((shut turns).map Turn.signal) = [.error error]
        rw [items_shut]
      · have sound : ∀ error, turn.signal ≠ .item (.error error) :=
          fun error given => fails ⟨error, given⟩
        rw [cut_cons sound, List.map_cons, List.map_cons]
        cases given : turn.signal with
        | item outcome =>
            cases outcome with
            | error error => exact (sound error given).elim
            | ok value => exact congrArg (.ok value :: ·) induction
        | _ => exact induction

section

variable {source : Source ε (Outcome α)} {state : source.State}

theorem pull_guarded_of_error {error : CallError}
    (given : (source.pull state).signal = .item (.error error)) :
    source.guarded.pull (.open state) = (source.pull state).mapState .failed := by
  simp [guarded, guardedPull, given]

theorem pull_guarded_of_sound
    (sound : ∀ error, (source.pull state).signal ≠ .item (.error error)) :
    source.guarded.pull (.open state) = (source.pull state).mapState .open := by
  simp only [guarded, guardedPull]

theorem pull_guarded_failed_of_item {value : Outcome α}
    (given : (source.pull state).signal = .item value) :
    source.guarded.pull (.failed state) =
      ⟨(source.pull state).marks, .ended, .shut (source.pull state).next⟩ := by
  simp [guarded, guardedPull, given]

theorem pull_guarded_failed_of_bare (bare : ∀ value, (source.pull state).signal ≠ .item value) :
    source.guarded.pull (.failed state) = (source.pull state).mapState .failed := by
  simp only [guarded, guardedPull]

end

theorem pulls_guarded_shut (source : Source ε (Outcome α)) (count : Nat) (state : source.State) :
    source.guarded.pulls count (.shut state) = List.replicate count ⟨[], .ended, ()⟩ := by
  induction count with
  | zero => rfl
  | succ count induction => exact congrArg (_ :: ·) induction

theorem pulls_guarded_failed (source : Source ε (Outcome α)) (count : Nat)
    (state : source.State) :
    source.guarded.pulls count (.failed state) = shut (source.pulls count state) := by
  induction count generalizing state with
  | zero => rfl
  | succ count induction =>
      rw [source.pulls_of_pull rfl]
      by_cases comes : ∃ value, (source.pull state).signal = .item value
      · rcases comes with ⟨value, given⟩
        rw [shut_cons_of_item (show (source.pull state).seen.signal = .item value from given),
          length_pulls]
        exact (pulls_of_pull (pull_guarded_failed_of_item given) count).trans
          (congrArg (_ :: ·) (source.pulls_guarded_shut _ _))
      · have bare : ∀ value, (source.pull state).signal ≠ .item value :=
          fun value given => comes ⟨value, given⟩
        rw [shut_cons bare]
        exact (pulls_of_pull (pull_guarded_failed_of_bare bare) count).trans
          (congrArg (_ :: ·) (induction _))

/-- A guarded source has the transcript of the source, cut behind the first error. -/
theorem pulls_guarded (source : Source ε (Outcome α)) (count : Nat) (state : source.State) :
    source.guarded.pulls count (.open state) = cut (source.pulls count state) := by
  induction count generalizing state with
  | zero => rfl
  | succ count induction =>
      rw [source.pulls_of_pull rfl]
      by_cases fails : ∃ error, (source.pull state).signal = .item (.error error)
      · rcases fails with ⟨error, given⟩
        rw [cut_cons_of_error
          (show (source.pull state).seen.signal = .item (.error error) from given)]
        exact (pulls_of_pull (pull_guarded_of_error given) count).trans
          (congrArg (_ :: ·) (source.pulls_guarded_failed count _))
      · have sound : ∀ error, (source.pull state).signal ≠ .item (.error error) :=
          fun error given => fails ⟨error, given⟩
        rw [cut_cons sound]
        exact (pulls_of_pull (pull_guarded_of_sound sound) count).trans
          (congrArg (_ :: ·) (induction _))

theorem pulled_guarded (source : Source ε (Outcome α)) (count : Nat) :
    source.guarded.pulled count = cut (source.pulled count) :=
  source.pulls_guarded count source.state

/-! ## Openings -/

theorem Opens.first {requests : Source ε α} {waits : Nat} {value : α}
    (opens : requests.Opens waits (.item value)) : requests.Opens waits (.ofFirst (some value)) :=
  opens

theorem Opens.absent {requests : Source ε α} {waits : Nat} (opens : requests.Opens waits .ended) :
    requests.Opens waits (.ofFirst none) :=
  opens

section

variable {requests : Source ε α} (select : Option α → Source ε α → Source ε β) {waits : Nat}

/-- While nothing comes, an opening waits with its source. -/
theorem pulls_opening_of_vain (count : Nat) {state : requests.State}
    (vain : ∀ turn ∈ requests.pulls count state, turn.signal = .pending) :
    (requests.opening select).pulls count (.inl state) =
        (requests.pulls count state).map Turn.vain ∧
      (requests.opening select).later count (.inl state) = .inl (requests.later count state) := by
  induction count generalizing state with
  | zero => exact ⟨rfl, rfl⟩
  | succ count induction =>
      rw [requests.pulls_of_pull rfl, List.forall_mem_cons] at vain
      have pull : (requests.opening select).pull (.inl state) =
          ⟨(requests.pull state).marks, .pending, .inl (requests.pull state).next⟩ := by
        have waits : (requests.pull state).signal = .pending := vain.1
        simp [opening, waits]
      have rest := induction vain.2
      constructor
      · exact (pulls_of_pull pull count).trans (congrArg (_ :: ·) rest.1)
      · exact (congrArg (fun turn => (requests.opening select).later count turn.next) pull).trans
          rest.2

/-- The first item, or the end, makes an opening go on as the source that is selected by it. -/
theorem pull_opening {first : Option α} (state : requests.State)
    (given : (requests.pull state).signal = .ofFirst first) :
    (requests.opening select).pull (.inl state) =
      (((select first (requests.inState (requests.pull state).next)).pull
          (select first (requests.inState (requests.pull state).next)).state).mapState
        fun next => .inr ⟨(first, (requests.pull state).next), next⟩).after
          (requests.pull state).marks := by
  cases first <;> simp only [Signal.ofFirst] at given <;> simp only [opening, given]

/-- With its first pull that is not in vain an opening has the transcript of the source that is
selected. -/
theorem pulls_opening {first : Option α} (state : requests.State)
    (given : (requests.pull state).signal = .ofFirst first) (count : Nat) :
    (requests.opening select).pulls count (.inl state) =
      markFirst (requests.pull state).marks
        ((select first (requests.inState (requests.pull state).next)).pulled count) := by
  cases count with
  | zero => rfl
  | succ count =>
      have follows := pulls_of_follows
        (select first (requests.inState (requests.pull state).next)) (requests.opening select)
        (fun next => .inr ⟨(first, (requests.pull state).next), next⟩) id
        (fun _ => rfl) (fun _ => rfl) count
      refine (pulls_of_pull (pull_opening select state given) count).trans ?_
      exact congrArg (_ :: ·) ((follows _).trans (List.map_id _))

/-- The transcript of an opening. -/
theorem pulled_opening {first : Option α} (opens : requests.Opens waits (.ofFirst first))
    (count : Nat) :
    (requests.opening select).pulled (waits + count) =
      (requests.pulled waits).map Turn.vain ++
        markFirst (requests.since waits).next.1
          ((select first (requests.since (waits + 1))).pulled count) := by
  have early := pulls_opening_of_vain select waits opens.vain
  have late := pulls_opening select (requests.later waits requests.state) opens.given count
  rw [pulled, pulls_add, since, since, later_succ]
  refine congrArg₂ (· ++ ·) early.1 ?_
  exact (congrArg ((requests.opening select).pulls count) early.2).trans late

theorem yields_opening {first : Option α} (opens : requests.Opens waits (.ofFirst first))
    {items : List β} (yields : (select first (requests.since (waits + 1))).Yields items) :
    (requests.opening select).Yields items := by
  have early := pulls_opening_of_vain select waits opens.vain
  refine gives_of_vain waits ?_ ?_
  · intro turn member
    rcases List.mem_map.mp (early.1 ▸ member) with ⟨original, -, rfl⟩
    rfl
  · have goesOn : (requests.opening select).Gives
        (.inl (requests.later waits requests.state)) items := by
      rw [since, later_succ] at yields
      have pull := pull_opening select (requests.later waits requests.state) opens.given
      refine yields.of_pull (congrArg Turn.signal pull) fun later gives => ?_
      exact (congrArg Turn.next pull) ▸
        (mimics_opening requests select (first, _)).gives_same gives
    exact early.2 ▸ goesOn

end

/-! ## Sources that are given again -/

section

variable {source : Source ε α}

theorem shows_of_vain (count : Nat) {state : source.State} {signals : List (Signal α)}
    (vain : ∀ turn ∈ source.pulls count state, turn.signal = .pending)
    (shows : source.Shows (source.later count state) signals) : source.Shows state signals := by
  induction count generalizing state with
  | zero => exact shows
  | succ count induction =>
      rw [source.pulls_of_pull rfl, List.forall_mem_cons] at vain
      exact .pending vain.1 (induction vain.2 shows)

/-- Behind pulls in vain a source still gives all. -/
theorem Gives.later_of_vain (count : Nat) {state : source.State} {items : List α}
    (gives : source.Gives state items)
    (vain : ∀ turn ∈ source.pulls count state, turn.signal = .pending) :
    source.Gives (source.later count state) items := by
  induction count generalizing state with
  | zero => exact gives
  | succ count induction =>
      rw [source.pulls_of_pull rfl, List.forall_mem_cons] at vain
      cases gives with
      | ended ends => exact nomatch ends.symm.trans vain.1
      | item comes _ => exact nomatch comes.symm.trans vain.1
      | pending _ gives => exact induction gives vain.2

variable {waits : Nat} {first : α}

/-- A source whose first item was taken and put in front again gives what it would have given. -/
theorem signals_replayed (opens : source.Opens waits (.item first)) (count : Nat) :
    (cons first (source.since (waits + 1))).signals count =
      (source.since waits).signals count := by
  cases count with
  | zero => rfl
  | succ count =>
      rw [signals, signals, pulled_cons, pulled_since, pulled_since, source.pulls_of_pull rfl,
        later_succ]
      exact congrArg (· :: _) opens.given.symm

/-- Whatever its pulls have given from the first item on, the source has shown. -/
theorem Opens.hasShown (opens : source.Opens waits (.item first)) (count : Nat) :
    source.HasShown (((source.since waits).signals count).filter Signal.isGiven) := by
  rw [signals, pulled_since]
  exact shows_of_vain waits opens.vain (shows_givenBy count)

/-- All that a source yields comes with its first item or later. -/
theorem Opens.yields_rest (opens : source.Opens waits (.item first)) {items : List α}
    (yields : source.Yields items) :
    ∃ rest, items = first :: rest ∧ (source.since (waits + 1)).Yields rest := by
  have later := yields.later_of_vain waits opens.vain
  have given : (source.pull (source.later waits source.state)).signal = .item first := opens.given
  cases later with
  | ended ends => exact nomatch ends.symm.trans given
  | pending waits _ => exact nomatch waits.symm.trans given
  | item comes rest =>
      cases comes.symm.trans given
      rw [← later_succ] at rest
      refine ⟨_, rfl, ?_⟩
      exact (mimics_inState source (source.later (waits + 1) source.state)).gives_same rest

theorem yields_replayed (opens : source.Opens waits (.item first)) {items : List α}
    (yields : source.Yields items) : (cons first (source.since (waits + 1))).Yields items := by
  rcases opens.yields_rest yields with ⟨rest, rfl, gives⟩
  exact yields_cons first gives

end

end Source

end ServiceMesh
