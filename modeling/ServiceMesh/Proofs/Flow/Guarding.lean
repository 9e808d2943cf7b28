import Mathlib.Data.Nat.Find
import Mathlib.Data.Nat.Init
import ServiceMesh.Proofs.Flow.Pulls
import ServiceMesh.Stub

/-!
# What a guarded source asks for

A guarded source gives no item after an error, but it does not end by itself: the pull after the
error still asks the source, gives the end only if the source has an item or its end, and waits as
long as the source waits.  The item is lost.  `AsksOn` is the exact law, and the pulls of the source
are counted in its state (`counted`).

So a stream ends at once after its errors (`EndsAtOnce`) only if it gives none.  This holds for the
typed stubs as well, whose streams are guarded readings of the responses.  The main statement is
`errors_end_at_once_iff`.
-/

namespace ServiceMesh

variable {ε α β : Type}

/-- The signal of a pull behind an error: the end stands in place of items. -/
def Signal.bare : Signal α → Signal α
  | .item _ => .ended
  | other => other

theorem Signal.bare_ne_item (signal : Signal α) (value : α) : signal.bare ≠ .item value := by
  cases signal <;> exact nofun

namespace Source

/-- What the pull of a number gives; the first pull has number zero. -/
def signalAt (source : Source ε α) (number : Nat) : Signal α :=
  (source.pull (source.later number source.state)).signal

/-- The source with its pulls counted. -/
def counted (source : Source ε α) : Source ε α where
  State := source.State × Nat
  state := (source.state, 0)
  pull state := (source.pull state.1).mapState fun next => (next, state.2 + 1)
  abandoned state := source.abandoned state.1

/-- How often a source has been asked when it was pulled some times through its guard. -/
def asked (source : Source ε (Outcome α)) (count : Nat) : Nat :=
  (source.counted.guarded.later count source.counted.guarded.state).inner.2

/-- After an error the very next pull through the guard gives the end, and the source is not asked
again. -/
structure EndsAtOnce (source : Source ε (Outcome α)) : Prop where
  next : ∀ number error, source.guarded.signalAt number = .item (.error error) →
    source.guarded.signalAt (number + 1) = .ended
  unasked : ∀ number error, source.guarded.signalAt number = .item (.error error) →
    ∀ count, number < count → source.asked count = source.asked (number + 1)

/-- No error is given before the pull of a number. -/
def SoundBefore (source : Source ε (Outcome α)) (number : Nat) : Prop :=
  ∀ earlier < number, ∀ error, source.signalAt earlier ≠ .item (.error error)

/-- No item is given between the pulls of two numbers. -/
def BareBetween (source : Source ε (Outcome α)) (first last : Nat) : Prop :=
  ∀ between, first < between → between < last → ∀ outcome,
    source.signalAt between ≠ .item outcome

theorem bareBetween_succ (source : Source ε (Outcome α)) (number : Nat) :
    source.BareBetween number (number + 1) :=
  fun _ after before => absurd (Nat.lt_succ_iff.mp before) (Nat.not_le.mpr after)

/-- Behind the pull of a number a source is asked at each pull through its guard, up to its next
item, in whose place the end is given. -/
structure AsksOn (source : Source ε (Outcome α)) (number : Nat) : Prop where
  asks : ∀ later, number < later → source.BareBetween number later →
    source.asked (later + 1) = source.asked later + 1 ∧
      source.guarded.signalAt later = (source.signalAt later).bare
  rests : ∀ stop later outcome, number < stop → stop < later →
    source.signalAt stop = .item outcome →
    source.asked (later + 1) = source.asked later ∧ source.guarded.signalAt later = .ended

/-! ## Counting -/

section

variable (source : Source ε (Outcome α))

theorem later_counted (count : Nat) :
    source.counted.later count source.counted.state = (source.later count source.state, count) := by
  induction count with
  | zero => rfl
  | succ count induction =>
      rw [later_succ, later_succ, induction]
      rfl

theorem signalAt_counted (number : Nat) :
    source.counted.signalAt number = source.signalAt number := by
  rw [signalAt, later_counted]
  rfl

end

/-! ## The states of a guarded source -/

section

variable {source : Source ε (Outcome α)} {number count : Nat}

theorem later_guarded_open (sound : source.SoundBefore number) :
    source.guarded.later number source.guarded.state =
      .open (source.later number source.state) := by
  induction number with
  | zero => rfl
  | succ number induction =>
      have before := induction fun earlier less => sound earlier (Nat.lt_succ_of_lt less)
      rw [later_succ, before, pull_guarded_of_sound (sound number (Nat.lt_succ_self number)),
        later_succ]
      rfl

variable {error : CallError} (sound : source.SoundBefore number)
  (fails : source.signalAt number = .item (.error error))

include sound fails

theorem later_guarded_failed (behind : number < count) (bare : source.BareBetween number count) :
    source.guarded.later count source.guarded.state =
      .failed (source.later count source.state) := by
  induction count, behind using Nat.le_induction with
  | base =>
      rw [later_succ, later_guarded_open sound, pull_guarded_of_error fails, later_succ]
      rfl
  | succ count behind induction =>
      have before := induction fun between after less =>
        bare between after (Nat.lt_succ_of_lt less)
      rw [later_succ, before,
        pull_guarded_failed_of_bare (bare count behind (Nat.lt_succ_self count)), later_succ]
      rfl

theorem later_guarded_shut {stop : Nat} {outcome : Outcome α} (behind : number < stop)
    (bare : source.BareBetween number stop) (comes : source.signalAt stop = .item outcome)
    (later : stop < count) :
    source.guarded.later count source.guarded.state =
      .shut (source.later (stop + 1) source.state) := by
  induction count, later using Nat.le_induction with
  | base =>
      rw [later_succ, later_guarded_failed sound fails behind bare,
        pull_guarded_failed_of_item comes, later_succ]
  | succ count later induction =>
      rw [later_succ, induction]
      rfl

end

/-! ## What is given and asked -/

section

variable {source : Source ε (Outcome α)} {number count : Nat}

theorem signalAt_guarded_of_sound
    (sound : source.SoundBefore number) :
    source.guarded.signalAt number = source.signalAt number := by
  rw [signalAt, later_guarded_open sound]
  by_cases fails : ∃ error, source.signalAt number = .item (.error error)
  · rcases fails with ⟨error, given⟩
    rw [pull_guarded_of_error given]
    rfl
  · rw [pull_guarded_of_sound fun error given => fails ⟨error, given⟩]
    rfl

theorem asked_eq {state : GuardState (source.State × Nat)}
    (later : source.counted.guarded.later count source.counted.guarded.state = state) :
    source.asked count = state.inner.2 :=
  congrArg (·.inner.2) later

variable {error : CallError} (sound : source.SoundBefore number)
  (fails : source.signalAt number = .item (.error error))

include sound fails

theorem asked_of_bare (behind : number < count) (bare : source.BareBetween number count) :
    source.asked count = count := by
  simp only [SoundBefore, BareBetween, ← source.signalAt_counted] at sound fails bare
  rw [asked_eq (later_guarded_failed sound fails behind bare), later_counted]
  rfl

theorem asked_of_item {stop : Nat} {outcome : Outcome α} (behind : number < stop)
    (bare : source.BareBetween number stop) (comes : source.signalAt stop = .item outcome)
    (later : stop < count) : source.asked count = stop + 1 := by
  simp only [SoundBefore, BareBetween, ← source.signalAt_counted] at sound fails bare comes
  rw [asked_eq (later_guarded_shut sound fails behind bare comes later), later_counted]
  rfl

theorem signalAt_guarded_of_bare (behind : number < count)
    (bare : source.BareBetween number count) :
    source.guarded.signalAt count = (source.signalAt count).bare := by
  rw [signalAt, later_guarded_failed sound fails behind bare]
  by_cases comes : ∃ outcome, source.signalAt count = .item outcome
  · rcases comes with ⟨outcome, given⟩
    rw [pull_guarded_failed_of_item given, given]
    rfl
  · have none_ : ∀ outcome, source.signalAt count ≠ .item outcome :=
      fun outcome given => comes ⟨outcome, given⟩
    rw [pull_guarded_failed_of_bare none_]
    change source.signalAt count = (source.signalAt count).bare
    cases given : source.signalAt count with
    | item outcome => exact (none_ outcome given).elim
    | pending => rfl
    | ended => rfl
    | crashed cause => rfl

/-- What happens behind the first error. -/
theorem asksOn_of_first : source.AsksOn number where
  asks later behind bare := by
    refine ⟨?_, signalAt_guarded_of_bare sound fails behind bare⟩
    by_cases comes : ∃ outcome, source.signalAt later = .item outcome
    · rcases comes with ⟨outcome, given⟩
      rw [asked_of_item sound fails behind bare given (Nat.lt_succ_self later),
        asked_of_bare sound fails behind bare]
    · have still : source.BareBetween number (later + 1) := by
        intro between after less outcome given
        rcases Nat.lt_succ_iff_lt_or_eq.mp less with before | rfl
        · exact bare between after before outcome given
        · exact comes ⟨outcome, given⟩
      rw [asked_of_bare sound fails behind bare,
        asked_of_bare sound fails (Nat.lt_succ_of_lt behind) still]
  rests stop later outcome behind after comes := by
    -- The item at `stop` need not be the first one behind the error.
    have some_ : ∃ stop, number < stop ∧ ∃ outcome, source.signalAt stop = .item outcome :=
      ⟨stop, behind, outcome, comes⟩
    classical
    rcases Nat.find_spec some_ with ⟨follows, first, given⟩
    have bare : source.BareBetween number (Nat.find some_) := by
      intro between after less outcome given
      exact Nat.find_min some_ less ⟨after, outcome, given⟩
    have before : Nat.find some_ < later :=
      Nat.lt_of_le_of_lt (Nat.find_le ⟨behind, outcome, comes⟩) after
    constructor
    · rw [asked_of_item sound fails follows bare given before,
        asked_of_item sound fails follows bare given (Nat.lt_succ_of_lt before)]
    · rw [signalAt, later_guarded_shut sound fails follows bare given before]
      rfl

end

section

variable {source : Source ε (Outcome α)} {number : Nat}

theorem AsksOn.no_item (asks : source.AsksOn number) {later : Nat} (behind : number < later)
    (outcome : Outcome α) : source.guarded.signalAt later ≠ .item outcome := by
  by_cases comes : ∃ stop outcome, number < stop ∧ stop < later ∧
      source.signalAt stop = .item outcome
  · rcases comes with ⟨stop, other, after, before, given⟩
    rw [(asks.rests stop later other after before given).2]
    exact nofun
  · rw [(asks.asks later behind fun stop after before other given =>
      comes ⟨stop, other, after, before, given⟩).2]
    exact Signal.bare_ne_item _ _

/-- A source that gives an error gives a first one. -/
theorem exists_first_error (fails : ∃ error, source.signalAt number = .item (.error error)) :
    ∃ first ≤ number, (∃ error, source.signalAt first = .item (.error error)) ∧
      source.SoundBefore first := by
  have some_ : ∃ number error, source.signalAt number = .item (.error error) := ⟨number, fails⟩
  classical
  exact ⟨Nat.find some_, Nat.find_le fails, Nat.find_spec some_,
    fun earlier less error given => Nat.find_min some_ less ⟨error, given⟩⟩

/-- The error that comes through the guard is the first one. -/
theorem first_of_guarded {error : CallError}
    (given : source.guarded.signalAt number = .item (.error error)) :
    source.signalAt number = .item (.error error) ∧ source.SoundBefore number := by
  have sound : source.SoundBefore number := by
    intro earlier less other fails
    rcases exists_first_error ⟨other, fails⟩ with ⟨first, early, ⟨reason, at_first⟩, before⟩
    exact (asksOn_of_first before at_first).no_item (Nat.lt_of_le_of_lt early less) _ given
  exact ⟨(signalAt_guarded_of_sound sound).symm.trans given, sound⟩

theorem endsAtOnce_iff :
    source.EndsAtOnce ↔ ∀ number error, source.signalAt number ≠ .item (.error error) := by
  constructor
  · intro ends number error fails
    rcases exists_first_error ⟨error, fails⟩ with ⟨first, -, ⟨reason, at_first⟩, sound⟩
    have given := (signalAt_guarded_of_sound sound).trans at_first
    -- The pull behind the error asks the source, whatever comes of it.
    have again := ((asksOn_of_first sound at_first).asks (first + 1) (Nat.lt_succ_self first)
      (source.bareBetween_succ first)).1
    have unasked := ends.unasked first reason given (first + 2) (by omega)
    exact Nat.succ_ne_self _ (again.symm.trans unasked)
  · intro sound
    constructor
    · intro number error given
      exact absurd (first_of_guarded given).1 (sound number error)
    · intro number error given
      exact absurd (first_of_guarded given).1 (sound number error)

end

theorem signalAt_map (source : Source ε α) (rename : α → β) (number : Nat) :
    (source.map rename).signalAt number = (source.signalAt number).map rename := by
  have later (count : Nat) (state : source.State) :
      (source.map rename).later count state = source.later count state := by
    induction count generalizing state with
    | zero => rfl
    | succ count induction => exact induction _
  rw [signalAt, show (source.map rename).state = source.state from rfl, later]
  rfl

/-- Readings of items end at once just if every item can be read. -/
theorem endsAtOnce_mapOutcome_iff (source : Source ε (Outcome α)) (read : α → Outcome β) :
    (source.mapOutcome read).EndsAtOnce ↔ ∀ number outcome,
      source.signalAt number = .item outcome → ∃ value, outcome.bind read = .ok value := by
  have signal := source.signalAt_map fun item => item.bind read
  rw [endsAtOnce_iff]
  constructor
  · intro sound number outcome given
    cases result : outcome.bind read with
    | ok value => exact ⟨value, rfl⟩
    | error error =>
        refine absurd ?_ (sound number error)
        rw [mapOutcome, signal, given, Signal.map, result]
  · intro reads number error given
    rw [mapOutcome, signal] at given
    cases present : source.signalAt number with
    | item outcome =>
        rcases reads number outcome present with ⟨value, result⟩
        rw [present, Signal.map, result] at given
        cases given
    | pending =>
        rw [present] at given
        cases given
    | ended =>
        rw [present] at given
        cases given
    | crashed cause =>
        rw [present] at given
        cases given

end Source

/-! ## The streams of typed stubs -/

/-- Responses as values of a type. -/
def Source.readings {ε : Type} (β : Type) [Wire β] (codecs : CodecRegistry)
    (responses : Source ε (Outcome Message)) : Source ε (Outcome β) :=
  responses.mapOutcome fun response => response.decodeData β codecs

/-- A stream gives the readings of responses behind a guard, and it ends at once after its errors
just if every response can be read. -/
structure ReadsResponses {ε β : Type} [Wire β] (codecs : CodecRegistry)
    (responses : Source ε (Outcome Message)) (stream : Source ε (Outcome β)) : Prop where
  guarded : stream = (responses.readings β codecs).guarded
  endsAtOnce_iff : (responses.readings β codecs).EndsAtOnce ↔
    ∀ number outcome, responses.signalAt number = .item outcome →
      ∃ value : β, outcome.bind (fun response => response.decodeData β codecs) = .ok value

/-- The streams that a typed stub gives once it has started a call. -/
structure TypedStub.EndsWithReading {ε χ ω : Type} (stub : TypedStub) (call : ServiceCall ε χ ω)
    (β : Type) [Wire β] : Prop where
  stream : ∀ {γ : Type} [Wire γ] (request : γ) (message : Message),
    stub.binding.mode = .requestStream → stub.message request = .ok message →
    ReadsResponses call.codecs (call.requestStream message).2 (stub.stream call β request).2
  channel : ∀ {γ : Type} [Wire γ] (freshId : String) (first : Option γ) (others : Source ε γ),
    stub.binding.mode = .requestChannel →
    ReadsResponses call.codecs
      (call.openChannel freshId (first.map stub.message) (others.map stub.message)).2
      (stub.channel call β freshId first others).2

theorem TypedStub.endsWithReading {ε χ ω : Type} (stub : TypedStub) (call : ServiceCall ε χ ω)
    (β : Type) [Wire β] : stub.EndsWithReading call β where
  stream request message fits written := by
    have checked : stub.binding.checkMode .requestStream = .ok () := if_pos fits
    refine ⟨?_, Source.endsAtOnce_mapOutcome_iff _ _⟩
    rw [TypedStub.stream, checked, written]
    rfl
  channel freshId first others fits := by
    have checked : stub.binding.checkMode .requestChannel = .ok () := if_pos fits
    refine ⟨?_, Source.endsAtOnce_mapOutcome_iff _ _⟩
    rw [TypedStub.channel, checked]
    rfl

/--
A stream ends at once after its errors just if it gives none.  Behind an error the source is asked
on until it has one more item, which is lost.  The streams of typed stubs end at once just if every
response can be read.
-/
theorem errors_end_at_once_iff {ε α : Type} (source : Source ε (Outcome α)) :
    (source.EndsAtOnce ↔ ∀ number error, source.signalAt number ≠ .item (.error error)) ∧
      (∀ number error, source.guarded.signalAt number = .item (.error error) →
        source.AsksOn number) ∧
      ∀ {χ ω β : Type} [Wire β] (stub : TypedStub) (call : ServiceCall ε χ ω),
        stub.EndsWithReading call β := by
  refine ⟨Source.endsAtOnce_iff, ?_, fun stub call => stub.endsWithReading call _⟩
  intro number error given
  rcases Source.first_of_guarded given with ⟨fails, sound⟩
  exact Source.asksOn_of_first sound fails

/-- Gives one error and nothing more, not even an end. -/
def stalledFailure : Source String (Outcome Nat) :=
  .unfold true fun fresh =>
    if fresh then ⟨[], .item (.error (.internal "boom")), false⟩ else ⟨[], .pending, false⟩

/-- After the error the source is asked once more, and nothing comes. -/
theorem stalledFailure_asked_again :
    stalledFailure.guarded.signalAt 0 = .item (.error (.internal "boom")) ∧
      stalledFailure.asked 2 = stalledFailure.asked 1 + 1 ∧
      stalledFailure.guarded.signalAt 1 = .pending := by
  have fails : stalledFailure.guarded.signalAt 0 = .item (.error (.internal "boom")) := rfl
  have behind := ((errors_end_at_once_iff stalledFailure).2.1 0 _ fails).asks 1 (by decide)
    (stalledFailure.bareBetween_succ 0)
  exact ⟨fails, behind⟩

/-- A stream need not end after its error. -/
theorem stalledFailure_hangs : ¬ stalledFailure.EndsAtOnce := by
  intro ends
  cases ends.next 0 (.internal "boom") rfl

end ServiceMesh
