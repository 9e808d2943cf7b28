import Mathlib.Data.List.Induction
import Mathlib.Tactic.ByContra
import ServiceMesh.Cache.Session

/-!
# Entries of the connection cache

What an event does to the entry of an address: it keeps it, removes it, or adds one with a generation
that was never in use (`generation?_handle_of_some`, `generation?_handle_of_none`).  An entry that an
attempt, a channel or a close signal removes is one of just this attempt, channel or connection.  From
these steps it follows what holds after any events: every entry stands under the address of its
attempt, no entry is left of an attempt that has failed (`Sound`), a generation whose entry is gone
never comes back (`Gone`), and attempts are only added and keep their outcome (`Grows`).
-/

namespace ServiceMesh.Cache

variable {χ : Type}

/-- Attempts are only added; they keep their address, and their outcome once they have one. -/
def Grows (first second : Cache χ) : Prop :=
  ∀ (generation : Nat) attempt, first.attempts[generation]? = some attempt →
    ∃ later, second.attempts[generation]? = some later ∧ later.address = attempt.address ∧
      ∀ outcome, attempt.outcome = some outcome → later.outcome = some outcome

/-- The entries of a cache are of attempts to connect to their addresses, and of none that has
failed. -/
structure Sound (cache : Cache χ) : Prop where
  owner : ∀ address generation, cache.generation? address = some generation →
    (cache.attempts[generation]?).map Attempt.address = some address
  alive : ∀ address generation error, cache.generation? address = some generation →
    cache.outcome? generation ≠ some (.error error)

/-- A generation was in use and has no entry any more. -/
structure Gone (cache : Cache χ) (generation : Nat) : Prop where
  used : generation < cache.attempts.length
  absent : ∀ address, cache.generation? address ≠ some generation

section

variable {cache : Cache χ} {address other : Address} {generation : Nat}

theorem Grows.refl (cache : Cache χ) : Grows cache cache :=
  fun _ attempt present => ⟨attempt, present, rfl, fun _ ended => ended⟩

theorem Grows.trans {first second third : Cache χ} (left : Grows first second)
    (right : Grows second third) : Grows first third := by
  intro generation attempt present
  rcases left generation attempt present with ⟨middle, atMiddle, address, keeps⟩
  rcases right generation middle atMiddle with ⟨last, atLast, address', keeps'⟩
  exact ⟨last, atLast, address'.trans address, fun outcome ended => keeps' _ (keeps _ ended)⟩

theorem Grows.length_le {first second : Cache χ} (grows : Grows first second) :
    first.attempts.length ≤ second.attempts.length := by
  by_contra shrunk
  have last : first.attempts[second.attempts.length]? =
      some first.attempts[second.attempts.length] := List.getElem?_eq_getElem _
  rcases grows _ _ last with ⟨later, present, _⟩
  exact Nat.lt_irrefl _ (List.getElem?_eq_some_iff.mp present).1

theorem Grows.outcome? {first second : Cache χ} (grows : Grows first second)
    {outcome : Outcome χ} (ended : first.outcome? generation = some outcome) :
    second.outcome? generation = some outcome := by
  rcases Option.bind_eq_some_iff.mp ended with ⟨attempt, present, result⟩
  rcases grows generation attempt present with ⟨later, atLater, _, keeps⟩
  rw [Cache.outcome?, atLater]
  exact keeps outcome result

theorem Grows.owner {first second : Cache χ} (grows : Grows first second)
    (own : (first.attempts[generation]?).map Attempt.address = some address) :
    (second.attempts[generation]?).map Attempt.address = some address := by
  rcases Option.map_eq_some_iff.mp own with ⟨attempt, present, same⟩
  rcases grows generation attempt present with ⟨later, atLater, keeps, _⟩
  rw [atLater, Option.map_some, keeps, same]

/-! ## The operations -/

theorem sound_empty : Sound (empty : Cache χ) :=
  ⟨nofun, nofun⟩

@[simp]
theorem generation?_evict (cache : Cache χ) (address other : Address) :
    (cache.evict address).generation? other =
      if other = address then none else cache.generation? other := by
  rw [generation?, evict, Table.find?_remove]
  rfl

theorem join_of_some (found : cache.generation? address = some generation) :
    cache.join address = ⟨generation, false, cache⟩ := by
  rw [join, found]

theorem join_of_none (absent : cache.generation? address = none) :
    cache.join address = ⟨cache.attempts.length, true,
      ⟨cache.entries.put address cache.attempts.length, cache.attempts ++ [⟨address, none⟩]⟩⟩ := by
  rw [join, absent]

theorem generation?_join (cache : Cache χ) (address other : Address) :
    (cache.join address).cache.generation? other =
      if other = address then some (cache.join address).generation
      else cache.generation? other := by
  cases found : cache.generation? address with
  | some generation =>
      rw [join_of_some found]
      split
      · rename_i same
        rw [same, found]
      · rfl
  | none =>
      rw [join_of_none found]
      exact Table.find?_put _ _ _ _

theorem Sound.used (sound : Sound cache) (found : cache.generation? address = some generation) :
    ∃ attempt, cache.attempts[generation]? = some attempt ∧ attempt.address = address :=
  Option.map_eq_some_iff.mp (sound.owner address generation found)

theorem Sound.lt (sound : Sound cache) (found : cache.generation? address = some generation) :
    generation < cache.attempts.length := by
  rcases sound.used found with ⟨attempt, present, _⟩
  exact (List.getElem?_eq_some_iff.mp present).1

/-- An attempt belongs to one address. -/
theorem Sound.address_unique (sound : Sound cache)
    (found : cache.generation? address = some generation)
    (again : cache.generation? other = some generation) : other = address := by
  have first := sound.owner address generation found
  rw [sound.owner other generation again, Option.some.injEq] at first
  exact first

theorem attempts_removeGeneration (cache : Cache χ) (generation : Nat) :
    (cache.removeGeneration generation).attempts = cache.attempts := by
  rw [removeGeneration]
  repeat' split
  all_goals rfl

/-- Only an entry of the generation itself is removed. -/
theorem generation?_removeGeneration
    (owner : ∀ address, cache.generation? address = some generation →
      (cache.attempts[generation]?).map Attempt.address = some address) (other : Address) :
    (cache.removeGeneration generation).generation? other =
      if cache.generation? other = some generation then none else cache.generation? other := by
  rw [removeGeneration]
  split
  · rename_i attempt present
    have own (found : cache.generation? other = some generation) : other = attempt.address := by
      have address := owner other found
      rw [present, Option.map_some, Option.some.injEq] at address
      exact address.symm
    split
    · rename_i found
      rw [generation?_evict]
      by_cases same : other = attempt.address
      · rw [if_pos same, same, if_pos found]
      · rw [if_neg same, if_neg (same ∘ own)]
    · rename_i missing
      rw [if_neg]
      intro found
      exact missing (own found ▸ found)
  · rename_i unknown
    rw [if_neg]
    intro found
    have address := owner other found
    rw [unknown] at address
    cases address

theorem generation?_removeGeneration_of_some
    (owner : ∀ address, cache.generation? address = some generation →
      (cache.attempts[generation]?).map Attempt.address = some address) {number : Nat}
    (found : cache.generation? address = some number) :
    (cache.removeGeneration generation).generation? address =
      if generation = number then none else some number := by
  rw [generation?_removeGeneration owner, found]
  simp only [Option.some.injEq, eq_comm]

theorem generation?_removeGeneration_of_none
    (owner : ∀ address, cache.generation? address = some generation →
      (cache.attempts[generation]?).map Attempt.address = some address)
    (absent : cache.generation? address = none) :
    (cache.removeGeneration generation).generation? address = none := by
  rw [generation?_removeGeneration owner, absent, ite_self]

theorem lt_of_outcome? {outcome : Outcome χ} (ended : cache.outcome? generation = some outcome) :
    generation < cache.attempts.length := by
  rcases Option.bind_eq_some_iff.mp ended with ⟨attempt, present, _⟩
  exact (List.getElem?_eq_some_iff.mp present).1

/-- The cache with what came of an attempt written down. -/
def recorded (cache : Cache χ) (generation : Nat) (attempt : Attempt χ) : Cache χ :=
  { cache with attempts := cache.attempts.set generation attempt }

/-- Only an attempt that is still open is settled. -/
theorem settle_cases (cache : Cache χ) (generation : Nat) (outcome : Outcome χ) :
    (cache.isOpen generation = false ∧ cache.settle generation outcome = cache) ∨
      ∃ address, cache.isOpen generation = true ∧
        cache.attempts[generation]? = some ⟨address, none⟩ ∧
          cache.settle generation outcome =
            match outcome with
            | .ok _ => cache.recorded generation ⟨address, some outcome⟩
            | .error _ =>
              (cache.recorded generation ⟨address, some outcome⟩).removeGeneration generation := by
  cases present : cache.attempts[generation]? with
  | none => exact .inl (by simp [isOpen, settle, present])
  | some attempt =>
      rcases attempt with ⟨address, _ | former⟩
      · exact .inr ⟨address, by simp [isOpen, present], rfl, by rw [settle, present]; rfl⟩
      · exact .inl (by simp [isOpen, settle, present])

/-- An attempt that is open ends as it is settled. -/
theorem outcome?_settle (isOpen : cache.isOpen generation = true) (outcome : Outcome χ) :
    (cache.settle generation outcome).outcome? generation = some outcome := by
  rcases settle_cases cache generation outcome with ⟨ended, _⟩ | ⟨address, _, present, equal⟩
  · cases ended.symm.trans isOpen
  · have inside := (List.getElem?_eq_some_iff.mp present).1
    have written : (cache.recorded generation ⟨address, some outcome⟩).outcome? generation =
        some outcome := by
      rw [outcome?, recorded, List.getElem?_set_self inside]
      rfl
    rw [equal]
    cases outcome with
    | ok channel => exact written
    | error error =>
        rw [outcome?, attempts_removeGeneration]
        exact written

theorem address_recorded {later : Attempt χ}
    (present : cache.attempts[generation]? = some ⟨later.address, none⟩) (number : Nat) :
    ((cache.recorded generation later).attempts[number]?).map Attempt.address =
      (cache.attempts[number]?).map Attempt.address := by
  have inside := (List.getElem?_eq_some_iff.mp present).1
  simp only [recorded, List.getElem?_set, if_pos inside]
  split
  · rename_i same
    rw [← same, present]
    rfl
  · rfl

/-- Only a connection that was made can close. -/
theorem closed_cases (cache : Cache χ) (generation : Nat) :
    (∃ channel, cache.outcome? generation = some (.ok channel) ∧
        cache.closed generation = cache.removeGeneration generation) ∨
      ((∀ channel, cache.outcome? generation ≠ some (.ok channel)) ∧
        cache.closed generation = cache) := by
  cases ended : cache.outcome? generation with
  | none => exact .inr ⟨nofun, by rw [closed, ended]⟩
  | some outcome =>
      cases outcome with
      | ok channel => exact .inl ⟨channel, rfl, by rw [closed, ended]⟩
      | error error => exact .inr ⟨nofun, by rw [closed, ended]⟩

theorem holds_iff [DecidableEq χ] {channel : χ} :
    cache.holds address channel = true ↔
      ∃ generation, cache.generation? address = some generation ∧
        cache.outcome? generation = some (.ok channel) := by
  rw [holds]
  cases found : cache.generation? address with
  | none => simp
  | some generation =>
      simp only [Option.bind_some, Option.some.injEq, exists_eq_left']
      cases ended : cache.outcome? generation with
      | none => simp
      | some outcome => cases outcome <;> simp

theorem Sound.owner_recorded (sound : Sound cache) (later : Attempt χ)
    (present : cache.attempts[generation]? = some ⟨later.address, none⟩) (address : Address)
    (found : (cache.recorded generation later).generation? address = some generation) :
    ((cache.recorded generation later).attempts[generation]?).map Attempt.address = some address :=
  (address_recorded present generation).trans (sound.owner address generation found)

/-! ## One event -/

/-- An event removes the entry of an address, which is of a given generation: the attempt of this
generation fails, or its connection is found to have closed; the address is evicted, or the channel
that this attempt has made; or everything is cleared. -/
def Removes (cache : Cache χ) (address : Address) (generation : Nat) : Event χ → Prop
  | .settle other outcome =>
    other = generation ∧ cache.isOpen generation = true ∧ ∃ error, outcome = .error error
  | .close other => other = generation ∧ ∃ channel, cache.outcome? generation = some (.ok channel)
  | .evict other => other = address
  | .evictChannel other channel =>
    other = address ∧ cache.outcome? generation = some (.ok channel)
  | .clear => True
  | .create _ | .wake _ => False

variable [DecidableEq χ]

/-- An entry is kept, or removed for a reason; it is never replaced. -/
theorem generation?_handle_of_some (sound : Sound cache)
    (found : cache.generation? address = some generation) (event : Event χ) :
    (Removes cache address generation event ∧ (cache.handle event).generation? address = none) ∨
      (¬ Removes cache address generation event ∧
        (cache.handle event).generation? address = some generation) := by
  cases event with
  | create other =>
      refine .inr ⟨id, ?_⟩
      rw [handle, generation?_join]
      split
      · rename_i same
        rw [← same, join_of_some found]
      · exact found
  | wake number => exact .inr ⟨id, found⟩
  | settle other outcome =>
      rcases settle_cases cache other outcome with ⟨ended, equal⟩ | ⟨own, isOpen, present, equal⟩
      · refine .inr ⟨?_, by rw [handle, equal, found]⟩
        rintro ⟨rfl, isOpen, _⟩
        rw [ended] at isOpen
        cases isOpen
      · cases outcome with
        | ok channel =>
            refine .inr ⟨?_, by rw [handle, equal]; exact found⟩
            rintro ⟨_, _, _, failed⟩
            cases failed
        | error error =>
            have owner := sound.owner_recorded ⟨own, some (.error error)⟩ present
            rw [handle, equal, generation?_removeGeneration_of_some owner found]
            by_cases same : other = generation
            · exact .inl ⟨⟨same, same ▸ isOpen, error, rfl⟩, if_pos same⟩
            · exact .inr ⟨fun removed => same removed.1, if_neg same⟩
  | close other =>
      rcases closed_cases cache other with ⟨channel, made, equal⟩ | ⟨unmade, equal⟩
      · rw [handle, equal,
          generation?_removeGeneration_of_some (fun own => sound.owner own other) found]
        by_cases same : other = generation
        · exact .inl ⟨⟨same, channel, same ▸ made⟩, if_pos same⟩
        · exact .inr ⟨fun removed => same removed.1, if_neg same⟩
      · refine .inr ⟨?_, by rw [handle, equal, found]⟩
        rintro ⟨rfl, channel, made⟩
        exact unmade channel made
  | evict other =>
      rw [handle, generation?_evict]
      by_cases same : address = other
      · exact .inl ⟨same.symm, if_pos same⟩
      · exact .inr ⟨fun removed => same removed.symm, by rw [if_neg same, found]⟩
  | evictChannel other channel =>
      rw [handle, evictChannel]
      by_cases held : cache.holds other channel = true
      · rw [if_pos held, generation?_evict]
        by_cases same : address = other
        · rcases holds_iff.mp held with ⟨cached, entry, made⟩
          rw [← same, found, Option.some.injEq] at entry
          exact .inl ⟨⟨same.symm, entry ▸ made⟩, if_pos same⟩
        · exact .inr ⟨fun removed => same removed.1.symm, by rw [if_neg same, found]⟩
      · rw [if_neg held]
        refine .inr ⟨?_, found⟩
        rintro ⟨rfl, made⟩
        exact held (holds_iff.mpr ⟨generation, found, made⟩)
  | clear => exact .inl ⟨trivial, rfl⟩

/-- An entry comes only from a caller that asks for one, with a generation that was never in use. -/
theorem generation?_handle_of_none (sound : Sound cache)
    (absent : cache.generation? address = none) (event : Event χ) :
    (event = .create address ∧
        (cache.handle event).generation? address = some cache.attempts.length) ∨
      (event ≠ .create address ∧ (cache.handle event).generation? address = none) := by
  cases event with
  | create other =>
      rw [handle, generation?_join]
      by_cases same : address = other
      · subst same
        exact .inl ⟨rfl, by rw [if_pos rfl, join_of_none absent]⟩
      · refine .inr ⟨?_, by rw [if_neg same, absent]⟩
        rintro ⟨⟩
        exact same rfl
  | wake number => exact .inr ⟨nofun, absent⟩
  | settle other outcome =>
      refine .inr ⟨nofun, ?_⟩
      rcases settle_cases cache other outcome with ⟨_, equal⟩ | ⟨own, _, present, equal⟩
      · rw [handle, equal, absent]
      · cases outcome with
        | ok channel =>
            rw [handle, equal]
            exact absent
        | error error =>
            have owner := sound.owner_recorded ⟨own, some (.error error)⟩ present
            rw [handle, equal]
            exact generation?_removeGeneration_of_none owner absent
  | close other =>
      refine .inr ⟨nofun, ?_⟩
      rcases closed_cases cache other with ⟨channel, _, equal⟩ | ⟨_, equal⟩
      · rw [handle, equal]
        exact generation?_removeGeneration_of_none (fun own => sound.owner own other) absent
      · rw [handle, equal, absent]
  | evict other =>
      refine .inr ⟨nofun, ?_⟩
      rw [handle, generation?_evict, absent, ite_self]
  | evictChannel other channel =>
      refine .inr ⟨nofun, ?_⟩
      rw [handle, evictChannel]
      split
      · rw [generation?_evict, absent, ite_self]
      · exact absent
  | clear => exact .inr ⟨nofun, rfl⟩

/-- Where an entry comes from: a caller has asked for it just now, or it was there before. -/
theorem entry_cases (sound : Sound cache) {event : Event χ}
    (found : (cache.handle event).generation? address = some generation) :
    (event = .create address ∧ cache.generation? address = none ∧
        generation = cache.attempts.length) ∨
      (cache.generation? address = some generation ∧
        ¬ Removes cache address generation event) := by
  cases before : cache.generation? address with
  | none =>
      rcases generation?_handle_of_none sound before event with ⟨created, added⟩ | ⟨_, absent⟩
      · exact .inl ⟨created, rfl, Option.some.inj (found.symm.trans added)⟩
      · cases absent.symm.trans found
  | some former =>
      rcases generation?_handle_of_some sound before event with ⟨_, removed⟩ | ⟨stays, kept⟩
      · cases removed.symm.trans found
      · cases kept.symm.trans found
        exact .inr ⟨rfl, stays⟩

/-- An event adds an attempt, writes down what came of one, or leaves the attempts alone. -/
theorem attempts_handle (cache : Cache χ) (event : Event χ) :
    (∃ address, event = .create address ∧ cache.generation? address = none ∧
        (cache.handle event).attempts = cache.attempts ++ [⟨address, none⟩]) ∨
      (∃ generation address outcome, event = .settle generation outcome ∧
        cache.attempts[generation]? = some ⟨address, none⟩ ∧
          (cache.handle event).attempts =
            cache.attempts.set generation ⟨address, some outcome⟩) ∨
      (cache.handle event).attempts = cache.attempts := by
  cases event with
  | create address =>
      cases found : cache.generation? address with
      | none => exact .inl ⟨address, rfl, found, by rw [handle, join_of_none found]⟩
      | some generation => exact .inr (.inr (by rw [handle, join_of_some found]))
  | settle generation outcome =>
      rcases settle_cases cache generation outcome with ⟨_, equal⟩ | ⟨address, _, present, equal⟩
      · exact .inr (.inr (by rw [handle, equal]))
      · refine .inr (.inl ⟨generation, address, outcome, rfl, present, ?_⟩)
        rw [handle, equal]
        cases outcome with
        | ok channel => rfl
        | error error => exact attempts_removeGeneration _ _
  | close generation =>
      refine .inr (.inr ?_)
      rcases closed_cases cache generation with ⟨_, _, equal⟩ | ⟨_, equal⟩
      · rw [handle, equal, attempts_removeGeneration]
      · rw [handle, equal]
  | evictChannel address channel =>
      refine .inr (.inr ?_)
      rw [handle, evictChannel]
      split <;> rfl
  | _ => exact .inr (.inr rfl)

theorem grows_handle (cache : Cache χ) (event : Event χ) : Grows cache (cache.handle event) := by
  intro generation attempt present
  have inside := (List.getElem?_eq_some_iff.mp present).1
  rcases attempts_handle cache event with
    ⟨address, _, _, equal⟩ | ⟨other, address, outcome, _, atOther, equal⟩ | equal
  · exact ⟨attempt, by rw [equal, List.getElem?_append_left inside, present], rfl,
      fun _ ended => ended⟩
  · by_cases same : other = generation
    · subst same
      rw [present, Option.some.injEq] at atOther
      subst atOther
      exact ⟨⟨address, some outcome⟩, by rw [equal, List.getElem?_set_self inside], rfl, nofun⟩
    · exact ⟨attempt, by rw [equal, List.getElem?_set_ne same, present], rfl,
        fun _ ended => ended⟩
  · exact ⟨attempt, by rw [equal, present], rfl, fun _ ended => ended⟩

/-- An attempt gets its outcome when it is settled. -/
theorem outcome?_handle {event : Event χ} {outcome : Outcome χ}
    (ended : (cache.handle event).outcome? generation = some outcome) :
    cache.outcome? generation = some outcome ∨
      (event = .settle generation outcome ∧ cache.isOpen generation = true) := by
  rcases attempts_handle cache event with
    ⟨address, _, _, equal⟩ | ⟨other, address, result, settled, present, equal⟩ | equal
  · rw [outcome?, equal] at ended
    rcases Option.bind_eq_some_iff.mp ended with ⟨attempt, present, result⟩
    rw [List.getElem?_append] at present
    split at present
    · exact .inl (Option.bind_eq_some_iff.mpr ⟨attempt, present, result⟩)
    · have last := List.mem_of_getElem? present
      rw [List.mem_singleton.mp last] at result
      cases result
  · rw [outcome?, equal, List.getElem?_set] at ended
    split at ended
    · rename_i same
      rw [if_pos (List.getElem?_eq_some_iff.mp present).1] at ended
      cases ended
      exact .inr ⟨same ▸ settled, by rw [isOpen, ← same, present]; rfl⟩
    · exact .inl ended
  · rw [outcome?, equal] at ended
    exact .inl ended

theorem Sound.handle (sound : Sound cache) (event : Event χ) : Sound (cache.handle event) where
  owner address generation found := by
    rcases entry_cases sound found with ⟨rfl, absent, rfl⟩ | ⟨old, _⟩
    · rw [Cache.handle, join_of_none absent, List.getElem?_concat_length]
      rfl
    · exact (grows_handle cache event).owner (sound.owner address generation old)
  alive address generation error found failed := by
    rcases entry_cases sound found with ⟨rfl, absent, rfl⟩ | ⟨old, stays⟩
    · rw [Cache.handle, join_of_none absent, Cache.outcome?, List.getElem?_concat_length] at failed
      cases failed
    · rcases outcome?_handle failed with earlier | ⟨rfl, isOpen⟩
      · exact sound.alive address generation error old earlier
      · exact stays ⟨rfl, isOpen, error, rfl⟩

/-- A generation is gone after an event that removes the entries of this generation, if there are
any. -/
theorem gone_handle (sound : Sound cache) {event : Event χ}
    (used : generation < cache.attempts.length)
    (removes : ∀ address, cache.generation? address = some generation →
      Removes cache address generation event) :
    Gone (cache.handle event) generation where
  used := Nat.lt_of_lt_of_le used (grows_handle cache event).length_le
  absent address found := by
    rcases entry_cases sound found with ⟨_, _, rfl⟩ | ⟨old, stays⟩
    · exact Nat.lt_irrefl _ used
    · exact stays (removes address old)

theorem Gone.handle (sound : Sound cache) (gone : Gone cache generation) (event : Event χ) :
    Gone (cache.handle event) generation :=
  gone_handle sound gone.used fun address found => absurd found (gone.absent address)

/-- A generation whose entry is removed is gone. -/
theorem gone_of_removed (sound : Sound cache) {event : Event χ}
    (found : cache.generation? address = some generation)
    (removed : (cache.handle event).generation? address = none) :
    Gone (cache.handle event) generation := by
  apply gone_handle sound (sound.lt found)
  intro other again
  rw [sound.address_unique found again]
  rcases generation?_handle_of_some sound found event with ⟨removes, _⟩ | ⟨_, stays⟩
  · exact removes
  · cases removed.symm.trans stays

/-- A connection that was found to have closed has no entry. -/
theorem gone_of_closed (sound : Sound cache) {channel : χ}
    (made : cache.outcome? generation = some (.ok channel)) :
    Gone (cache.handle (.close generation)) generation :=
  gone_handle sound (lt_of_outcome? made) fun _ _ => ⟨rfl, channel, made⟩

/-- A channel that was evicted has no entry. -/
theorem gone_of_evictChannel (sound : Sound cache) {channel : χ}
    (own : (cache.attempts[generation]?).map Attempt.address = some address)
    (made : cache.outcome? generation = some (.ok channel)) :
    Gone (cache.handle (.evictChannel address channel)) generation := by
  apply gone_handle sound (lt_of_outcome? made)
  intro other found
  have same := own.symm.trans (sound.owner other generation found)
  exact ⟨Option.some.inj same, made⟩

/-! ## Runs of events -/

theorem after_append (cache : Cache χ) (first second : List (Event χ)) :
    cache.after (first ++ second) = (cache.after first).after second :=
  List.foldl_append

theorem after_concat (cache : Cache χ) (events : List (Event χ)) (event : Event χ) :
    cache.after (events ++ [event]) = (cache.after events).handle event :=
  after_append cache events [event]

theorem Sound.after (sound : Sound cache) (events : List (Event χ)) :
    Sound (cache.after events) := by
  induction events generalizing cache with
  | nil => exact sound
  | cons event events induction => exact induction (sound.handle event)

theorem grows_after (cache : Cache χ) (events : List (Event χ)) :
    Grows cache (cache.after events) := by
  induction events generalizing cache with
  | nil => exact .refl cache
  | cons event events induction => exact (grows_handle cache event).trans (induction _)

theorem Gone.after (sound : Sound cache) (gone : Gone cache generation) (events : List (Event χ)) :
    Gone (cache.after events) generation := by
  induction events generalizing cache with
  | nil => exact gone
  | cons event events induction => exact induction (sound.handle event) (gone.handle sound event)

end

end ServiceMesh.Cache
