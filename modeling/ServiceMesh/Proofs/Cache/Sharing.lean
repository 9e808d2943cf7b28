import ServiceMesh.Proofs.Cache.Entries

/-!
# Callers share attempts

Callers of one address share the attempt of its entry, as long as the entry is not removed.  This is
said of a session after events in any order (`callers_share_attempts`): calls, ends of attempts, close
signals and evictions, which may come late and for an attempt that has been replaced long ago.

The proofs look at the tickets of the callers, which a caller gets when it asks and keeps, and follow
what one event does to the tickets and to the entry of one address.
-/

namespace ServiceMesh.Cache

variable {χ : Type}

/-- What a caller gets when it asks, and keeps: its address, the generation of its attempt, and
whether it has started this attempt. -/
def Caller.ticket (caller : Caller χ) : Address × Nat × Bool :=
  (caller.address, caller.generation, caller.isFirst)

/-- The tickets of all callers. -/
def Session.tickets (session : Session χ) : List (Address × Nat × Bool) :=
  session.callers.map Caller.ticket

/-- The number of attempts to connect to an address. -/
def starts (cache : Cache χ) (address : Address) : Nat :=
  (cache.attempts.map Attempt.address).count address

/-- Whether an event removes the entry of an address. -/
def removesEntry [BEq χ] (cache : Cache χ) (address : Address) (event : Event χ) : Bool :=
  cache.contains address && !(cache.handle event).contains address

/-- How often the entry of an address is removed by events. -/
def removals [BEq χ] (cache : Cache χ) (address : Address) : List (Event χ) → Nat
  | [] => 0
  | event :: events =>
    (cache.removesEntry address event).toNat + (cache.handle event).removals address events

/-- What holds of a session after some events. -/
structure Protocol [BEq χ] (events : List (Event χ)) (session : Session χ) : Prop where
  /-- A caller that starts an attempt gets a generation that nobody had before. -/
  fresh : ∀ (number other : Nat) earlier later, number < other →
    session.callers[number]? = some earlier → session.callers[other]? = some later →
      later.isFirst = true → earlier.generation ≠ later.generation
  /-- A generation whose entry is gone never comes back. -/
  retired : ∀ generation, Gone session.cache generation →
    ∀ more, Gone (session.after more).cache generation
  /-- A generation belongs to one address. -/
  owner : ∀ first ∈ session.callers, ∀ second ∈ session.callers,
    first.generation = second.generation → first.address = second.address
  /-- The generation of an entry is that of an attempt to connect to its address. -/
  entry : ∀ address generation, session.cache.generation? address = some generation →
    ∃ caller ∈ session.callers, caller.isFirst = true ∧ caller.address = address ∧
      caller.generation = generation
  /-- An attempt that ends has the outcome with which it ends. -/
  settled : ∀ generation outcome, session.cache.isOpen generation = true →
    (session.handle (.settle generation outcome)).cache.outcome? generation = some outcome
  /-- An attempt that ends takes away no entry but its own, and only if it fails. -/
  failure : ∀ generation outcome address,
    (session.handle (.settle generation outcome)).cache.generation? address ≠
        session.cache.generation? address →
      session.cache.generation? address = some generation ∧ ∃ error, outcome = .error error
  /-- A close signal takes away no entry but that of the attempt whose connection has closed. -/
  close : ∀ generation address,
    (session.handle (.close generation)).cache.generation? address ≠
        session.cache.generation? address →
      session.cache.generation? address = some generation
  /-- A channel takes away an entry just if the attempt of this entry has made it. -/
  channel : ∀ address channel other,
    (session.handle (.evictChannel address channel)).cache.generation? other ≠
        session.cache.generation? other ↔
      other = address ∧ ∃ generation, session.cache.generation? address = some generation ∧
        session.cache.outcome? generation = some (.ok channel)
  /-- Whoever asks joins the attempt of the entry that it finds, or starts one. -/
  joined : ∀ address,
    (session.handle (.create address)).callers = session.callers ++ [session.caller address] ∧
      (session.caller address).address = address ∧
        (session.handle (.create address)).cache.generation? address =
          some (session.caller address).generation ∧
          ((session.caller address).isFirst = false ↔
            session.cache.generation? address = some (session.caller address).generation)
  /-- A caller stays with the attempt that it has joined. -/
  stays : ∀ (number : Nat) caller, session.callers[number]? = some caller →
    ∀ more, ∃ later, (session.after more).callers[number]? = some later ∧
      later.ticket = caller.ticket
  /-- What a caller is given is the outcome of its attempt, which is the same for ever. -/
  given : ∀ caller ∈ session.callers, ∀ outcome, caller.result = some outcome →
    ∀ more, (session.after more).cache.outcome? caller.generation = some outcome
  /-- A caller is given the outcome of its attempt when it looks for it. -/
  answered : ∀ (number : Nat) caller outcome, session.callers[number]? = some caller →
    session.cache.outcome? caller.generation = some outcome →
      ((session.handle (.wake number)).callers[number]?).bind Caller.result = some outcome
  /-- Callers of one attempt are given one outcome. -/
  alike : ∀ first ∈ session.callers, ∀ second ∈ session.callers,
    first.generation = second.generation → ∀ outcome other, first.result = some outcome →
      second.result = some other → outcome = other
  /-- Two callers of one address share an attempt just if the entry was not removed between them. -/
  together : ∀ before between behind address,
    events = before ++ .create address :: (between ++ .create address :: behind) →
      ∃ first second,
        session.callers[(Session.start.after before).callers.length]? = some first ∧
          session.callers[(Session.start.after
            (before ++ .create address :: between)).callers.length]? = some second ∧
          (first.generation = second.generation ↔
            (empty.after (before ++ [.create address])).removals address between = 0)
  /-- There is an attempt for each removal of the entry, and one more for the entry. -/
  count : ∀ address, session.cache.starts address =
    empty.removals address events + (session.cache.contains address).toNat
  /-- No entry is left of an attempt that has failed or whose connection was found to have closed. -/
  alive : ∀ address generation, session.cache.generation? address = some generation →
    (∀ error, session.cache.outcome? generation ≠ some (.error error)) ∧
      ∀ before behind, events = before ++ .close generation :: behind →
        ∀ channel, (empty.after before).outcome? generation ≠ some (.ok channel)

section

variable {session : Session χ} {address : Address} {generation : Nat}

/-! ## Tickets -/

theorem ticket_of_none (absent : session.cache.generation? address = none) :
    (session.caller address).ticket = (address, session.cache.attempts.length, true) := by
  rw [Caller.ticket, Session.caller, join_of_none absent]

theorem ticket_of_caller {number : Nat} {caller : Caller χ}
    (present : session.callers[number]? = some caller) :
    session.tickets[number]? = some caller.ticket := by
  rw [Session.tickets, List.getElem?_map, present, Option.map_some]

/-- What every event keeps: entries and callers belong to attempts to connect to their addresses, every
entry was added by a caller, whose generation nobody had before, and the results of callers are the
outcomes of their attempts. -/
structure Kept (session : Session χ) : Prop where
  sound : Sound session.cache
  owner : ∀ ticket ∈ session.tickets,
    (session.cache.attempts[ticket.2.1]?).map Attempt.address = some ticket.1
  fresh : session.tickets.Pairwise fun earlier later => later.2.2 = true → earlier.2.1 ≠ later.2.1
  entry : ∀ address generation, session.cache.generation? address = some generation →
    (address, generation, true) ∈ session.tickets
  given : ∀ caller ∈ session.callers, ∀ outcome, caller.result = some outcome →
    session.cache.outcome? caller.generation = some outcome

theorem Kept.lt (kept : Kept session) {ticket : Address × Nat × Bool}
    (member : ticket ∈ session.tickets) : ticket.2.1 < session.cache.attempts.length := by
  rcases Option.map_eq_some_iff.mp (kept.owner ticket member) with ⟨attempt, present, _⟩
  exact (List.getElem?_eq_some_iff.mp present).1

theorem kept_start : Kept (Session.start : Session χ) :=
  ⟨sound_empty, nofun, .nil, nofun, nofun⟩

theorem Kept.fresh_of_lt (kept : Kept session) {number other : Nat} {earlier later : Caller χ}
    (order : number < other) (atNumber : session.callers[number]? = some earlier)
    (atOther : session.callers[other]? = some later) (isFirst : later.isFirst = true) :
    earlier.generation ≠ later.generation := by
  rcases List.getElem?_eq_some_iff.mp (ticket_of_caller atNumber) with ⟨inside, first⟩
  rcases List.getElem?_eq_some_iff.mp (ticket_of_caller atOther) with ⟨inside', second⟩
  have different := List.pairwise_iff_getElem.mp kept.fresh number other inside inside' order
  rw [first, second] at different
  exact different isFirst

theorem Kept.address_unique (kept : Kept session) {first second : Caller χ}
    (left : first ∈ session.callers) (right : second ∈ session.callers)
    (same : first.generation = second.generation) : first.address = second.address := by
  have owner {caller : Caller χ} (member : caller ∈ session.callers) :
      (session.cache.attempts[caller.generation]?).map Attempt.address = some caller.address :=
    kept.owner caller.ticket (List.mem_map_of_mem member)
  have equal := owner left
  rw [same, owner right, Option.some.injEq] at equal
  exact equal.symm

theorem Kept.starter (kept : Kept session)
    (found : session.cache.generation? address = some generation) :
    ∃ caller ∈ session.callers, caller.isFirst = true ∧ caller.address = address ∧
      caller.generation = generation := by
  rcases List.mem_map.mp (kept.entry address generation found) with ⟨caller, member, ticket⟩
  rcases caller with ⟨own, number, isFirst, result⟩
  cases ticket
  exact ⟨_, member, rfl, rfl, rfl⟩

/-- Whoever asks joins the attempt of the entry that it finds, or starts one. -/
theorem isFirst_caller_iff (session : Session χ) (address : Address) :
    (session.caller address).isFirst = false ↔
      session.cache.generation? address = some (session.caller address).generation := by
  cases found : session.cache.generation? address with
  | some generation =>
      rw [Session.caller, join_of_some found]
      exact ⟨fun _ => rfl, fun _ => rfl⟩
  | none =>
      rw [Session.caller, join_of_none found]
      exact ⟨nofun, nofun⟩

variable [DecidableEq χ]

theorem tickets_handle (session : Session χ) (event : Event χ) :
    (session.handle event).tickets = session.tickets ++
      match event with
      | .create address => [(session.caller address).ticket]
      | _ => [] := by
  cases event with
  | create address => exact List.map_append
  | wake number =>
      rw [List.append_nil]
      apply List.ext_getElem?
      intro other
      simp only [Session.tickets, Session.handle, List.getElem?_map, List.getElem?_modify]
      cases session.callers[other]? with
      | none => rfl
      | some caller =>
          simp only [Option.map_some, Option.map_eq_map]
          split <;> rfl
  | _ => exact (List.append_nil _).symm

theorem session_after_append (session : Session χ) (first second : List (Event χ)) :
    session.after (first ++ second) = (session.after first).after second :=
  List.foldl_append

theorem cache_after (session : Session χ) (events : List (Event χ)) :
    (session.after events).cache = session.cache.after events := by
  induction events generalizing session with
  | nil => rfl
  | cons event events induction => exact induction (session.handle event)

theorem tickets_prefix (session : Session χ) (events : List (Event χ)) :
    session.tickets <+: (session.after events).tickets := by
  induction events generalizing session with
  | nil => exact List.prefix_refl _
  | cons event events induction =>
      refine List.IsPrefix.trans ?_ (induction (session.handle event))
      rw [tickets_handle]
      exact List.prefix_append _ _

/-- The ticket of a new caller is one for the entry that it finds, or for a new attempt. -/
theorem Kept.caller (kept : Kept session) (address : Address) :
    ((session.cache.handle (.create address)).attempts[(session.caller address).generation]?).map
        Attempt.address = some address ∧
      (session.cache.handle (.create address)).generation? address =
        some (session.caller address).generation ∧
      ((session.caller address).isFirst = true →
        (session.caller address).generation = session.cache.attempts.length) := by
  cases found : session.cache.generation? address with
  | some generation =>
      rw [handle, Session.caller, join_of_some found]
      exact ⟨kept.sound.owner address generation found, found,
        fun isFirst => absurd isFirst Bool.false_ne_true⟩
  | none =>
      rcases generation?_handle_of_none kept.sound found (.create address) with
        ⟨_, added⟩ | ⟨other, _⟩
      · refine ⟨?_, ?_, ?_⟩
        · rw [handle, Session.caller, join_of_none found, List.getElem?_concat_length]
          rfl
        · rw [added, Session.caller, join_of_none found]
        · intro _
          rw [Session.caller, join_of_none found]
      · exact absurd rfl other

theorem Kept.handle (kept : Kept session) (event : Event χ) : Kept (session.handle event) where
  sound := kept.sound.handle event
  owner ticket member := by
    rw [tickets_handle, List.mem_append] at member
    rcases member with old | new
    · exact (grows_handle session.cache event).owner (kept.owner ticket old)
    · cases event with
      | create address =>
          rw [List.mem_singleton.mp new]
          exact (kept.caller address).1
      | _ => cases new
  fresh := by
    rw [tickets_handle]
    cases event with
    | create address =>
        refine List.pairwise_append.mpr ⟨kept.fresh, List.pairwise_singleton _ _, ?_⟩
        intro earlier member later new isFirst
        rw [List.mem_singleton.mp new] at isFirst ⊢
        -- A new generation is the number of the attempts so far, and so beyond all of theirs.
        have generation : (session.caller address).ticket.2.1 = session.cache.attempts.length :=
          (kept.caller address).2.2 isFirst
        rw [generation]
        exact Nat.ne_of_lt (kept.lt member)
    | _ => exact (List.append_nil session.tickets).symm ▸ kept.fresh
  entry address generation found := by
    rw [tickets_handle]
    rcases entry_cases kept.sound found with ⟨rfl, absent, rfl⟩ | ⟨old, _⟩
    · exact List.mem_append_right _ (List.mem_singleton.mpr (ticket_of_none absent).symm)
    · exact List.mem_append_left _ (kept.entry address generation old)
  given caller member outcome result := by
    apply (grows_handle session.cache event).outcome?
    cases event with
    | create address =>
        rcases List.mem_append.mp member with old | new
        · exact kept.given caller old outcome result
        · rw [List.mem_singleton.mp new] at result
          cases result
    | wake number =>
        rcases List.getElem?_of_mem member with ⟨other, present⟩
        simp only [Session.handle, List.getElem?_modify] at present
        rcases Option.map_eq_some_iff.mp present with ⟨former, atFormer, woken⟩
        have old := List.mem_of_getElem? atFormer
        split at woken
        · subst woken
          rcases Option.or_eq_some_iff.mp result with earlier | ⟨_, now⟩
          · exact kept.given former old outcome earlier
          · exact now
        · exact kept.given caller (woken ▸ old) outcome result
    | _ => exact kept.given caller member outcome result

theorem Kept.after (kept : Kept session) (events : List (Event χ)) :
    Kept (session.after events) := by
  induction events generalizing session with
  | nil => exact kept
  | cons event events induction => exact induction (kept.handle event)

/-! ## Removals -/

theorem removals_concat (cache : Cache χ) (address : Address) (events : List (Event χ))
    (event : Event χ) :
    cache.removals address (events ++ [event]) =
      cache.removals address events + ((cache.after events).removesEntry address event).toNat := by
  induction events generalizing cache with
  | nil => exact Nat.add_comm _ _
  | cons first events induction =>
      rw [List.cons_append, removals, removals, induction, Nat.add_assoc]
      rfl

/-- An event adds an attempt for a caller that finds no entry, or none; the others keep their
addresses. -/
theorem addresses_handle (cache : Cache χ) (event : Event χ) :
    (∃ address, event = .create address ∧ cache.generation? address = none ∧
        (cache.handle event).attempts.map Attempt.address =
          cache.attempts.map Attempt.address ++ [address]) ∨
      (cache.handle event).attempts.map Attempt.address =
        cache.attempts.map Attempt.address := by
  rcases attempts_handle cache event with
    ⟨address, created, absent, equal⟩ | ⟨generation, address, outcome, _, present, equal⟩ | equal
  · exact .inl ⟨address, created, absent, by rw [equal, List.map_append]; rfl⟩
  · refine .inr ?_
    rcases List.getElem?_eq_some_iff.mp present with ⟨inside, atGeneration⟩
    have within : generation < (cache.attempts.map Attempt.address).length := by
      rwa [List.length_map]
    have own : (cache.attempts.map Attempt.address)[generation] = address := by
      rw [List.getElem_map, atGeneration]
    rw [equal, List.map_set, ← own, List.set_getElem_self]
  · exact .inr (by rw [equal])

/-- No attempt is added for an address that has an entry, or that nobody asks for. -/
theorem starts_handle {cache : Cache χ} {event : Event χ}
    (others : event = .create address → cache.generation? address ≠ none) :
    (cache.handle event).starts address = cache.starts address := by
  rw [starts, starts]
  rcases addresses_handle cache event with ⟨other, created, absent, equal⟩ | equal
  · have different : other ≠ address := fun same => others (same ▸ created) (same ▸ absent)
    rw [equal, List.count_append, List.count_singleton, if_neg (by simpa using different),
      Nat.add_zero]
  · rw [equal]

theorem starts_create {cache : Cache χ} (absent : cache.generation? address = none) :
    (cache.handle (.create address)).starts address = cache.starts address + 1 := by
  rw [starts, starts, handle, join_of_none absent, List.map_append, List.count_append]
  simp

/-- One event keeps the balance of attempts, removals and entries. -/
theorem starts_add_contains {cache : Cache χ} (sound : Sound cache) (address : Address)
    (event : Event χ) :
    (cache.handle event).starts address + (cache.contains address).toNat =
      cache.starts address + (cache.removesEntry address event).toNat +
        ((cache.handle event).contains address).toNat := by
  cases before : cache.generation? address with
  | some generation =>
      rw [starts_handle fun _ => before ▸ Option.some_ne_none generation]
      rcases generation?_handle_of_some sound before event with ⟨_, entry⟩ | ⟨_, entry⟩ <;>
        simp [contains, removesEntry, before, entry]
  | none =>
      rcases generation?_handle_of_none sound before event with ⟨rfl, entry⟩ | ⟨others, entry⟩
      · rw [starts_create before]
        simp [contains, removesEntry, before, entry]
      · rw [starts_handle fun created => absurd created others]
        simp [contains, removesEntry, before, entry]

/-- Attempts, removals and entries balance after any events. -/
theorem starts_eq_removals (events : List (Event χ)) (address : Address) :
    (empty.after events).starts address =
      empty.removals address events + ((empty.after events).contains address).toNat := by
  induction events using List.reverseRecOn with
  | nil => rfl
  | append_singleton events event induction =>
      have balance := starts_add_contains (sound_empty.after events) address event
      rw [after_concat, removals_concat]
      omega

/-- The entry of an address stays as long as no event removes it. -/
theorem generation?_after_iff {cache : Cache χ} (sound : Sound cache)
    (found : cache.generation? address = some generation) (events : List (Event χ)) :
    (cache.after events).generation? address = some generation ↔
      cache.removals address events = 0 := by
  induction events generalizing cache with
  | nil => exact ⟨fun _ => rfl, fun _ => found⟩
  | cons event events induction =>
      rcases generation?_handle_of_some sound found event with ⟨_, removed⟩ | ⟨_, stays⟩
      · have counted : cache.removesEntry address event = true := by
          simp [removesEntry, contains, found, removed]
        have gone := (gone_of_removed sound found removed).after (sound.handle event) events
        refine ⟨fun again => absurd again (gone.absent address), fun balance => ?_⟩
        rw [removals, counted] at balance
        exact absurd balance (by simp)
      · have uncounted : cache.removesEntry address event = false := by
          simp [removesEntry, contains, stays]
        rw [removals, uncounted, Bool.toNat_false, Nat.zero_add]
        exact induction (sound.handle event) stays

/-! ## Sessions -/

/-- An event that changes an entry removes it for a reason, or adds one for a caller. -/
theorem removes_of_ne {cache : Cache χ} (sound : Sound cache) (event : Event χ)
    (others : event ≠ .create address)
    (changed : (cache.handle event).generation? address ≠ cache.generation? address) :
    ∃ generation, cache.generation? address = some generation ∧
      Removes cache address generation event := by
  cases before : cache.generation? address with
  | none =>
      rcases generation?_handle_of_none sound before event with ⟨created, _⟩ | ⟨_, absent⟩
      · exact absurd created others
      · exact absurd (absent.trans before.symm) changed
  | some generation =>
      rcases generation?_handle_of_some sound before event with ⟨removes, _⟩ | ⟨_, stays⟩
      · exact ⟨generation, rfl, removes⟩
      · exact absurd (stays.trans before.symm) changed

theorem ne_of_removes {cache : Cache χ} (sound : Sound cache) (event : Event χ)
    (found : cache.generation? address = some generation)
    (removes : Removes cache address generation event) :
    (cache.handle event).generation? address ≠ cache.generation? address := by
  rcases generation?_handle_of_some sound found event with ⟨_, removed⟩ | ⟨stays, _⟩
  · rw [removed, found]
    exact nofun
  · exact absurd removes stays

theorem result_wake {number : Nat} {caller : Caller χ} {outcome : Outcome χ}
    (kept : Kept session) (present : session.callers[number]? = some caller)
    (ended : session.cache.outcome? caller.generation = some outcome) :
    ((session.handle (.wake number)).callers[number]?).bind Caller.result = some outcome := by
  rw [Session.handle, List.getElem?_modify, present]
  cases result : caller.result with
  | none => simp [Caller.wake, result, ended]
  | some earlier =>
      have given := kept.given caller (List.mem_of_getElem? present) earlier result
      rw [ended, Option.some.injEq] at given
      simp [Caller.wake, result, given]

/-- A caller keeps its ticket. -/
theorem ticket_after {number : Nat} {ticket : Address × Nat × Bool}
    (present : session.tickets[number]? = some ticket) (events : List (Event χ)) :
    ∃ caller, (session.after events).callers[number]? = some caller ∧ caller.ticket = ticket := by
  rcases tickets_prefix session events with ⟨more, equal⟩
  have later : (session.after events).tickets[number]? = some ticket := by
    rw [← equal, List.getElem?_append_left (List.getElem?_eq_some_iff.mp present).1, present]
  rw [Session.tickets, List.getElem?_map] at later
  exact Option.map_eq_some_iff.mp later

/-- The caller that asks next stands behind all others. -/
theorem ticket_create (session : Session χ) (address : Address) :
    (session.handle (.create address)).tickets[session.callers.length]? =
      some (session.caller address).ticket := by
  rw [tickets_handle]
  have behind : session.callers.length = session.tickets.length :=
    (List.length_map Caller.ticket).symm
  rw [behind, List.getElem?_concat_length]

/-- The next caller of an address gets the generation of an entry if this entry has stayed. -/
theorem caller_after_iff {cache : Cache χ} (sound : Sound cache)
    (found : cache.generation? address = some generation) (session : Session χ)
    (between : List (Event χ)) (later : session.cache = cache.after between) :
    generation = (session.caller address).generation ↔
      cache.removals address between = 0 := by
  rw [← generation?_after_iff sound found, ← later]
  have sound' : Sound session.cache := later ▸ sound.after between
  cases entry : session.cache.generation? address with
  | some now =>
      rw [Session.caller, join_of_some entry, Option.some.injEq]
      exact eq_comm
  | none =>
      rw [Session.caller, join_of_none entry]
      have inside : generation < session.cache.attempts.length :=
        later ▸ Nat.lt_of_lt_of_le (sound.lt found) (grows_after cache between).length_le
      exact ⟨fun same => absurd same (Nat.ne_of_lt inside), nofun⟩

/-- Nobody who asks later joins an attempt whose entry is gone. -/
theorem Kept.later_generation_ne (kept : Kept session) (gone : Gone session.cache generation)
    (events : List (Event χ)) {number : Nat} {caller : Caller χ}
    (later : session.callers.length ≤ number)
    (present : (session.after events).callers[number]? = some caller) :
    caller.generation ≠ generation := by
  induction events generalizing session with
  | nil =>
      rw [Session.after, List.foldl_nil, List.getElem?_eq_none later] at present
      cases present
  | cons event events induction =>
      -- The caller is the one of this event, or it is later than this event as well.
      have gone' := gone.handle kept.sound event
      have old_or_new : (session.handle event).callers.length ≤ number ∨
          (∃ address, event = .create address ∧ number = session.callers.length) := by
        have size := congrArg List.length (tickets_handle session event)
        rw [Session.tickets, Session.tickets, List.length_map, List.length_append,
          List.length_map] at size
        cases event with
        | create address =>
            rcases Nat.eq_or_lt_of_le later with same | beyond
            · exact .inr ⟨address, rfl, same.symm⟩
            · exact .inl (size ▸ beyond)
        | _ => exact .inl (size ▸ later)
      rcases old_or_new with beyond | ⟨address, rfl, rfl⟩
      · exact induction (kept.handle event) gone' beyond present
      · rcases ticket_after (ticket_create session address) events with ⟨same, atNumber, ticket⟩
        cases atNumber.symm.trans present
        intro joined
        have entry := (kept.caller address).2.1
        have own : (session.caller address).generation = caller.generation :=
          (congrArg (fun ticket => ticket.2.1) ticket).symm
        rw [own, joined] at entry
        exact gone'.absent address entry

theorem kept_session (events : List (Event χ)) : Kept (Session.start.after events) :=
  kept_start.after events

theorem cache_session (events : List (Event χ)) :
    (Session.start.after events).cache = empty.after events :=
  cache_after _ _

/-- Two callers of one address share an attempt just if no event between them removes the entry. -/
theorem generations_eq_iff (before between behind : List (Event χ)) (address : Address) :
    ∃ first second,
      (Session.start.after
          (before ++ .create address :: (between ++ .create address :: behind))).callers[
            (Session.start.after before).callers.length]? = some first ∧
        (Session.start.after
          (before ++ .create address :: (between ++ .create address :: behind))).callers[
            (Session.start.after (before ++ .create address :: between)).callers.length]? =
              some second ∧
        (first.generation = second.generation ↔
          (empty.after (before ++ [.create address])).removals address between = 0) := by
  -- The run is cut right behind each of the two calls.
  let asked := (Session.start.after before).handle (.create address)
  let again := asked.after between
  have split : Session.start.after (before ++ .create address :: between) = again :=
    session_after_append _ _ _
  have whole :
      Session.start.after (before ++ .create address :: (between ++ .create address :: behind)) =
        (again.handle (.create address)).after behind := by
    rw [session_after_append]
    exact session_after_append asked between (.create address :: behind)
  have whole' : asked.after (between ++ .create address :: behind) =
      (again.handle (.create address)).after behind :=
    session_after_append asked between (.create address :: behind)
  rcases ticket_after (ticket_create (Session.start.after before) address)
    (between ++ .create address :: behind) with ⟨first, atFirst, ticket⟩
  rcases ticket_after (ticket_create again address) behind with ⟨second, atSecond, ticket'⟩
  have firstGeneration : first.generation =
      ((Session.start.after before).caller address).generation :=
    congrArg (fun ticket => ticket.2.1) ticket
  have secondGeneration : second.generation = (again.caller address).generation :=
    congrArg (fun ticket => ticket.2.1) ticket'
  refine ⟨first, second, by rw [whole, ← whole', atFirst], by rw [whole, split, atSecond], ?_⟩
  rw [firstGeneration, secondGeneration, after_concat, ← cache_session]
  exact caller_after_iff ((kept_session before).sound.handle _)
    ((kept_session before).caller address).2.1 again between (cache_after asked between)

end

/-- Callers share attempts, and attempts, channels and close signals take away only entries of their
own, in every order of calls, ends of attempts, close signals and evictions. -/
theorem callers_share_attempts [DecidableEq χ] (events : List (Event χ)) :
    Protocol events (Session.start.after events) where
  fresh number other earlier later order atNumber atOther isFirst :=
    (kept_session events).fresh_of_lt order atNumber atOther isFirst
  retired generation gone more := by
    rw [cache_after]
    exact gone.after (kept_session events).sound more
  owner first left second right same := (kept_session events).address_unique left right same
  entry address generation found := (kept_session events).starter found
  settled generation outcome isOpen := outcome?_settle isOpen outcome
  failure generation outcome address changed := by
    rcases removes_of_ne (kept_session events).sound (.settle generation outcome) nofun changed with
      ⟨_, found, rfl, _, failed⟩
    exact ⟨found, failed⟩
  close generation address changed := by
    rcases removes_of_ne (kept_session events).sound (.close generation) nofun changed with
      ⟨_, found, rfl, _⟩
    exact found
  channel address channel other := by
    constructor
    · intro changed
      rcases removes_of_ne (kept_session events).sound (.evictChannel address channel) nofun changed
        with ⟨generation, found, rfl, made⟩
      exact ⟨rfl, generation, found, made⟩
    · rintro ⟨rfl, generation, found, made⟩ same
      exact ne_of_removes (kept_session events).sound (.evictChannel other channel) found
        ⟨rfl, made⟩ same
  joined address :=
    ⟨rfl, rfl, ((kept_session events).caller address).2.1, isFirst_caller_iff _ address⟩
  stays number caller present more := ticket_after (ticket_of_caller present) more
  given caller member outcome result more := by
    rw [cache_after]
    exact (grows_after _ more).outcome? ((kept_session events).given caller member outcome result)
  answered number caller outcome present ended := result_wake (kept_session events) present ended
  alike first left second right same outcome other result result' := by
    have ended := (kept_session events).given first left outcome result
    rw [same, (kept_session events).given second right other result', Option.some.injEq] at ended
    exact ended.symm
  together before between behind address order := by
    rw [order]
    exact generations_eq_iff before between behind address
  count address := by
    rw [cache_session]
    exact starts_eq_removals events address
  alive address generation found := by
    refine ⟨fun error => (kept_session events).sound.alive address generation error found, ?_⟩
    intro before behind order channel made
    have sound : Sound (empty.after before) := sound_empty.after before
    have gone := (gone_of_closed sound made).after (sound.handle _) behind
    rw [cache_session, order, after_append] at found
    exact gone.absent address found

end ServiceMesh.Cache
