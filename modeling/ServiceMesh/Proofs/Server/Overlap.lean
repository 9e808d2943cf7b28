import Mathlib.Data.List.Induction
import ServiceMesh.Server.Overlap

/-!
# Where a server listens and what it records

However starts and stops overlap, a server listens where the call says whose first step came last,
and it records what the call says that has returned last (`told_after`).  So the two agree just if
these two calls say the same (`Overlap.addresses_agree_iff`).  They do if the calls return in the
order of their first steps, so in particular if nobody starts or stops the server while another is
about it.

Nothing makes two callers keep that order.  From every state in which all calls have returned two
more can be made that leave a wrong address (`Told.races`).
-/

namespace ServiceMesh

theorem Machine.listen_error {machine later : Machine} {address : Address} {reason : String}
    (fails : machine.listen address = (.error reason, later)) :
    later = machine := by
  simp only [Machine.listen] at fails
  repeat' split at fails
  all_goals simp_all

namespace Server

variable {ε : Type}

/-! ## The steps of a call -/

section

variable {server later : Server ε} {machine machine' : Machine} {address : Address}

@[simp]
theorem listener_finish (server : Server ε) (step : SecondStep) :
    (server.finish step).listener = server.listener := by
  cases step <;> rfl

@[simp]
theorem address_finish (server : Server ε) (step : SecondStep) :
    (server.finish step).address = step.address? := by
  cases step <;> rfl

/-- A start that fails leaves everything as it was. -/
theorem bind_error {error : CallError}
    (fails : server.bind machine address = (.error error, later, machine')) :
    later = server ∧ machine' = machine := by
  simp only [bind, Listener.bind] at fails
  cases bound : server.listener.bound with
  | some taken =>
      simp only [bound, Prod.mk.injEq] at fails
      exact ⟨fails.2.1.symm, fails.2.2.symm⟩
  | none =>
      cases listens : machine.listen address with
      | mk outcome machine'' =>
          cases outcome with
          | ok address' => simp [bound, listens] at fails
          | error reason =>
              simp only [bound, listens, Prod.mk.injEq] at fails
              exact ⟨fails.2.1.symm, fails.2.2.symm.trans (Machine.listen_error listens)⟩

theorem bind_ok {bound : Address}
    (binds : server.bind machine address = (.ok bound, later, machine')) :
    later.listener.bound = some bound ∧ later.address = server.address := by
  simp only [bind, Listener.bind] at binds
  split at binds
  · simp at binds
  · split at binds
    · simp at binds
    · simp only [Prod.mk.injEq, Except.ok.injEq] at binds
      rcases binds with ⟨rfl, rfl, -⟩
      exact ⟨rfl, rfl⟩

/-- Any free port of the own machine. -/
def anyPort : Address := ⟨"127.0.0.1", 0⟩

/-- Where any port will do an idle listener is bound. -/
theorem bind_any (idle : server.listener.bound = none) (machine : Machine) :
    ∃ bound later machine', server.bind machine anyPort = (.ok bound, later, machine') := by
  have named : anyPort.lookupFailure? = none := by decide
  have listens : machine.listen anyPort =
      (.ok ⟨anyPort.host, machine.nextPort⟩,
        ⟨⟨anyPort.host, machine.nextPort⟩ :: machine.listening, machine.nextPort + 1⟩) := by
    rw [Machine.listen, named]
    exact if_pos rfl
  simp only [bind, Listener.bind, idle, listens]
  exact ⟨_, _, _, rfl⟩

theorem release_unbinds (server : Server ε) (machine : Machine) :
    (server.release machine).1.listener.bound = none ∧
      (server.release machine).1.address = server.address := by
  refine ⟨?_, rfl⟩
  cases bound : server.listener.bound with
  | some address => simp [release, Listener.stop, bound, Listener.idle]
  | none => simp [release, Listener.stop, bound]

end

namespace Overlap

section

variable {overlap : Overlap ε}

/-! ## What an event does -/

theorem handle_start_error {address : Address} {error : CallError} {server : Server ε}
    {machine : Machine}
    (fails : overlap.server.bind overlap.machine address = (.error error, server, machine)) :
    overlap.handle (.start address) = overlap := by
  rcases bind_error fails with ⟨rfl, rfl⟩
  simp only [handle, fails]

theorem handle_start_ok {address bound : Address} {server : Server ε} {machine : Machine}
    (binds : overlap.server.bind overlap.machine address = (.ok bound, server, machine)) :
    overlap.handle (.start address) =
      { overlap with server, machine, calls := overlap.calls ++ [.record bound] } := by
  simp only [handle, binds]

theorem handle_finish {number : Nat} {step : SecondStep}
    (called : overlap.calls[number]? = some step) (open_ : number ∉ overlap.returned) :
    overlap.handle (.finish number) =
      { overlap with
        server := overlap.server.finish step
        returned := overlap.returned ++ [number] } := by
  simp only [handle, called, if_neg open_]

/-- The second step of the call that has returned last. -/
def settledLast (overlap : Overlap ε) : Option SecondStep :=
  overlap.returned.getLast?.bind (fun number => overlap.calls[number]?)

/-- What the server listens at and what it records was told by one call each. -/
structure Told (overlap : Overlap ε) : Prop where
  /-- The listener is as the call says whose first step came last. -/
  bound : overlap.server.listener.bound = overlap.calls.getLast?.bind SecondStep.address?
  /-- The record is as the call says that has returned last. -/
  address : overlap.server.address = overlap.settledLast.bind SecondStep.address?
  /-- No call returns before it was made. -/
  made : ∀ number ∈ overlap.returned, number < overlap.calls.length

theorem Told.unreturned (told : overlap.Told) {number : Nat}
    (beyond : overlap.calls.length ≤ number) :
    number ∉ overlap.returned :=
  fun member => Nat.not_lt.mpr beyond (told.made number member)

/-- A first step keeps what the calls before it have told. -/
theorem settledLast_concat (made : ∀ number ∈ overlap.returned, number < overlap.calls.length)
    (server : Server ε) (machine : Machine) (step : SecondStep) :
    settledLast { overlap with server, machine, calls := overlap.calls ++ [step] } =
      overlap.settledLast := by
  cases last : overlap.returned.getLast? with
  | none => simp only [settledLast, last, Option.bind_none]
  | some number =>
      have within := made number (List.mem_of_getLast? last)
      simp only [settledLast, last, Option.bind_some, List.getElem?_append_left within]

theorem Told.handle (told : overlap.Told) (event : Event) : (overlap.handle event).Told := by
  have grown (step : SecondStep) (number : Nat) (member : number ∈ overlap.returned) :
      number < (overlap.calls ++ [step]).length := by
    rw [List.length_append]
    exact Nat.lt_add_right _ (told.made number member)
  cases event with
  | start address =>
      cases binds : overlap.server.bind overlap.machine address with
      | mk outcome rest =>
          rcases rest with ⟨server, machine⟩
          cases outcome with
          | error error => rwa [handle_start_error binds]
          | ok bound =>
              rw [handle_start_ok binds]
              exact {
                bound := by simp [(bind_ok binds).1, SecondStep.address?]
                address := by
                  rw [settledLast_concat told.made]
                  exact (bind_ok binds).2.trans told.address
                made := grown _ }
  | stop =>
      have released := release_unbinds overlap.server overlap.machine
      exact {
        bound := by
          simp only [Overlap.handle, released.1, List.getLast?_concat, Option.bind_some]
          rfl
        address := by
          simp only [Overlap.handle]
          rw [settledLast_concat told.made]
          exact released.2.trans told.address
        made := grown _ }
  | finish number =>
      cases called : overlap.calls[number]? with
      | none => simpa only [Overlap.handle, called] using told
      | some step =>
          by_cases done : number ∈ overlap.returned
          · simpa only [Overlap.handle, called, if_pos done] using told
          · rw [handle_finish called done]
            exact {
              bound := by simpa using told.bound
              address := by simp [settledLast, called]
              made := by
                intro other member
                rcases List.mem_append.mp member with before | now
                · exact told.made other before
                · rw [List.mem_singleton.mp now]
                  exact (List.getElem?_eq_some_iff.mp called).1 }
  | others machine => exact { told with }

theorem told_of (dispatcher : Dispatcher ε) (machine : Machine) :
    (Overlap.of dispatcher machine).Told where
  bound := rfl
  address := rfl
  made := by simp [Overlap.of]

theorem told_after (told : overlap.Told) (events : List Event) : (overlap.after events).Told := by
  induction events generalizing overlap with
  | nil => exact told
  | cons event events induction => exact induction (told.handle event)

/-! ## Calls that cross -/

/-- If the second of two calls returns before the first, the server listens as the second says and
records what the first says. -/
theorem Told.crossed (told : overlap.Told) {first second : Event} {one two : SecondStep}
    (calls : ((overlap.handle first).handle second).calls = overlap.calls ++ [one, two])
    (returned : ((overlap.handle first).handle second).returned = overlap.returned) :
    let crossed := overlap.after [first, second, .finish (overlap.calls.length + 1),
      .finish overlap.calls.length]
    (overlap.Settled → crossed.Settled) ∧ crossed.server.address = one.address? ∧
      crossed.server.listener.bound = two.address? := by
  intro crossed
  have there : ((overlap.handle first).handle second).Told := (told.handle first).handle second
  generalize middle : (overlap.handle first).handle second = halfway at calls returned there
  have later : halfway.handle (.finish (overlap.calls.length + 1)) =
      { halfway with
        server := halfway.server.finish two
        returned := halfway.returned ++ [overlap.calls.length + 1] } := by
    refine handle_finish (by simp [calls]) ?_
    rw [returned]
    exact told.unreturned (Nat.le_succ _)
  have whole : crossed =
      { halfway with
        server := (halfway.server.finish two).finish one
        returned := halfway.returned ++ [overlap.calls.length + 1] ++ [overlap.calls.length] } := by
    simp only [crossed, after, List.foldl_cons, List.foldl_nil, middle, later]
    refine handle_finish (by simp [calls]) ?_
    simpa [returned] using told.unreturned (Nat.le_refl _)
  rw [whole]
  refine ⟨fun settled number within => ?_, by simp, ?_⟩
  · simp only [calls, List.length_append, List.length_cons, List.length_nil] at within
    simp only [returned, List.append_assoc, List.mem_append]
    rcases Nat.lt_or_ge number overlap.calls.length with before | beyond
    · exact .inl (settled number before)
    · have last : number = overlap.calls.length + 1 ∨ number = overlap.calls.length := by omega
      exact .inr (last.imp (List.mem_singleton.mpr ·) (List.mem_singleton.mpr ·))
  · simp [there.bound, calls]

/-- From every state two calls can cross so that the server records an address just if it does not
listen. -/
theorem Told.races (told : overlap.Told) :
    ∃ first second : Event,
      let crossed := overlap.after [first, second, .finish (overlap.calls.length + 1),
        .finish overlap.calls.length]
      (overlap.Settled → crossed.Settled) ∧
        crossed.server.address.isSome ≠ crossed.server.listener.bound.isSome := by
  cases bound : overlap.server.listener.bound with
  | none =>
      rcases bind_any bound overlap.machine with ⟨found, server, machine, binds⟩
      have calls : ((overlap.handle (.start anyPort)).handle .stop).calls =
          overlap.calls ++ [.record found, .forget] := by
        rw [handle_start_ok binds]
        simp [Overlap.handle]
      have returned : ((overlap.handle (.start anyPort)).handle .stop).returned =
          overlap.returned := by
        rw [handle_start_ok binds]
        rfl
      rcases told.crossed calls returned with ⟨settled, address, listens⟩
      refine ⟨.start anyPort, .stop, settled, ?_⟩
      rw [address, listens]
      exact Bool.noConfusion
  | some taken =>
      have released : (overlap.handle .stop).server.listener.bound = none :=
        (release_unbinds overlap.server overlap.machine).1
      rcases bind_any released (overlap.handle .stop).machine with
        ⟨found, server, machine, binds⟩
      have calls : ((overlap.handle .stop).handle (.start anyPort)).calls =
          overlap.calls ++ [.forget, .record found] := by
        rw [handle_start_ok binds]
        simp [Overlap.handle]
      have returned : ((overlap.handle .stop).handle (.start anyPort)).returned =
          overlap.returned := by
        rw [handle_start_ok binds]
        rfl
      rcases told.crossed calls returned with ⟨settled, address, listens⟩
      refine ⟨.stop, .start anyPort, settled, ?_⟩
      rw [address, listens]
      exact Bool.noConfusion

/-! ## Calls one after the other -/

/-- Calls that return in the order of their first steps leave the record true. -/
theorem Told.agrees_of_ordered (told : overlap.Told)
    (ordered : overlap.returned = List.range overlap.calls.length) :
    overlap.server.address = overlap.server.listener.bound := by
  have last : overlap.settledLast = overlap.calls.getLast? := by
    rw [settledLast, ordered]
    cases count : overlap.calls.length with
    | zero => rw [List.length_eq_zero_iff.mp count]; rfl
    | succ others =>
        rw [List.range_succ, List.getLast?_concat, Option.bind_some, List.getLast?_eq_getElem?,
          count, Nat.add_sub_cancel]
  rw [told.address, told.bound, last]

/-- A start that nobody interrupts. -/
theorem Told.start_alone (told : overlap.Told) (address : Address) :
    ((overlap.handle (.start address)).handle (.finish overlap.calls.length)).server =
      (overlap.server.start overlap.machine address).2.1 := by
  have fresh := told.unreturned (Nat.le_refl _)
  cases binds : overlap.server.bind overlap.machine address with
  | mk outcome rest =>
      rcases rest with ⟨server, machine⟩
      cases outcome with
      | error error =>
          have uncalled : overlap.calls[overlap.calls.length]? = none :=
            List.getElem?_eq_none (Nat.le_refl _)
          rw [handle_start_error binds]
          simp only [start, binds, Overlap.handle, uncalled]
          exact (bind_error binds).1.symm
      | ok bound =>
          have called : (overlap.calls ++ [SecondStep.record bound])[overlap.calls.length]? =
              some (.record bound) := List.getElem?_concat_length
          simp only [Overlap.handle, called, if_neg fresh, start, binds]
          rfl

/-- A stop that nobody interrupts. -/
theorem Told.stop_alone (told : overlap.Told) :
    ((overlap.handle .stop).handle (.finish overlap.calls.length)).server =
      (overlap.server.stop overlap.machine).1 := by
  have fresh := told.unreturned (Nat.le_refl _)
  have called : (overlap.handle .stop).calls[overlap.calls.length]? = some .forget :=
    List.getElem?_concat_length
  rw [handle_finish called fresh]
  rfl

end

/-! ## Main result -/

/-- What is known of the recorded address of a server, beyond who has told it. -/
structure AddressLaw (overlap : Overlap ε) : Prop extends Told overlap where
  /-- It is the address that is listened at just if the call that has returned last says what the
  call says whose first step came last. -/
  agrees_iff : overlap.server.address = overlap.server.listener.bound ↔
    overlap.settledLast.bind SecondStep.address? = overlap.calls.getLast?.bind SecondStep.address?
  /-- That is so if the calls return in the order of their first steps. -/
  ordered : overlap.returned = List.range overlap.calls.length →
    overlap.server.address = overlap.server.listener.bound
  /-- A start that fails changes nothing. -/
  failed : ∀ address error server machine,
    overlap.server.bind overlap.machine address = (.error error, server, machine) →
      overlap.handle (.start address) = overlap
  /-- The recorded address is announced, and nothing is announced without one. -/
  announced : ∀ id, (overlap.server.endpoint? id).map Endpoint.address = overlap.server.address
  /-- The two steps of a start make a start. -/
  starts : ∀ address,
    ((overlap.handle (.start address)).handle (.finish overlap.calls.length)).server =
      (overlap.server.start overlap.machine address).2.1
  /-- The two steps of a stop make a stop. -/
  stops : ((overlap.handle .stop).handle (.finish overlap.calls.length)).server =
    (overlap.server.stop overlap.machine).1
  /-- Two calls can always cross so that the record is wrong once all have returned. -/
  races : ∃ first second : Event,
    let crossed := overlap.after [first, second, .finish (overlap.calls.length + 1),
      .finish overlap.calls.length]
    (overlap.Settled → crossed.Settled) ∧
      crossed.server.address.isSome ≠ crossed.server.listener.bound.isSome

/-- However its starts and stops overlap, a server keeps the law. -/
theorem addresses_agree_iff (dispatcher : Dispatcher ε) (machine : Machine)
    (events : List Event) : AddressLaw ((Overlap.of dispatcher machine).after events) := by
  have told := told_after (told_of dispatcher machine) events
  exact {
    told with
    agrees_iff := by rw [told.address, told.bound]
    ordered := told.agrees_of_ordered
    failed := fun _ _ _ _ fails => handle_start_error fails
    announced := by
      intro id
      rw [endpoint?, Option.map_map]
      exact congrFun Option.map_id _
    starts := told.start_alone
    stops := told.stop_alone
    races := told.races }

/-- A start and a stop of which the stop returns first. -/
def crossedCalls : List Event := [.start anyPort, .stop, .finish 1, .finish 0]

/-- All calls have returned, nothing is listened at, and an address is recorded. -/
theorem crossedCalls_disagree :
    let overlap := (Overlap.of (⟨.withJson, Dict.empty, []⟩ : Dispatcher Empty) ⟨[], 61001⟩).after
      crossedCalls
    overlap.Settled ∧ overlap.server.listener.bound = none ∧
      overlap.server.address = some ⟨"127.0.0.1", 61001⟩ := by
  refine ⟨?_, rfl, rfl⟩
  decide

end Overlap

end Server

end ServiceMesh
