import ServiceMesh.Server

/-!
# Starts and stops that overlap

Any number of callers may start and stop one server at the same time.  Between the two steps of a
call the others may take any steps of their own, and so may whoever else listens on the machine.  A
start whose listener cannot be bound returns its error at once and has no second step.

The calls that have one are numbered in the order of their first steps.
-/

namespace ServiceMesh

namespace Server

variable {ε : Type}

/-- What is left to do of a call that has taken its first step. -/
inductive SecondStep where
  /-- A start records the address that it has bound. -/
  | record (bound : Address)
  /-- A stop forgets the recorded address. -/
  | forget
  deriving DecidableEq, Repr

/-- The address that a second step leaves recorded. -/
def SecondStep.address? : SecondStep → Option Address
  | .record bound => some bound
  | .forget => none

/-- Takes a second step. -/
def finish (server : Server ε) : SecondStep → Server ε
  | .record bound => server.record bound
  | .forget => server.forget

/-- A server and those who start and stop it. -/
structure Overlap (ε : Type) : Type 1 where
  /-- The server. -/
  server : Server ε
  /-- The machine on which it listens. -/
  machine : Machine
  /-- The calls that have taken their first step, in the order of these steps. -/
  calls : List SecondStep
  /-- The numbers of the calls that have returned, in the order in which they have. -/
  returned : List Nat

namespace Overlap

/-- One thing that happens to the server or to its machine. -/
inductive Event where
  /-- A start takes its first step. -/
  | start (address : Address)
  /-- A stop takes its first step. -/
  | stop
  /-- The call with a number takes its second step and returns. -/
  | finish (number : Nat)
  /-- Others have changed what is listened at. -/
  | others (machine : Machine)

/-- A server that nobody has started or stopped yet. -/
def of (dispatcher : Dispatcher ε) (machine : Machine) : Overlap ε :=
  ⟨.of dispatcher, machine, [], []⟩

/-- What an event does. -/
def handle (overlap : Overlap ε) : Event → Overlap ε
  | .start address =>
    match overlap.server.bind overlap.machine address with
    | (.ok bound, server, machine) =>
      { overlap with server, machine, calls := overlap.calls ++ [.record bound] }
    | (.error _, server, machine) => { overlap with server, machine }
  | .stop =>
    let (server, machine) := overlap.server.release overlap.machine
    { overlap with server, machine, calls := overlap.calls ++ [.forget] }
  | .finish number =>
    match overlap.calls[number]? with
    | some step =>
      if number ∈ overlap.returned then overlap
      else
        { overlap with
          server := overlap.server.finish step
          returned := overlap.returned ++ [number] }
    | none => overlap
  | .others machine => { overlap with machine }

/-- The server after events. -/
def after (overlap : Overlap ε) (events : List Event) : Overlap ε := events.foldl handle overlap

/-- Every call has returned. -/
def Settled (overlap : Overlap ε) : Prop :=
  ∀ number < overlap.calls.length, number ∈ overlap.returned

instance (overlap : Overlap ε) : Decidable overlap.Settled :=
  inferInstanceAs (Decidable (∀ number < overlap.calls.length, number ∈ overlap.returned))

end Overlap

end Server

end ServiceMesh
