import ServiceMesh.Cache
import ServiceMesh.Sample.Network

/-!
# Rehearsals of the connection cache

Several callers ask a cache for connections while a gate may hold back the network.  An attempt
first announces itself and takes its turn, and then passes the gate.  If the gate is closed at that
moment, the attempt is held until the gate is next opened, and no longer, even if the gate closes
again.  It makes progress only while somebody waits for it: an attempt whose callers have all given
up stays where it is until another caller joins it.
-/

namespace ServiceMesh.Sample

/-- An attempt that has not come to its end. -/
structure Waiting where
  /-- The generation of the attempt. -/
  generation : Nat
  /-- The address to connect to. -/
  address : Address
  /-- How the attempt will turn out. -/
  failure : Option CallError
  /-- Whether the gate still holds the attempt. -/
  isHeld : Bool
  deriving DecidableEq, Repr

/-- The state of a rehearsal. -/
structure Rehearsal where
  /-- The cache. -/
  cache : Cache Channel
  /-- The network. -/
  network : Network
  /-- Whether the gate lets attempts pass that arrive. -/
  gateOpen : Bool
  /-- The attempts that have not come to their end, in the order of their arrival. -/
  waiting : List Waiting
  /-- The generations that callers in the background wait for, in order. -/
  begun : List Nat

namespace Rehearsal

/-- A rehearsal before the first caller. -/
def start (plans : Dict Plan) : Rehearsal := ⟨.empty, .planned plans, true, [], []⟩

/-- Brings an attempt that the gate does not hold to its end. -/
def pass (rehearsal : Rehearsal) (attempt : Waiting) : Rehearsal :=
  let waiting := rehearsal.waiting.filter (fun other => other.generation ≠ attempt.generation)
  match attempt.failure with
  | some error =>
    { rehearsal with
      waiting
      cache := rehearsal.cache.settle attempt.generation (.error error) }
  | none =>
    let (channel, network) := rehearsal.network.establish attempt.address
    { rehearsal with
      waiting, network
      cache := rehearsal.cache.settle attempt.generation (.ok channel) }

/-- Lets the attempts go on that the gate does not hold and for which a test says that somebody
waits. -/
def passWhere (rehearsal : Rehearsal) (test : Waiting → Bool) : Rehearsal :=
  (rehearsal.waiting.filter (fun attempt => !attempt.isHeld && test attempt)).foldl pass rehearsal

/-- A caller asks for a connection and waits as long as it can; gives the lines written and the
generation it waits for. -/
def ask (rehearsal : Rehearsal) (address : Address) : List Line × Nat × Rehearsal :=
  let joined := rehearsal.cache.join address
  let (lines, arrived) :=
    if joined.isNew then
      let (failure, network) := rehearsal.network.attempt address
      ([Network.connectLine address],
        { rehearsal with
          cache := joined.cache
          network
          waiting := rehearsal.waiting ++
            [⟨joined.generation, address, failure, !rehearsal.gateOpen⟩] })
    else ([], rehearsal)
  (lines, joined.generation,
    arrived.passWhere (fun attempt => attempt.generation = joined.generation))

/-- A caller waits for a connection. -/
def create (rehearsal : Rehearsal) (address : Address) :
    List Line × Option (Outcome Channel) × Rehearsal :=
  let (lines, generation, rehearsal) := rehearsal.ask address
  (lines, rehearsal.cache.outcome? generation, rehearsal)

/-- Callers wait for connections to one address, one after the other. -/
def createMany (address : Address) : (count : Nat) → Rehearsal →
    List Line × List (Option (Outcome Channel)) × Rehearsal
  | 0, rehearsal => ([], [], rehearsal)
  | count + 1, rehearsal =>
    let (lines, outcome, rehearsal) := rehearsal.create address
    let (others, outcomes, rehearsal) := createMany address count rehearsal
    (lines ++ others, outcome :: outcomes, rehearsal)

/-- A caller in the background asks for a connection. -/
def begin (rehearsal : Rehearsal) (address : Address) : List Line × Rehearsal :=
  let (lines, generation, rehearsal) := rehearsal.ask address
  (lines, { rehearsal with begun := rehearsal.begun ++ [generation] })

/-- The callers in the background take their results. -/
def results (rehearsal : Rehearsal) : List (Option (Outcome Channel)) × Rehearsal :=
  (rehearsal.begun.map rehearsal.cache.outcome?, { rehearsal with begun := [] })

/-- The callers in the background give up. -/
def abandon (rehearsal : Rehearsal) : Rehearsal := { rehearsal with begun := [] }

/-- Closes or opens the gate.  An opening gate lets go of all attempts, and those go on for which a
caller waits. -/
def setGate (rehearsal : Rehearsal) (isOpen : Bool) : Rehearsal :=
  let turned : Rehearsal :=
    { rehearsal with
      gateOpen := isOpen
      waiting := rehearsal.waiting.map (fun attempt =>
        { attempt with isHeld := attempt.isHeld && !isOpen }) }
  turned.passWhere (fun attempt => rehearsal.begun.contains attempt.generation)

/-- Connects past the cache. -/
def connectDirectly (rehearsal : Rehearsal) (address : Address) :
    Connected Line Channel Rehearsal :=
  let connected := transport.connect rehearsal.network address
  ⟨connected.marks, connected.outcome, { rehearsal with network := connected.network }⟩

/-- Closes a connection, which the cache notices. -/
def close (rehearsal : Rehearsal) (channel : Channel) : Rehearsal :=
  { rehearsal with
    network := rehearsal.network.close channel
    cache := rehearsal.cache.closedWhere (fun cached => cached = channel) }

end Rehearsal

end ServiceMesh.Sample
