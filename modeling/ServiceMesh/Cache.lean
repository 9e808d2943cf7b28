import ServiceMesh.Address
import ServiceMesh.Error
import ServiceMesh.Table

/-!
# The connection cache

All calls to one address share a connection.  The first call starts an attempt to connect, and the
calls that arrive in the meantime wait for the outcome of the same attempt.  Attempts are numbered,
and the number is the generation of the entry: an attempt that fails, or whose connection closes,
takes away only the entry of its own generation, never that of a later attempt.

The channels of connections are of any type `χ`; they are compared to find out whether an entry
still holds a given one.
-/

namespace ServiceMesh

/-- One attempt to connect. -/
structure Attempt (χ : Type) where
  /-- The address to connect to. -/
  address : Address
  /-- What came of the attempt, once it has ended. -/
  outcome : Option (Outcome χ)

/-- The entries of the cache and all attempts so far. -/
structure Cache (χ : Type) where
  /-- The generation of the entry of each address that has one. -/
  entries : Table Address Nat
  /-- The attempts, each at the position of its generation. -/
  attempts : List (Attempt χ)

namespace Cache

variable {χ : Type}

/-- The cache before any call. -/
def empty : Cache χ := ⟨[], []⟩

/-- The generation of the entry of an address. -/
def generation? (cache : Cache χ) (address : Address) : Option Nat := cache.entries.find? address

/-- Whether an address has an entry. -/
def contains (cache : Cache χ) (address : Address) : Bool := (cache.generation? address).isSome

/-- The number of entries. -/
def size (cache : Cache χ) : Nat := cache.entries.length

/-- Whether there is no entry. -/
def isEmpty (cache : Cache χ) : Bool := cache.entries.isEmpty

/-- What came of the attempt of a generation, if it has ended. -/
def outcome? (cache : Cache χ) (generation : Nat) : Option (Outcome χ) :=
  cache.attempts[generation]?.bind Attempt.outcome

/-- Whether the attempt of a generation has not ended yet. -/
def isOpen (cache : Cache χ) (generation : Nat) : Bool :=
  match cache.attempts[generation]? with
  | some attempt => attempt.outcome.isNone
  | none => false

/-- A caller asks for a connection: it joins the attempt of the entry, or starts a new one. -/
structure Joined (χ : Type) where
  /-- The generation whose outcome the caller gets. -/
  generation : Nat
  /-- Whether the attempt was started by this caller. -/
  isNew : Bool
  /-- The cache with the caller's entry. -/
  cache : Cache χ

/-- Joins the attempt of an address. -/
def join (cache : Cache χ) (address : Address) : Joined χ :=
  match cache.generation? address with
  | some generation => ⟨generation, false, cache⟩
  | none =>
    let generation := cache.attempts.length
    ⟨generation, true,
      ⟨cache.entries.put address generation, cache.attempts ++ [⟨address, none⟩]⟩⟩

/-- Removes the entry of an address; calls on its connection go on. -/
def evict (cache : Cache χ) (address : Address) : Cache χ :=
  { cache with entries := cache.entries.remove address }

/-- Removes the entry of one generation. -/
def removeGeneration (cache : Cache χ) (generation : Nat) : Cache χ :=
  match cache.attempts[generation]? with
  | some attempt =>
    if cache.generation? attempt.address = some generation then cache.evict attempt.address
    else cache
  | none => cache

/-- Records what came of an attempt.  A failure removes the entry of the attempt.  An attempt ends
once. -/
def settle (cache : Cache χ) (generation : Nat) (outcome : Outcome χ) : Cache χ :=
  match cache.attempts[generation]? with
  | some ⟨address, none⟩ =>
    let settled : Cache χ :=
      { cache with attempts := cache.attempts.set generation ⟨address, some outcome⟩ }
    match outcome with
    | .ok _ => settled
    | .error _ => settled.removeGeneration generation
  | _ => cache

/-- The connection of a generation has closed. -/
def closed (cache : Cache χ) (generation : Nat) : Cache χ :=
  match cache.outcome? generation with
  | some (.ok _) => cache.removeGeneration generation
  | _ => cache

/-- All connections that a test says have closed. -/
def closedWhere (cache : Cache χ) (test : χ → Bool) : Cache χ :=
  (List.range cache.attempts.length).foldl (fun cache generation =>
    match cache.outcome? generation with
    | some (.ok channel) => if test channel then cache.closed generation else cache
    | _ => cache) cache

/-- Whether the entry of an address holds a channel. -/
def holds [BEq χ] (cache : Cache χ) (address : Address) (channel : χ) : Bool :=
  match (cache.generation? address).bind cache.outcome? with
  | some (.ok cached) => cached == channel
  | _ => false

/-- Removes the entry of an address if it holds a channel. -/
def evictChannel [BEq χ] (cache : Cache χ) (address : Address) (channel : χ) : Cache χ :=
  if cache.holds address channel then cache.evict address else cache

/-- Removes all entries. -/
def clear (cache : Cache χ) : Cache χ := { cache with entries := [] }

end Cache

end ServiceMesh
