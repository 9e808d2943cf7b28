import ServiceMesh.Cache

/-!
# Callers of a connection cache

Whoever asks for a connection joins the attempt of the entry, or starts one, and then waits for the
outcome of this attempt, whatever becomes of the entry in the meantime.  Everything that can happen
to a cache and its callers is an event, and a session is a cache with all its callers after events
in any order.
-/

namespace ServiceMesh.Cache

variable {χ : Type}

/-- One thing that happens to a cache or to one of its callers. -/
inductive Event (χ : Type) where
  /-- A caller asks for a connection to an address. -/
  | create (address : Address)
  /-- A caller looks whether its attempt has ended. -/
  | wake (number : Nat)
  /-- An attempt comes to its end. -/
  | settle (generation : Nat) (outcome : Outcome χ)
  /-- The connection that an attempt has made is found to have closed. -/
  | close (generation : Nat)
  /-- The entry of an address is removed. -/
  | evict (address : Address)
  /-- The entry of an address is removed if it holds a channel. -/
  | evictChannel (address : Address) (channel : χ)
  /-- All entries are removed. -/
  | clear

/-- What an event does to the cache. -/
def handle [BEq χ] (cache : Cache χ) : Event χ → Cache χ
  | .create address => (cache.join address).cache
  | .wake _ => cache
  | .settle generation outcome => cache.settle generation outcome
  | .close generation => cache.closed generation
  | .evict address => cache.evict address
  | .evictChannel address channel => cache.evictChannel address channel
  | .clear => cache.clear

/-- The cache after events. -/
def after [BEq χ] (cache : Cache χ) (events : List (Event χ)) : Cache χ :=
  events.foldl handle cache

/-- Somebody who has asked for a connection. -/
structure Caller (χ : Type) where
  /-- The address asked for. -/
  address : Address
  /-- The generation of the attempt that the caller waits for. -/
  generation : Nat
  /-- Whether the caller has started the attempt. -/
  isFirst : Bool
  /-- What the caller was given, once its attempt had ended. -/
  result : Option (Outcome χ)

/-- The caller when it looks whether its attempt has ended. -/
def Caller.wake (caller : Caller χ) (cache : Cache χ) : Caller χ :=
  { caller with result := caller.result.or (cache.outcome? caller.generation) }

/-- A cache and its callers, in the order in which they have asked. -/
structure Session (χ : Type) where
  /-- The cache. -/
  cache : Cache χ
  /-- The callers. -/
  callers : List (Caller χ)

namespace Session

/-- The session before any call. -/
def start : Session χ := ⟨.empty, []⟩

/-- The caller who asks for a connection now. -/
def caller (session : Session χ) (address : Address) : Caller χ :=
  let joined := session.cache.join address
  ⟨address, joined.generation, joined.isNew, none⟩

/-- What an event does to a session. -/
def handle [BEq χ] (session : Session χ) (event : Event χ) : Session χ where
  cache := session.cache.handle event
  callers := match event with
    | .create address => session.callers ++ [session.caller address]
    | .wake number => session.callers.modify number (fun caller => caller.wake session.cache)
    | _ => session.callers

/-- The session after events. -/
def after [BEq χ] (session : Session χ) (events : List (Event χ)) : Session χ :=
  events.foldl handle session

end Session

end ServiceMesh.Cache
