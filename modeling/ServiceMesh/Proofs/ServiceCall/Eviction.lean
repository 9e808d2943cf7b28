import ServiceMesh.Proofs.ServiceCall.Traffic

/-!
# Eviction of broken connections

An error of a call evicts the connection that the call was sent on, and nothing else, and only if it
says that this connection is broken (`eviction_is_exact`).  By the time of the error the entry of the
address may have been removed or replaced, other calls may have failed, and all of this may go on
between two results of one call.
-/

namespace ServiceMesh

namespace Cache

variable {χ : Type}

/-- No two attempts have made the same channel. -/
def Fresh (cache : Cache χ) : Prop :=
  ∀ generation other channel, cache.outcome? generation = some (.ok channel) →
    cache.outcome? other = some (.ok channel) → generation = other

end Cache

namespace ServiceCall

variable {ε χ ω : Type}

/-- An error says that a connection is broken, which the entry of its address holds. -/
def Breaks (cache : Cache χ) (remote : Remote χ) (error : CallError) : Prop :=
  (error.kind = .connection ∧ error.isRemote = false) ∧
    ∃ generation, cache.generation? remote.address = some generation ∧
      cache.outcome? generation = some (.ok remote.channel)

/-- What an error of a call over a connection does, as its result is pulled. -/
structure EvictsExactly [BEq χ] (traffic : Traffic ε χ ω) (number : Nat) (remote : Remote χ)
    (error : CallError) : Prop where
  /-- The entry of the address is removed just if it holds the channel, and the error is of the kind
  `connection` and arose here. -/
  removed :
    (traffic.cache.contains remote.address = true ∧
        (traffic.handle (.pull number)).cache.contains remote.address = false) ↔
      Breaks traffic.cache remote error
  /-- Otherwise the whole cache stays as it is. -/
  unchanged : ¬ Breaks traffic.cache remote error →
    (traffic.handle (.pull number)).cache = traffic.cache
  /-- The entries of other addresses stay. -/
  others : ∀ address, address ≠ remote.address →
    (traffic.handle (.pull number)).cache.generation? address = traffic.cache.generation? address
  /-- Entries of other attempts stay, as long as transports make new channels. -/
  newer : traffic.cache.Fresh → ∃ made,
    (traffic.cache.attempts[made]?).map Attempt.address = some remote.address ∧
      traffic.cache.outcome? made = some (.ok remote.channel) ∧
        ∀ address generation, traffic.cache.generation? address = some generation →
          generation ≠ made →
            (traffic.handle (.pull number)).cache.generation? address = some generation
  /-- Nobody who asks after the connection was found to be broken is given it, as long as transports
  make new channels. -/
  never : error.kind = .connection → error.isRemote = false → ∀ more,
    ((traffic.handle (.pull number)).after more).cache.Fresh →
      ∀ (position : Nat) caller,
        (traffic.handle (.pull number)).session.callers.length ≤ position →
          ((traffic.handle (.pull number)).after more).session.callers[position]? =
              some caller →
            caller.result ≠ some (.ok remote.channel)

theorem breaksConnection_iff {error : CallError} :
    error.breaksConnection = true ↔ error.kind = .connection ∧ error.isRemote = false := by
  simp [CallError.breaksConnection]

section

variable [DecidableEq χ] {cache : Cache χ} {remote : Remote χ} {error : CallError}

/-! ## One error -/

/-- A connection error that arose here is the removal of a channel. -/
theorem observe_of_connection (kind : error.kind = .connection) (here : error.isRemote = false) :
    observe cache remote error = cache.handle (.evictChannel remote.address remote.channel) :=
  if_pos (breaksConnection_iff.mpr ⟨kind, here⟩)

theorem observe_of_breaks (breaks : Breaks cache remote error) :
    observe cache remote error = cache.evict remote.address := by
  rcases breaks with ⟨⟨kind, here⟩, held⟩
  rw [observe_of_connection kind here]
  exact if_pos (Cache.holds_iff.mpr held)

theorem observe_of_not_breaks (stays : ¬ Breaks cache remote error) :
    observe cache remote error = cache := by
  rw [observe]
  split
  · rename_i breaks
    apply if_neg
    intro held
    exact stays ⟨breaksConnection_iff.mp breaks, Cache.holds_iff.mp held⟩
  · rfl

theorem removed_iff :
    (cache.contains remote.address = true ∧
        (observe cache remote error).contains remote.address = false) ↔
      Breaks cache remote error := by
  constructor
  · rintro ⟨present, absent⟩
    by_contra stays
    rw [observe_of_not_breaks stays, present] at absent
    cases absent
  · intro breaks
    rw [observe_of_breaks breaks]
    rcases breaks with ⟨_, generation, found, _⟩
    exact ⟨by simp [Cache.contains, found], by simp [Cache.contains]⟩

theorem generation?_observe_of_ne {address : Address} (different : address ≠ remote.address) :
    (observe cache remote error).generation? address = cache.generation? address := by
  by_cases breaks : Breaks cache remote error
  · rw [observe_of_breaks breaks, Cache.generation?_evict, if_neg different]
  · rw [observe_of_not_breaks breaks]

/-- The entry of another attempt than the one that has made the channel stays. -/
theorem generation?_observe_of_newer (fresh : cache.Fresh) {made generation : Nat}
    (ended : cache.outcome? made = some (.ok remote.channel)) {address : Address}
    (found : cache.generation? address = some generation) (newer : generation ≠ made) :
    (observe cache remote error).generation? address = some generation := by
  by_cases breaks : Breaks cache remote error
  · have different : address ≠ remote.address := by
      rintro rfl
      rcases breaks with ⟨_, held, entry, outcome⟩
      cases found.symm.trans entry
      exact newer (fresh _ _ _ outcome ended)
    rw [generation?_observe_of_ne different, found]
  · rw [observe_of_not_breaks breaks, found]

/-! ## Calls under way -/

namespace Traffic

/-- The cache sees of a pull only the failure that it gives. -/
theorem cache_pull {traffic : Traffic ε χ ω} {number : Nat} {carrier : Option (Remote χ)}
    {results : Results ε χ} (present : traffic.exchanges[number]? = some (.answering carrier results))
    (reports : Reports carrier results) :
    (traffic.handle (.pull number)).cache =
      traffic.cache.after ((failuresOf carrier results.next.2.1).flatMap eviction) := by
  have marked : failures results.next.1 = failuresOf carrier results.next.2.1 :=
    reports results.state
  rw [cache, session_handle, Cache.cache_after, cacheEvents, present]
  exact congrArg (fun lost => traffic.cache.after (lost.flatMap eviction)) marked

/-- The cache observes an error that comes over a connection. -/
theorem cache_pull_of_error {traffic : Traffic ε χ ω} {number : Nat} {results : Results ε χ}
    (present : traffic.exchanges[number]? = some (.answering (some remote) results))
    (reports : Reports (some remote) results) (given : results.next.2.1 = .item (.error error)) :
    (traffic.handle (.pull number)).cache = observe traffic.cache remote error := by
  rw [cache_pull present reports, given, observe_eq]
  exact congrArg traffic.cache.after (List.append_nil _)

/-- Nobody is given a connection who asks for one after its entry is gone. -/
theorem result_ne_of_gone {traffic : Traffic ε χ ω} (orderly : traffic.Orderly) {made : Nat}
    {channel : χ} (ended : traffic.cache.outcome? made = some (.ok channel))
    (gone : Cache.Gone traffic.cache made) (more : List (Event ε χ ω))
    (fresh : (traffic.after more).cache.Fresh) {position : Nat} {caller : Cache.Caller χ}
    (later : traffic.session.callers.length ≤ position)
    (present : (traffic.after more).session.callers[position]? = some caller) :
    caller.result ≠ some (.ok channel) := by
  intro result
  rcases session_after traffic more with ⟨events, equal⟩
  have given := (orderly.after more).kept.given caller (List.mem_of_getElem? present) _ result
  have still : (traffic.after more).cache.outcome? made = some (.ok channel) := by
    rw [cache, equal, Cache.cache_after]
    exact (Cache.grows_after _ _).outcome? ended
  rw [equal] at present
  exact orderly.kept.later_generation_ne gone events later present
    (fresh _ _ _ given still)

end Traffic

/-- An error that a call gives evicts the connection of the call from the cache, just if this
connection is broken, whatever else is going on. -/
theorem eviction_is_exact (events : List (Traffic.Event ε χ ω)) {number : Nat}
    {results : Results ε χ}
    (sent : (Traffic.start.after events).exchanges[number]? =
      some (.answering (some remote) results))
    (given : results.next.2.1 = .item (.error error)) :
    EvictsExactly (Traffic.start.after events) number remote error := by
  have orderly := Traffic.orderly_after events
  have fits := orderly.fits _ results (List.mem_of_getElem? sent)
  -- All that the cache sees of the pull is this error, and some attempt has made the channel.
  have observed := Traffic.cache_pull_of_error sent fits.reports given
  rcases fits.made remote rfl with ⟨made, own, ended⟩
  refine
    { removed := by rw [observed]; exact removed_iff
      unchanged := by rw [observed]; exact observe_of_not_breaks
      others := fun address different => by rw [observed, generation?_observe_of_ne different]
      newer := fun fresh => ⟨made, own, ended, fun address generation found newer => ?_⟩
      never := fun kind here more fresh position caller later present => ?_ }
  · rw [observed]
    exact generation?_observe_of_newer fresh ended found newer
  · have still := (Traffic.grows_handle _ (.pull number)).outcome? ended
    apply Traffic.result_ne_of_gone (orderly.handle (.pull number)) still ?_ more fresh later present
    -- Whether or not the entry was still there, the attempt has none any more.
    rw [observed, observe_of_connection kind here]
    exact Cache.gone_of_evictChannel orderly.kept.sound own ended

end

/-- A transport whose connections break as soon as they have given a response. -/
def flaky : Transport Unit Nat Nat where
  connect made _ := ⟨[], .ok made, made + 1⟩
  fireAndForget _ _ := .of (.error (.connection "reset"))
  requestResponse _ _ := .of (.error (.connection "reset"))
  requestStream _ message := .ofList [.ok message, .error (.connection "reset")]
  requestChannel _ _ := .failed (.connection "reset")

/-- A service call that knows one endpoint and reaches it over flaky connections. -/
def flakyCall : ServiceCall Unit Nat Nat where
  dispatcher := none
  transport := some flaky
  codecs := .withJson
  registry := .ofEndpoints [(Endpoint.of "east" ⟨"east", 4801⟩).withServices
    [(ServiceInfo.of "Greeting").withMethod (.of "many" .requestStream)]]
  router := .roundRobin Dict.empty
  cache := .empty
  network := 0

/-- A request for a stream of greetings. -/
def greetings : Request Unit := .requestStream (Message.blank.withQualifier "Greeting/many")

/-- The first greeting comes while another caller asks for the same connection. -/
def flakyTraffic : List (Traffic.Event Unit Nat Nat) :=
  [.call flakyCall greetings, .cache (.settle 0 (.ok 0)), .cache (.wake 0), .proceed 0,
    .cache (.create ⟨"east", 4801⟩), .pull 0]

/-- The remaining greetings break the connection. -/
theorem flakyTraffic_evicts :
    (Traffic.start.after flakyTraffic).cache.Fresh ∧
      Breaks (Traffic.start.after flakyTraffic).cache ⟨⟨"east", 4801⟩, 0⟩ (.connection "reset") ∧
        EvictsExactly (Traffic.start.after flakyTraffic) 0 ⟨⟨"east", 4801⟩, 0⟩
          (.connection "reset") := by
  refine ⟨?_, ⟨⟨rfl, rfl⟩, 0, rfl, rfl⟩, ?_⟩
  · rintro (_ | generation) (_ | other) channel made again
    · rfl
    · cases again
    · cases made
    · cases made
  · apply eviction_is_exact flakyTraffic
    case sent => rfl
    case given => rfl

end ServiceCall

end ServiceMesh
