import ServiceMesh.Proofs.Registry.Index

/-!
# What a registry remembers

The endpoints of a registry are told by what has been reported so far: of each identity the last
announcement, if no removal has followed it (`Announced`), in the order in which the identities have
become known (`KnownSince`).  What one event does to both is told by its being the last; the endpoints
follow by induction (`recorded_listen`).  The main result (`registry_mirrors_history`) adds the index
and what is seen by those who remove an endpoint or hold a snapshot.
-/

namespace ServiceMesh

/-- The identity that an event is about. -/
def DiscoveryEvent.id : DiscoveryEvent → String
  | .added endpoint => endpoint.id
  | .removed id => id

namespace Registry

/-! ## What has been reported -/

/-- The last event about the identity of the endpoint announces just this endpoint. -/
def Announced (events : List DiscoveryEvent) (endpoint : Endpoint) : Prop :=
  ∃ before after, events = before ++ .added endpoint :: after ∧
    ∀ event ∈ after, event.id ≠ endpoint.id

/-- The first announcement of an identity since it was last removed has this number: before it the
identity is not known, and no removal follows. -/
def KnownSince (events : List DiscoveryEvent) (id : String) (number : Nat) : Prop :=
  ∃ before endpoint after, events = before ++ .added endpoint :: after ∧ endpoint.id = id ∧
    before.length = number ∧ (∀ known, Announced before known → known.id ≠ id) ∧
      .removed id ∉ after

variable {events : List DiscoveryEvent} {event : DiscoveryEvent} {endpoint : Endpoint}
  {id : String} {number : Nat}

theorem not_announced_nil : ¬ Announced [] endpoint := by
  rintro ⟨before, after, split, -⟩
  exact absurd split (by simp)

/-- One more event announces its own endpoint, and leaves the other identities alone. -/
theorem announced_concat :
    Announced (events ++ [event]) endpoint ↔
      event = .added endpoint ∨ (event.id ≠ endpoint.id ∧ Announced events endpoint) := by
  constructor
  · rintro ⟨before, after, split, silent⟩
    cases after using List.reverseRecOn with
    | nil => exact .inl (List.append_singleton_inj.mp split).2
    | append_singleton after last =>
        rw [← List.cons_append, ← List.append_assoc, List.append_singleton_inj] at split
        rcases split with ⟨rfl, rfl⟩
        exact .inr ⟨silent event (by simp), before, after, rfl,
          fun other member => silent other (List.mem_append_left _ member)⟩
  · rintro (rfl | ⟨other, before, after, rfl, silent⟩)
    · exact ⟨events, [], rfl, by simp⟩
    · refine ⟨before, after ++ [event], by simp, fun later member => ?_⟩
      rcases List.mem_append.mp member with earlier | last
      · exact silent later earlier
      · rw [List.mem_singleton.mp last]
        exact other

theorem KnownSince.lt (since : KnownSince events id number) : number < events.length := by
  rcases since with ⟨before, _, after, rfl, -, rfl, -⟩
  simp

/-- An identity stays known as long as it is not removed. -/
theorem KnownSince.later (since : KnownSince events id number) (kept : event ≠ .removed id) :
    KnownSince (events ++ [event]) id number := by
  rcases since with ⟨before, endpoint, after, rfl, same, length, fresh, silent⟩
  refine ⟨before, endpoint, after ++ [event], by simp, same, length, fresh, ?_⟩
  rw [List.mem_append, List.mem_singleton, not_or]
  exact ⟨silent, kept.symm⟩

/-- A new identity is known from its announcement on. -/
theorem knownSince_added (fresh : ∀ known, Announced events known → known.id ≠ endpoint.id) :
    KnownSince (events ++ [.added endpoint]) endpoint.id events.length :=
  ⟨events, endpoint, [], rfl, rfl, rfl, fresh, by simp⟩

/-- Whoever is announced is known since some event. -/
theorem Announced.knownSince (announced : Announced events endpoint) :
    ∃ number, KnownSince events endpoint.id number := by
  induction events using List.reverseRecOn generalizing endpoint with
  | nil => exact absurd announced not_announced_nil
  | append_singleton events event induction =>
      rcases announced_concat.mp announced with rfl | ⟨other, earlier⟩
      · by_cases before : ∃ known, Announced events known ∧ known.id = endpoint.id
        · rcases before with ⟨known, earlier, same⟩
          rcases induction earlier with ⟨number, since⟩
          exact ⟨number, same ▸ since.later nofun⟩
        · exact ⟨events.length, knownSince_added fun known earlier same =>
            before ⟨known, earlier, same⟩⟩
      · rcases induction earlier with ⟨number, since⟩
        refine ⟨number, since.later ?_⟩
        rintro rfl
        exact other rfl

/-- Whatever identity is known has an announcement. -/
theorem KnownSince.announced (since : KnownSince events id number) :
    ∃ known, Announced events known ∧ known.id = id := by
  rcases since with ⟨before, endpoint, after, rfl, rfl, -, -, silent⟩
  induction after using List.reverseRecOn with
  | nil => exact ⟨endpoint, ⟨before, [], rfl, by simp⟩, rfl⟩
  | append_singleton after event induction =>
      rw [List.mem_append, List.mem_singleton, not_or] at silent
      rcases induction silent.1 with ⟨known, earlier, same⟩
      rw [← List.cons_append, ← List.append_assoc]
      by_cases about : event.id = endpoint.id
      · cases event with
        | added announced => exact ⟨announced, announced_concat.mpr (.inl rfl), about⟩
        | removed id => exact absurd (congrArg DiscoveryEvent.removed about.symm) silent.2
      · exact ⟨known, announced_concat.mpr (.inr ⟨same ▸ about, earlier⟩), same⟩

theorem KnownSince.not_lt {other : Nat} (since : KnownSince events id number)
    (also : KnownSince events id other) : ¬ number < other := by
  rcases since with ⟨before, endpoint, after, rfl, same, rfl, unknown, silent⟩
  rcases also with ⟨longer, _, rest, split, -, rfl, fresh, -⟩
  intro less
  have first : before ++ [.added endpoint] <+: before ++ .added endpoint :: after :=
    ⟨after, by simp⟩
  have shorter : (before ++ [DiscoveryEvent.added endpoint]).length ≤ longer.length := by
    rw [List.length_append, List.length_singleton]
    exact less
  rcases List.prefix_of_prefix_length_le first ⟨_, split.symm⟩ shorter with ⟨between, rfl⟩
  rw [List.append_assoc, List.append_assoc, List.append_cancel_left_eq, List.singleton_append,
    List.cons.injEq] at split
  rw [split.2, List.mem_append, not_or] at silent
  -- Before the later announcement the identity was known, because the earlier one had come.
  have known : KnownSince (before ++ [.added endpoint] ++ between) id before.length :=
    ⟨before, endpoint, between, by simp, same, rfl, unknown, silent.1⟩
  rcases known.announced with ⟨known, announced, named⟩
  exact fresh known announced named

/-- An identity is known since one event only. -/
theorem KnownSince.unique {other : Nat} (since : KnownSince events id number)
    (also : KnownSince events id other) : number = other :=
  Nat.le_antisymm (Nat.not_lt.mp (also.not_lt since)) (Nat.not_lt.mp (since.not_lt also))

/-! ## What is recorded -/

/-- The endpoints that are recorded after some events. -/
structure Recorded (events : List DiscoveryEvent) (endpoints : List Endpoint) : Prop where
  distinct : (endpoints.map Endpoint.id).Nodup
  latest : ∀ endpoint, endpoint ∈ endpoints ↔ Announced events endpoint
  order : (endpoints.map Endpoint.id).Pairwise fun first second =>
    ∃ number other, KnownSince events first number ∧ KnownSince events second other ∧
      number < other

namespace Recorded

variable {endpoints : List Endpoint}

theorem mem_map_id_iff (recorded : Recorded events endpoints) :
    id ∈ endpoints.map Endpoint.id ↔ ∃ known, Announced events known ∧ known.id = id := by
  simp only [List.mem_map, recorded.latest]

/-- Identities that an event leaves known keep their order. -/
theorem order_later {ids : List String} (kept : ∀ id ∈ ids, event ≠ .removed id)
    (order : ids.Pairwise fun first second =>
      ∃ number other, KnownSince events first number ∧ KnownSince events second other ∧
        number < other) :
    ids.Pairwise fun first second =>
      ∃ number other, KnownSince (events ++ [event]) first number ∧
        KnownSince (events ++ [event]) second other ∧ number < other := by
  refine List.Pairwise.imp_of_mem ?_ order
  rintro first second among also ⟨number, other, since, later, before⟩
  exact ⟨number, other, since.later (kept first among), later.later (kept second also), before⟩

theorem announce (recorded : Recorded events endpoints) (endpoint : Endpoint) :
    Recorded (events ++ [.added endpoint]) (Registry.announce endpoint endpoints) := by
  have kept : ∀ id ∈ endpoints.map Endpoint.id, DiscoveryEvent.added endpoint ≠ .removed id :=
    fun _ _ => nofun
  have latest (known : Endpoint) : known ∈ Registry.announce endpoint endpoints ↔
      Announced (events ++ [.added endpoint]) known := by
    rw [mem_announce_iff recorded.distinct, announced_concat, recorded.latest,
      DiscoveryEvent.added.injEq]
    exact or_congr eq_comm (and_comm.trans (and_congr_left' ne_comm))
  by_cases known : endpoint.id ∈ endpoints.map Endpoint.id
  · have ids : (Registry.announce endpoint endpoints).map Endpoint.id =
        endpoints.map Endpoint.id := by
      rw [map_id_announce, if_pos known]
    exact ⟨ids ▸ recorded.distinct, latest, ids ▸ order_later kept recorded.order⟩
  · have ids : (Registry.announce endpoint endpoints).map Endpoint.id =
        endpoints.map Endpoint.id ++ [endpoint.id] := by
      rw [map_id_announce, if_neg known]
    refine ⟨?_, latest, ?_⟩
    · rw [ids]
      exact List.nodup_append.mpr ⟨recorded.distinct, List.nodup_singleton _,
        fun id among other last same => known (List.mem_singleton.mp last ▸ same ▸ among)⟩
    · rw [ids, List.pairwise_append]
      refine ⟨order_later kept recorded.order, List.pairwise_singleton _ _, ?_⟩
      intro id among last new
      rcases recorded.mem_map_id_iff.mp among with ⟨earlier, announced, rfl⟩
      rcases announced.knownSince with ⟨number, since⟩
      rw [List.mem_singleton.mp new]
      exact ⟨number, events.length, since.later nofun,
        knownSince_added fun other early same =>
          known (recorded.mem_map_id_iff.mpr ⟨other, early, same⟩), since.lt⟩

theorem remove (recorded : Recorded events endpoints) (id : String) :
    Recorded (events ++ [.removed id]) (endpoints.filter fun endpoint => endpoint.id ≠ id) := by
  have fewer : ((endpoints.filter fun endpoint => endpoint.id ≠ id).map Endpoint.id).Sublist
      (endpoints.map Endpoint.id) :=
    List.filter_sublist.map _
  refine ⟨recorded.distinct.sublist fewer, fun known => ?_, ?_⟩
  · rw [List.mem_filter, recorded.latest, announced_concat, decide_eq_true_iff]
    constructor
    · rintro ⟨announced, other⟩
      exact .inr ⟨other.symm, announced⟩
    · rintro (added | ⟨other, announced⟩)
      · cases added
      · exact ⟨announced, other.symm⟩
  · refine order_later (fun other among removed => ?_) (recorded.order.sublist fewer)
    rcases List.mem_map.mp among with ⟨endpoint, within, rfl⟩
    have left : endpoint.id ≠ id := by simpa using (List.mem_filter.mp within).2
    exact left (DiscoveryEvent.removed.inj removed).symm

theorem apply {registry : Registry} (recorded : Recorded events registry.endpoints)
    (event : DiscoveryEvent) : Recorded (events ++ [event]) (registry.apply event).endpoints := by
  cases event with
  | added endpoint => exact recorded.announce endpoint
  | removed id =>
      have removed := recorded.remove id
      rw [Registry.apply, unregister]
      split
      · exact removed
      · rename_i unknown
        -- Nothing is removed, because there was no such endpoint.
        have same : (registry.endpoints.filter fun endpoint => endpoint.id ≠ id) =
            registry.endpoints := by
          rw [List.filter_eq_self]
          intro endpoint among
          simp only [knows, List.any_eq_true, not_exists, not_and] at unknown
          simpa using unknown endpoint among
        exact same ▸ removed

end Recorded

theorem listen_concat (registry : Registry) (events : List DiscoveryEvent)
    (event : DiscoveryEvent) :
    registry.listen (events ++ [event]) = (registry.listen events).apply event := by
  rw [listen, List.foldl_append]
  rfl

theorem recorded_listen (events : List DiscoveryEvent) :
    Recorded events (empty.listen events).endpoints := by
  induction events using List.reverseRecOn with
  | nil =>
      exact ⟨List.nodup_nil, fun endpoint => iff_of_false List.not_mem_nil not_announced_nil,
        List.Pairwise.nil⟩
  | append_singleton events event induction =>
      rw [listen_concat]
      exact induction.apply event

/-- Whatever happens, a registry is that of its endpoints. -/
theorem listen_eq_ofEndpoints (events : List DiscoveryEvent) :
    empty.listen events = ofEndpoints (empty.listen events).endpoints := by
  induction events using List.reverseRecOn with
  | nil => rfl
  | append_singleton events event induction =>
      rw [listen_concat]
      cases event with
      | added endpoint => rfl
      | removed id =>
          rw [apply, unregister]
          split
          · rfl
          · exact induction

end Registry

/-! ## Main result -/

/-- What holds of a directory after some events. -/
structure Mirrors (events : List DiscoveryEvent) (directory : Directory) : Prop where
  /-- No two endpoints have one identity. -/
  distinct : (directory.current.endpoints.map Endpoint.id).Nodup
  /-- The endpoints are the latest announcements of those who have not been removed since. -/
  latest : ∀ endpoint,
    endpoint ∈ directory.current.endpoints ↔ Registry.Announced events endpoint
  /-- Each identity has become known at one place. -/
  place : ∀ endpoint ∈ directory.current.endpoints,
    ∃! number, Registry.KnownSince events endpoint.id number
  /-- The endpoints stand in the order in which their identities have become known. -/
  order : (directory.current.endpoints.map Endpoint.id).Pairwise fun first second =>
    ∃ number other, Registry.KnownSince events first number ∧
      Registry.KnownSince events second other ∧ number < other
  /-- A look-up gives the references of one endpoint after the other, as they are declared. -/
  lookup : ∀ qualifier, directory.current.lookup qualifier =
    directory.current.endpoints.flatMap fun endpoint => endpoint.services.flatMap fun service =>
      (service.methods.filter fun method =>
        Qualifier.join service.space method.action = qualifier).map (endpoint.reference service)
  /-- A tag is that of the method, else of the service, else of the endpoint. -/
  tags : ∀ (endpoint : Endpoint) (service : ServiceInfo) (method : MethodInfo) (key : String),
    (endpoint.reference service method).tag? key =
      (method.tags.get? key).or ((service.tags.get? key).or (endpoint.tags.get? key))
  /-- The qualifiers are those that have a reference, each once. -/
  qualifiers : directory.current.qualifiers.Nodup ∧ ∀ qualifier,
    qualifier ∈ directory.current.qualifiers ↔ directory.current.lookup qualifier ≠ []
  /-- Who removes an identity learns whether it was known. -/
  removal : ∀ id, (directory.unregister id).1 = true ↔
    ∃ endpoint ∈ directory.current.endpoints, endpoint.id = id
  /-- The removal of an unknown identity changes nothing. -/
  unknown : ∀ id, (directory.unregister id).1 = false → (directory.unregister id).2 = directory
  /-- A snapshot shows the same registry, whatever happens later. -/
  kept : ∀ more, (directory.listen more).view? directory.snapshot = some directory.current

/-- Whatever has been reported to a directory, it mirrors just that. -/
theorem registry_mirrors_history (events : List DiscoveryEvent) :
    Mirrors events (Directory.fresh.listen events) := by
  have current : (Directory.fresh.listen events).current = Registry.empty.listen events :=
    Directory.current_listen Directory.fresh events
  have recorded : Registry.Recorded events (Directory.fresh.listen events).current.endpoints :=
    current ▸ Registry.recorded_listen events
  have indexed : (Directory.fresh.listen events).current =
      .ofEndpoints (Directory.fresh.listen events).current.endpoints :=
    current ▸ Registry.listen_eq_ofEndpoints events
  refine ⟨recorded.distinct, recorded.latest, fun endpoint among => ?_, recorded.order,
    fun qualifier => ?_, Endpoint.tag?_reference, ⟨Dict.nodup_keys _, fun qualifier => ?_⟩,
    fun id => Directory.unregister_iff, fun id => Directory.unregister_of_absent,
    Directory.view?_listen _⟩
  · rcases ((recorded.latest endpoint).mp among).knownSince with ⟨number, since⟩
    exact ⟨number, since, fun other also => also.unique since⟩
  · rw [indexed, Registry.lookup_ofEndpoints, List.filter_flatMap]
    simp only [Endpoint.filter_references]
    rfl
  · rw [indexed]
    exact Registry.mem_qualifiers_ofEndpoints

end ServiceMesh
