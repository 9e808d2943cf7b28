import ServiceMesh.Proofs.Dispatch.Table
import ServiceMesh.Proofs.Registry.History
import ServiceMesh.Server

/-!
# Announcements of a dispatcher

A dispatcher is built together with what it announces.  The announcement comes back as references in a
registry somewhere else, with qualifiers that are joined anew.  The references are one for each method
(`references_of_registered`), so their qualifiers are the keys of the table; and among what a registry
finds under a qualifier those of one endpoint are its own (`lookup_register`).  The main result is that
what is announced is what is served (`announced_is_served`).
-/

namespace ServiceMesh

variable {ε : Type}

/-- The reference of a registered method, at an endpoint without tags. -/
def Service.reference (service : Service ε) (id : String) (address : Address)
    (method : Method ε) : Reference where
  endpointId := id
  address := address
  space := method.binding.space
  action := method.binding.action
  mode := method.binding.mode
  tags := service.tags.override method.tags

/-! ## References -/

/-- An announcement of services has one reference for each of their methods. -/
theorem references_of_registered {services : List (Service ε)}
    (registered : ∀ service ∈ services, service.Registered) (id : String) (address : Address) :
    ((Endpoint.of id address).withServices (services.map Service.info)).references =
      services.flatMap fun service => service.methods.map (service.reference id address) := by
  have announced : ∀ service ∈ services,
      service.info.methods.map
          (((Endpoint.of id address).withServices (services.map Service.info)).reference
            service.info) =
        service.methods.map (service.reference id address) := by
    intro service member
    rw [Service.info, List.map_map]
    refine List.map_congr_left fun method among => ?_
    have space := (registered service member).housed method among
    simp only [Function.comp_apply, Endpoint.reference, Service.reference, Endpoint.withServices,
      Endpoint.of, Dict.empty_override, space]
  rw [Endpoint.references, Endpoint.withServices, Endpoint.of, List.nil_append, List.flatMap_map]
  exact List.flatMap_congr announced

/-- The qualifiers of the references are those of the methods. -/
theorem map_qualifier_reference (services : List (Service ε)) (id : String) (address : Address) :
    (services.flatMap fun service =>
        service.methods.map (service.reference id address)).map Reference.qualifier =
      (services.flatMap Service.methods).map fun method => method.binding.qualifier := by
  rw [List.map_flatMap, List.map_flatMap]
  simp only [List.map_map]
  rfl

/-- Whatever has been reported before, a registry finds of an endpoint what it has announced last. -/
theorem lookup_register (events : List DiscoveryEvent) (endpoint : Endpoint) (qualifier : String) :
    (((Directory.fresh.listen events).register endpoint).current.lookup qualifier).filter
        (fun reference => reference.endpointId = endpoint.id) =
      endpoint.references.filter (fun reference => reference.qualifier = qualifier) := by
  have last : (Directory.fresh.listen events).register endpoint =
      Directory.fresh.listen (events ++ [.added endpoint]) := by
    rw [Directory.listen, Directory.listen, List.foldl_append]
    rfl
  have recorded := Registry.recorded_listen (events ++ [.added endpoint])
  have member := (recorded.latest endpoint).mpr (Registry.announced_concat.mpr (.inl rfl))
  rw [last, Directory.current_listen, show Directory.fresh.current = Registry.empty from rfl,
    Registry.listen_eq_ofEndpoints, Registry.lookup_ofEndpoints, List.filter_comm,
    Endpoint.filter_endpointId, filter_of_nodup_map recorded.distinct member,
    List.flatMap_singleton]

/-! ## Main result -/

/-- An endpoint announces what a dispatcher of some services serves. -/
structure Announces (services : List (Service ε)) (dispatcher : Dispatcher ε)
    (endpoint : Endpoint) : Prop where
  /-- It is the announcement of each server of the dispatcher at this address. -/
  announced : ∀ server : Server ε, server.dispatcher = dispatcher →
    server.address = some endpoint.address → server.endpoint? endpoint.id = some endpoint
  /-- There is one reference for each registered method, in the order of registration.  The tags of
  the method override those of the service. -/
  references : endpoint.references = services.flatMap fun service =>
    service.methods.map (service.reference endpoint.id endpoint.address)
  /-- No two references have the same qualifier. -/
  distinct : (endpoint.references.map Reference.qualifier).Nodup
  /-- The qualifiers are those that the dispatcher serves. -/
  served : ∀ qualifier, qualifier ∈ endpoint.references.map Reference.qualifier ↔
    dispatcher.contains qualifier = true
  /-- Each reference has the mode in which its qualifier is served. -/
  mode : ∀ reference ∈ endpoint.references,
    (dispatcher.binding? reference.qualifier).map Binding.mode = some reference.mode
  /-- Once it has been registered, a served qualifier is found there by just one reference. -/
  found : ∀ events qualifier, dispatcher.contains qualifier = true →
    ∃ reference ∈ endpoint.references, reference.qualifier = qualifier ∧
      (((Directory.fresh.listen events).register endpoint).current.lookup qualifier).filter
        (fun reference => reference.endpointId = endpoint.id) = [reference]
  /-- No other qualifier is found there. -/
  missing : ∀ events qualifier, dispatcher.contains qualifier = false →
    (((Directory.fresh.listen events).register endpoint).current.lookup qualifier).filter
      (fun reference => reference.endpointId = endpoint.id) = []

/-- What the dispatcher of registered services announces is what it serves. -/
theorem announced_is_served {codecs : CodecRegistry} {services : List (Service ε)}
    {dispatcher : Dispatcher ε} (registered : ∀ service ∈ services, service.Registered)
    (built : Dispatcher.build codecs services = .ok dispatcher) (id : String) (address : Address) :
    Announces services dispatcher
      ((Endpoint.of id address).withServices dispatcher.registrations) := by
  rcases Dispatcher.build_eq_ok_iff.mp built with ⟨-, -, registrations⟩
  have references := references_of_registered registered id address
  rw [registrations] at references
  have qualifiers := (congrArg (List.map Reference.qualifier) references).trans
    (map_qualifier_reference services id address)
  have distinct := qualifiers ▸ Dispatcher.distinct_of_build built
  have served : ∀ qualifier,
      qualifier ∈ (((Endpoint.of id address).withServices
          dispatcher.registrations).references.map Reference.qualifier) ↔
        dispatcher.contains qualifier = true := by
    intro qualifier
    rw [qualifiers, List.mem_map, Dispatcher.contains, Dict.contains, Option.isSome_iff_exists]
    simp only [Dispatcher.get?_of_build built]
  refine ⟨?_, references, distinct, served, ?_, ?_, ?_⟩
  · rintro server rfl located
    rw [Server.endpoint?, located]
    rfl
  · intro reference member
    rw [references] at member
    rcases List.mem_flatMap.mp member with ⟨service, within, listed⟩
    rcases List.mem_map.mp listed with ⟨method, among, rfl⟩
    have found : dispatcher.methods.get? (service.reference id address method).qualifier =
        some method :=
      (Dispatcher.get?_of_build built).mpr ⟨List.mem_flatMap.mpr ⟨service, within, among⟩, rfl⟩
    rw [Dispatcher.binding?, found]
    rfl
  · intro events qualifier contained
    rcases List.mem_map.mp ((served qualifier).mpr contained) with ⟨reference, member, rfl⟩
    refine ⟨reference, member, rfl, ?_⟩
    rw [lookup_register]
    exact filter_of_nodup_map distinct member
  · intro events qualifier absent
    rw [lookup_register, List.filter_eq_nil_iff]
    intro reference member same
    have contained := (served qualifier).mp (of_decide_eq_true same ▸ List.mem_map_of_mem member)
    rw [absent] at contained
    cases contained

/-- Two services in nested namespaces, with tags at both levels. -/
def shops : List (Service Unit) :=
  [(((Service.named "shop").rawRequestResponse "eu/find" fun message => .of (.ok message)).withTag
      "zone" "eu").withMethodTag "eu/find" "zone" "north",
    ((Service.named "shop/eu").requestStream String String "list"
      fun text => .ofList [.ok text]).withTag "zone" "eu"]

/-- The dispatcher of these services. -/
def shopDispatcher : Dispatcher Unit where
  codecs := .withJson
  methods := Dict.ofList ((shops.flatMap Service.methods).map fun method =>
    (method.binding.qualifier, method))
  registrations := shops.map Service.info

/-- The announcement of the two services has a reference for each method. -/
theorem shops_announced :
    (∀ service ∈ shops, service.Registered) ∧
      Dispatcher.build .withJson shops = .ok shopDispatcher ∧
      Announces shops shopDispatcher
        ((Endpoint.of "node" ⟨"127.0.0.1", 4801⟩).withServices shopDispatcher.registrations) ∧
      (((Endpoint.of "node" ⟨"127.0.0.1", 4801⟩).withServices
          shopDispatcher.registrations).references.map fun reference =>
        (reference.qualifier, reference.mode, reference.tag? "zone")) =
        [("shop/eu/find", .requestResponse, some "north"),
          ("shop/eu/list", .requestStream, some "eu")] := by
  have registered : ∀ service ∈ shops, service.Registered := by
    intro service member
    rcases List.mem_pair.mp member with rfl | rfl
    · exact .withMethodTag _ _ _ (.withTag _ _ (.rawRequestResponse _ _ (.named _)))
    · exact .withTag _ _ (.requestStream _ _ _ _ (.named _))
  have built : Dispatcher.build .withJson shops = .ok shopDispatcher := by rfl
  exact ⟨registered, built, announced_is_served registered built "node" ⟨"127.0.0.1", 4801⟩,
    by rfl⟩

end ServiceMesh
