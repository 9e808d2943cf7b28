import ServiceMesh.Endpoint
/-!
# The registry of endpoints

Discovery reports which endpoints appear and disappear.  The registry keeps the latest announcement
of each, a repeated announcement in the place of the first, and an index from qualifiers to
references.  A registry is a value, so one kept from earlier never changes.
-/

namespace ServiceMesh

/-- A change that discovery reports. -/
inductive DiscoveryEvent where
  /-- A process became reachable, or announces itself anew. -/
  | added (endpoint : Endpoint)
  /-- The process with this identity is gone. -/
  | removed (id : String)
  deriving DecidableEq

/-- The known endpoints and the index of their references. -/
structure Registry where
  /-- The endpoints in the order in which they appeared. -/
  endpoints : List Endpoint
  /-- The references of each qualifier, in the order of the endpoints. -/
  index : Dict (List Reference)

namespace Registry

/-- The index with one more reference at the end of its qualifier's list. -/
def addReference (index : Dict (List Reference)) (reference : Reference) :
    Dict (List Reference) :=
  index.insert reference.qualifier ((index.get? reference.qualifier).getD [] ++ [reference])

/-- The registry of a list of endpoints. -/
def ofEndpoints (endpoints : List Endpoint) : Registry :=
  ⟨endpoints, (endpoints.flatMap Endpoint.references).foldl addReference Dict.empty⟩

/-- The registry without endpoints. -/
def empty : Registry := ofEndpoints []

/-- The references of a qualifier. -/
def lookup (registry : Registry) (qualifier : String) : List Reference :=
  (registry.index.get? qualifier).getD []

/-- The qualifiers that have a reference. -/
def qualifiers (registry : Registry) : List String := registry.index.keys

/-- Whether no endpoint is known. -/
def isEmpty (registry : Registry) : Bool := registry.endpoints.isEmpty

/-- Endpoints with an announcement put in the place of the earlier one of the same identity, or at
the end. -/
def announce (endpoint : Endpoint) : List Endpoint → List Endpoint
  | [] => [endpoint]
  | known :: others =>
    if known.id = endpoint.id then endpoint :: others else known :: announce endpoint others

/-- The registry after an announcement. -/
def register (registry : Registry) (endpoint : Endpoint) : Registry :=
  ofEndpoints (announce endpoint registry.endpoints)

/-- Whether an identity is known. -/
def knows (registry : Registry) (id : String) : Bool :=
  registry.endpoints.any (fun endpoint => endpoint.id = id)

/-- The registry without one identity; an unknown one leaves it as it is. -/
def unregister (registry : Registry) (id : String) : Registry :=
  if registry.knows id then
    ofEndpoints (registry.endpoints.filter (fun endpoint => endpoint.id ≠ id))
  else registry

/-- The registry after a reported change. -/
def apply (registry : Registry) : DiscoveryEvent → Registry
  | .added endpoint => registry.register endpoint
  | .removed id => registry.unregister id

/-- The registry after a sequence of reported changes. -/
def listen (registry : Registry) (events : List DiscoveryEvent) : Registry :=
  events.foldl apply registry

end Registry

end ServiceMesh
