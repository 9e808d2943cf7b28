import ServiceMesh.Address
import ServiceMesh.Binding
/-!
# Endpoints and references

A process announces an endpoint: where it is reached and which methods of which services it serves.
Endpoints, services and methods carry tags.  An endpoint expands into references, one for each
method, whose tags are those of all three levels, the more specific level winning.
-/

namespace ServiceMesh

/-- An announced method. -/
structure MethodInfo where
  /-- The name of the method inside its service. -/
  action : String
  /-- How the method exchanges messages. -/
  mode : Mode
  /-- The tags of the method. -/
  tags : Dict String
  deriving DecidableEq

/-- An announced service. -/
structure ServiceInfo where
  /-- The namespace of the service. -/
  space : String
  /-- The tags of the service. -/
  tags : Dict String
  /-- The methods in their order of declaration. -/
  methods : List MethodInfo
  deriving DecidableEq

/-- An announced process. -/
structure Endpoint where
  /-- The identity of the process. -/
  id : String
  /-- Where the process is reached. -/
  address : Address
  /-- The tags of the process. -/
  tags : Dict String
  /-- The services in their order of declaration. -/
  services : List ServiceInfo
  deriving DecidableEq

/-- One method on one endpoint. -/
structure Reference where
  /-- The identity of the endpoint. -/
  endpointId : String
  /-- Where the endpoint is reached. -/
  address : Address
  /-- The namespace of the service. -/
  space : String
  /-- The name of the method. -/
  action : String
  /-- How the method exchanges messages. -/
  mode : Mode
  /-- The merged tags. -/
  tags : Dict String
  deriving DecidableEq

/-- A method without tags. -/
def MethodInfo.of (action : String) (mode : Mode) : MethodInfo := ⟨action, mode, Dict.empty⟩

/-- A copy with one tag written. -/
def MethodInfo.withTag (method : MethodInfo) (key value : String) : MethodInfo :=
  { method with tags := method.tags.insert key value }

/-- A service without tags and methods. -/
def ServiceInfo.of (space : String) : ServiceInfo := ⟨space, Dict.empty, []⟩

/-- A copy with one tag written. -/
def ServiceInfo.withTag (service : ServiceInfo) (key value : String) : ServiceInfo :=
  { service with tags := service.tags.insert key value }

/-- A copy with one more method. -/
def ServiceInfo.withMethod (service : ServiceInfo) (method : MethodInfo) : ServiceInfo :=
  { service with methods := service.methods ++ [method] }

/-- A process without tags and services. -/
def Endpoint.of (id : String) (address : Address) : Endpoint := ⟨id, address, Dict.empty, []⟩

/-- A copy with one tag written. -/
def Endpoint.withTag (endpoint : Endpoint) (key value : String) : Endpoint :=
  { endpoint with tags := endpoint.tags.insert key value }

/-- A copy with further services. -/
def Endpoint.withServices (endpoint : Endpoint) (services : List ServiceInfo) : Endpoint :=
  { endpoint with services := endpoint.services ++ services }

/-- The key under which the method is called. -/
def Reference.qualifier (reference : Reference) : String :=
  Qualifier.join reference.space reference.action

/-- The value of a tag. -/
def Reference.tag? (reference : Reference) (key : String) : Option String :=
  reference.tags.get? key

/-- Two references name the same target if they agree on the endpoint and on the qualifier. -/
def Reference.sameTarget (first second : Reference) : Bool :=
  first.endpointId = second.endpointId && first.qualifier = second.qualifier

/-- The reference of one method of one service of an endpoint. -/
def Endpoint.reference (endpoint : Endpoint) (service : ServiceInfo) (method : MethodInfo) :
    Reference where
  endpointId := endpoint.id
  address := endpoint.address
  space := service.space
  action := method.action
  mode := method.mode
  tags := (endpoint.tags.override service.tags).override method.tags

/-- The references of an endpoint, in the order of declaration. -/
def Endpoint.references (endpoint : Endpoint) : List Reference :=
  endpoint.services.flatMap (fun service => service.methods.map (endpoint.reference service))

/-- The number of different targets among references. -/
def Reference.countTargets : List Reference → Nat
  | [] => 0
  | reference :: references =>
    if references.any reference.sameTarget then countTargets references
    else countTargets references + 1

/-- An optional field, or its default. -/
def Wire.readOr {α : Type} [Wire α] (default : α) : Option Json → Except Mismatch α
  | some value => read value
  | none => .ok default

/-- Tags are an object of strings. -/
instance : Wire MethodInfo where
  typeName := "MethodInfo"
  read value := do
    let values ← Wire.readFields "MethodInfo"
      [Wire.required String "action", Wire.required Mode "mode",
        Wire.defaulted (Dict String) "tags"] value
    match values with
    | [some action, some mode, tags] =>
      return ⟨← Wire.read action, ← Wire.read mode, ← Wire.readOr Dict.empty tags⟩
    | _ => throw (.missingField "action")
  write method :=
    return .obj [("action", ← Wire.write method.action), ("mode", ← Wire.write method.mode),
      ("tags", .ofTexts method.tags)]

instance : Wire ServiceInfo where
  typeName := "ServiceRegistration"
  read value := do
    let values ← Wire.readFields "ServiceRegistration"
      [Wire.required String "namespace", Wire.defaulted (Dict String) "tags",
        Wire.required (List MethodInfo) "methods"] value
    match values with
    | [some space, tags, some methods] =>
      return ⟨← Wire.read space, ← Wire.readOr Dict.empty tags, ← Wire.read methods⟩
    | _ => throw (.missingField "namespace")
  write service :=
    return .obj [("methods", ← Wire.write service.methods),
      ("namespace", ← Wire.write service.space), ("tags", .ofTexts service.tags)]

instance : Wire Endpoint where
  typeName := "ServiceEndpoint"
  read value := do
    let values ← Wire.readFields "ServiceEndpoint"
      [Wire.required String "id", Wire.required Address "address",
        Wire.defaulted (Dict String) "tags", Wire.defaulted (List ServiceInfo) "services"] value
    match values with
    | [some id, some address, tags, services] =>
      return ⟨← Wire.read id, ← Wire.read address, ← Wire.readOr Dict.empty tags,
        ← Wire.readOr [] services⟩
    | _ => throw (.missingField "id")
  write endpoint :=
    return .obj [("address", ← Wire.write endpoint.address), ("id", ← Wire.write endpoint.id),
      ("services", ← Wire.write endpoint.services), ("tags", .ofTexts endpoint.tags)]

end ServiceMesh
