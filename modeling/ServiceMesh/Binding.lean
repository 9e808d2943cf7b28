import ServiceMesh.Mode
import ServiceMesh.Text.Split
/-!
# Qualifiers and method bindings

A method is addressed by its qualifier, the namespace of its service and its action joined by a
slash.  A binding is the fixed description of one method.
-/

namespace ServiceMesh

namespace Qualifier

/-- The qualifier of an action in a namespace. -/
def join (space action : String) : String := space ++ "/" ++ action

/-- The namespace and the action of a qualifier, split at its last slash; a qualifier without slash
is a namespace with an empty action. -/
def split (qualifier : String) : String × String :=
  match Text.splitLast? '/' qualifier.toList with
  | some (space, action) => (String.ofList space, String.ofList action)
  | none => (qualifier, "")

end Qualifier

/-- The fixed description of a method. -/
structure Binding where
  /-- The namespace of the service. -/
  space : String
  /-- The name of the method inside its service. -/
  action : String
  /-- How the method exchanges messages. -/
  mode : Mode
  /-- The name of the type of its responses. -/
  responseType : String
  /-- The method takes whole messages instead of payloads. -/
  requestIsMessage : Bool
  /-- The method answers with whole messages instead of payloads. -/
  responseIsMessage : Bool
  deriving DecidableEq, Repr

namespace Binding

/-- The key under which the method is called. -/
def qualifier (binding : Binding) : String := Qualifier.join binding.space binding.action

/-- A method whose requests and responses are payloads of messages. -/
def typed (space action : String) (mode : Mode) (responseType : String) : Binding :=
  ⟨space, action, mode, responseType, false, false⟩

/-- A method that takes and gives messages as they are. -/
def raw (space action : String) (mode : Mode) : Binding :=
  ⟨space, action, mode, "Message", true, true⟩

end Binding

end ServiceMesh
