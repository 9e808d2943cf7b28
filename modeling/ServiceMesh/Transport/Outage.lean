import ServiceMesh.Transport

/-!
# Failures of a network

Connections are made over sockets of the operating system.  A host name with a NUL in it names no
socket at all, and a network that is down lets no attempt through.  The reasons are those that the
operating system gives.
-/

namespace ServiceMesh

namespace Address

/-- The reason why a host with a NUL in it cannot be looked up. -/
def nulInName : String := "file name contained an unexpected NUL byte"

/-- Why an address can name no socket, if it cannot. -/
def lookupFailure? (address : Address) : Option String :=
  if address.host.toList.contains '\x00' then some nulInName else none

/-- The error of an address that cannot be looked up. -/
def lookupError (address : Address) (reason : String) : CallError :=
  .unavailable s!"Invalid address '{address.render}': {reason}"

/-- The error of an address to which no connection could be made. -/
def connectError (address : Address) (reason : String) : CallError :=
  .unavailable s!"Failed to connect to {address.render}: {reason}"

end Address

/-- The transport over a network that is down for a given reason. -/
def Transport.outage {ε : Type} (reason : String) : Transport ε Empty Unit where
  connect network address :=
    match address.lookupFailure? with
    | some failure => ⟨[], .error (address.lookupError failure), network⟩
    | none => ⟨[], .error (address.connectError reason), network⟩
  fireAndForget channel := channel.elim
  requestResponse channel := channel.elim
  requestStream channel := channel.elim
  requestChannel channel := channel.elim

end ServiceMesh
