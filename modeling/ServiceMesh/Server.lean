import ServiceMesh.Dispatcher
import ServiceMesh.Transport.Outage

/-!
# Servers

A server serves a dispatcher at an address.  It is started and stopped in two steps each: first the
listener is bound or released, and then the recorded address is written or cleared.  Between the two
steps others may act.  The address that a server records is the one that its announcements carry.
-/

namespace ServiceMesh

/-- The listening sockets of a machine. -/
structure Machine where
  /-- The addresses that are listened at. -/
  listening : List Address
  /-- The next port that is handed out where any port will do. -/
  nextPort : UInt16
  deriving DecidableEq, Repr

namespace Machine

/-- The reason why an address cannot be listened at twice. -/
def addressInUse : String := "Address already in use (os error 98)"

/-- Listens at an address, and gives the address that it came to be.  Port zero stands for a free
port. -/
def listen (machine : Machine) (address : Address) : Except String Address × Machine :=
  match address.lookupFailure? with
  | some failure => (.error failure, machine)
  | none =>
    if address.port = 0 then
      let bound : Address := { address with port := machine.nextPort }
      (.ok bound, ⟨bound :: machine.listening, machine.nextPort + 1⟩)
    else if machine.listening.contains address then (.error addressInUse, machine)
    else (.ok address, { machine with listening := address :: machine.listening })

/-- Stops listening at an address. -/
def release (machine : Machine) (address : Address) : Machine :=
  { machine with listening := machine.listening.erase address }

end Machine

/-- What accepts the connections of a server. -/
structure Listener where
  /-- The address that is listened at. -/
  bound : Option Address
  /-- The numbers of the open connections. -/
  connections : List Nat
  /-- The number of the next connection. -/
  nextConnection : Nat
  deriving DecidableEq, Repr

namespace Listener

/-- A listener that is not bound. -/
def idle : Listener := ⟨none, [], 0⟩

/-- The error of a listener that is bound already. -/
def alreadyBound (address : Address) : CallError :=
  .badRequest s!"Server transport already bound to {address.render}"

/-- The error of an address that cannot be bound. -/
def bindError (address : Address) (reason : String) : CallError :=
  .unavailable s!"Failed to bind to {address.render}: {reason}"

/-- Binds an idle listener. -/
def bind (listener : Listener) (machine : Machine) (address : Address) :
    Outcome Address × Listener × Machine :=
  match listener.bound with
  | some bound => (.error (alreadyBound bound), listener, machine)
  | none =>
    match machine.listen address with
    | (.error reason, machine) => (.error (bindError address reason), listener, machine)
    | (.ok bound, machine) => (.ok bound, ⟨some bound, [], 0⟩, machine)

/-- Releases a listener and closes its connections. -/
def stop (listener : Listener) (machine : Machine) : Listener × Machine :=
  match listener.bound with
  | some bound => (idle, machine.release bound)
  | none => (listener, machine)

/-- A connection has come in. -/
def accept (listener : Listener) : Listener :=
  { listener with
    connections := listener.nextConnection :: listener.connections
    nextConnection := listener.nextConnection + 1 }

/-- A connection has closed. -/
def disconnect (listener : Listener) (connection : Nat) : Listener :=
  { listener with connections := listener.connections.erase connection }

end Listener

/-- A dispatcher that is served at an address. -/
structure Server (ε : Type) : Type 1 where
  /-- What is served. -/
  dispatcher : Dispatcher ε
  /-- What accepts connections. -/
  listener : Listener
  /-- The recorded address. -/
  address : Option Address

namespace Server

variable {ε : Type}

/-- A server that has not been started. -/
def of (dispatcher : Dispatcher ε) : Server ε := ⟨dispatcher, .idle, none⟩

/-- The first step of a start. -/
def bind (server : Server ε) (machine : Machine) (address : Address) :
    Outcome Address × Server ε × Machine :=
  let (outcome, listener, machine) := server.listener.bind machine address
  (outcome, { server with listener }, machine)

/-- The second step of a start that was bound. -/
def record (server : Server ε) (bound : Address) : Server ε :=
  { server with address := some bound }

/-- The first step of a stop. -/
def release (server : Server ε) (machine : Machine) : Server ε × Machine :=
  let (listener, machine) := server.listener.stop machine
  ({ server with listener }, machine)

/-- The second step of a stop. -/
def forget (server : Server ε) : Server ε := { server with address := none }

/-- Starts a server without interruption. -/
def start (server : Server ε) (machine : Machine) (address : Address) :
    Outcome Address × Server ε × Machine :=
  match server.bind machine address with
  | (.ok bound, server, machine) => (.ok bound, server.record bound, machine)
  | (.error error, server, machine) => (.error error, server, machine)

/-- Stops a server without interruption. -/
def stop (server : Server ε) (machine : Machine) : Server ε × Machine :=
  let (server, machine) := server.release machine
  (server.forget, machine)

/-- What the server announces under an identity, if it has an address. -/
def endpoint? (server : Server ε) (id : String) : Option Endpoint :=
  server.address.map (fun address =>
    (Endpoint.of id address).withServices server.dispatcher.registrations)

end Server

end ServiceMesh
