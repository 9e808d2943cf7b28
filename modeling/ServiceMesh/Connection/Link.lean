import ServiceMesh.Connection.Receive

/-!
# Two connections and the wires between them

Everything that can happen to one side of a connection is an action, and a run is a sequence of
actions in any order.  A link joins a client and a server by two wires, each of which hands over
frames in the order in which they were written.
-/

namespace ServiceMesh

namespace Connection

/-- One whole operation on a connection. -/
inductive Action where
  /-- A caller sends a message that gets no response. -/
  | fireAndForget (message : Message)
  /-- A caller sends a message that gets one response. -/
  | requestResponse (message : Message)
  /-- A caller sends a message that gets a stream of responses. -/
  | requestStream (message : Message)
  /-- A caller opens a channel with its first request, or without one. -/
  | requestChannel (first : Option (Outcome Message))
  /-- The caller of a reply looks whether it is there. -/
  | pollReply (number : Nat)
  /-- The caller of a reply gives up. -/
  | dropReply (number : Nat)
  /-- The consumer of an inbound stream pulls it. -/
  | pullInbound (number : Nat)
  /-- The consumer of an inbound stream gives up. -/
  | dropInbound (number : Nat)
  /-- A producer takes a credit. -/
  | takeCredit (number : Nat)
  /-- The source of a producer gives a signal. -/
  | produce (number : Nat) (signal : Signal (Outcome Message))
  /-- The handler of a single request comes to its end. -/
  | respond (number : Nat) (result : Outcome Message)
  /-- A frame arrives. -/
  | receive (frame : Frame)
  /-- The first frame of the queue is written. -/
  | transmit
  /-- The connection is closed. -/
  | close
  /-- The reader stops. -/
  | endReader
  /-- The writer stops. -/
  | endWriter

/-- What an action shows to whoever has taken it. -/
inductive Observation where
  /-- Nothing. -/
  | nothing
  /-- Whether a message was sent. -/
  | sent (outcome : Outcome Unit)
  /-- The number of what waits for the answer of a call, or why the call could not start. -/
  | opened (outcome : Outcome Nat)
  /-- The numbers of an open channel, or why it could not start. -/
  | channel (outcome : Outcome OpenChannel)
  /-- A reply, if it is there. -/
  | reply (result : Option (Outcome Message))
  /-- What an inbound stream has given. -/
  | pulled (signal : Signal (Outcome Message))
  /-- The call that a frame has opened, if it has opened one. -/
  | accepted (call : Option Accepted)
  /-- The frame that was written, if there was one. -/
  | written (frame : Option Frame)

/-- Whether an action opens a call. -/
def Action.opensCall : Action → Bool
  | .fireAndForget _ | .requestResponse _ | .requestStream _ | .requestChannel _ => true
  | _ => false

/-- Writes the first frame of the queue, if there is one. -/
def write (connection : Connection) : Option Frame × Connection :=
  match connection.transmit with
  | some (frame, rest) => (some frame, rest)
  | none => (none, connection)

/-- Takes an action. -/
def perform (connection : Connection) : Action → Observation × Connection
  | .fireAndForget message => (connection.fireAndForget message).map .sent id
  | .requestResponse message => (connection.requestResponse message).map .opened id
  | .requestStream message => (connection.requestStream message).map .opened id
  | .requestChannel first => (connection.requestChannel first).map .channel id
  | .pollReply number => (connection.pollReply number).map .reply id
  | .dropReply number => (.nothing, connection.dropReply number)
  | .pullInbound number => (connection.pullInbound number).map .pulled id
  | .dropInbound number => (.nothing, connection.dropInbound number)
  | .takeCredit number => (.nothing, connection.takeCredit number)
  | .produce number signal => (.nothing, connection.produce number signal)
  | .respond number result => (.nothing, connection.respond number result)
  | .receive frame => (connection.receive frame).map .accepted id
  | .transmit => connection.write.map .written id
  | .close => (.nothing, connection.close)
  | .endReader => (.nothing, connection.endReader)
  | .endWriter => (.nothing, connection.endWriter)

/-- Takes actions one after the other. -/
def run (connection : Connection) : List Action → List Observation × Connection
  | [] => ([], connection)
  | action :: actions =>
    let (observation, connection) := connection.perform action
    let (observations, connection) := connection.run actions
    (observation :: observations, connection)

end Connection

/-- The two sides of a link. -/
inductive Side where
  /-- The side that opens calls. -/
  | client
  /-- The side that serves calls. -/
  | server
  deriving DecidableEq, Repr

/-- The side at the other end. -/
def Side.other : Side → Side
  | .client => .server
  | .server => .client

/-- What a side does on its connection. -/
def Side.role : Side → Role
  | .client => .client
  | .server => .server

/-- Two connections and the frames that are under way between them. -/
structure Link where
  /-- The side that opens calls. -/
  client : Connection
  /-- The side that serves calls. -/
  server : Connection
  /-- The frames under way to the server. -/
  toServer : List Frame
  /-- The frames under way to the client. -/
  toClient : List Frame

namespace Link

/-- What can happen on a link. -/
inductive Action where
  /-- Something happens on one side.  Frames are written by `transmit` and arrive by `deliver` only,
  and calls are opened on the client's side only. -/
  | act (side : Side) (action : Connection.Action)
  /-- A side writes the first frame of its queue to the wire. -/
  | transmit (side : Side)
  /-- A side takes the first frame that is under way to it. -/
  | deliver (side : Side)

/-- A link on which nothing has happened yet.  Both sides have the same codec. -/
def spawn (peer : Side → String) (codec : MessageCodec) (config : Side → Config) : Link where
  client := .spawn .client (peer .client) codec (config .client)
  server := .spawn .server (peer .server) codec (config .server)
  toServer := []
  toClient := []

/-- The connection of a side. -/
def connection (link : Link) : Side → Connection
  | .client => link.client
  | .server => link.server

/-- The link with another connection on a side. -/
def withConnection (link : Link) (side : Side) (connection : Connection) : Link :=
  match side with
  | .client => { link with client := connection }
  | .server => { link with server := connection }

/-- The frames that are under way to a side. -/
def wire (link : Link) : Side → List Frame
  | .client => link.toClient
  | .server => link.toServer

/-- The link with other frames under way to a side. -/
def withWire (link : Link) (side : Side) (frames : List Frame) : Link :=
  match side with
  | .client => { link with toClient := frames }
  | .server => { link with toServer := frames }

/-- Whether something may happen on a side by itself. -/
def permits (side : Side) (action : Connection.Action) : Bool :=
  match action with
  | .receive _ | .transmit => false
  | _ => side = .client || !action.opensCall

/-- Lets something happen on one side. -/
def act (link : Link) (side : Side) (action : Connection.Action) :
    Connection.Observation × Link :=
  ((link.connection side).perform action).map id (link.withConnection side)

/-- A side writes a frame, which is then under way to the other side. -/
def transmit (link : Link) (side : Side) : Connection.Observation × Link :=
  let (observation, written) := link.act side .transmit
  match observation with
  | .written (some frame) =>
    (observation, written.withWire side.other (written.wire side.other ++ [frame]))
  | _ => (observation, written)

/-- A side takes a frame that is under way to it. -/
def deliver (link : Link) (side : Side) : Connection.Observation × Link :=
  match link.wire side with
  | [] => (.nothing, link)
  | frame :: frames => (link.withWire side frames).act side (.receive frame)

/-- Lets something happen. -/
def perform (link : Link) : Action → Connection.Observation × Link
  | .act side action => if permits side action then link.act side action else (.nothing, link)
  | .transmit side => link.transmit side
  | .deliver side => link.deliver side

/-- Lets things happen one after the other. -/
def run (link : Link) : List Action → List Connection.Observation × Link
  | [] => ([], link)
  | action :: actions =>
    let (observation, link) := link.perform action
    let (observations, link) := link.run actions
    (observation :: observations, link)

end Link

end ServiceMesh
