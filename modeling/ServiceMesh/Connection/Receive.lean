import ServiceMesh.Connection.Call
import ServiceMesh.Frame.Reader

/-!
# Frames that arrive

How a connection takes the frames of its peer, in whatever order and with whatever ids they come.  A
request is accepted on the serving side only.  A frame for a call that is unknown, or no longer of
interest, is passed over.
-/

namespace ServiceMesh.Connection

/-- A call that the serving side has accepted: what its handler gets, and where its answers go. -/
structure Accepted where
  /-- The mode of the call. -/
  mode : Mode
  /-- The first message. -/
  message : Message
  /-- The number of the producer of the answers, if the call gets any. -/
  answers : Option Nat
  /-- The number of the inbound stream of further requests, if there can be any. -/
  requests : Option Nat

/-- Refuses a call; nobody waits for the answer of one without response. -/
def reject (connection : Connection) (mode : Mode) (streamId : UInt64) (error : CallError) :
    Connection :=
  if mode = .fireAndForget then connection else connection.post (.ofError streamId error)

/-- Opens the inbound stream of the further requests of a call; gives its number. -/
def openRequests (connection : Connection) (streamId : UInt64) : Nat × Connection :=
  let number := connection.inbound.length
  (number,
    { connection with
      inbound := connection.inbound ++ [⟨streamId, false, [], 0, false⟩]
      sinks := connection.sinks.put streamId (.stream number) })

/-- Accepts a call whose first message has been read. -/
def accept (connection : Connection) (mode : Mode) (streamId : UInt64) (message : Message) :
    Accepted × Connection :=
  match mode with
  | .fireAndForget => (⟨mode, message, none, none⟩, connection)
  | .requestResponse =>
    let (answers, started) := connection.startProducer streamId 0 .answering
    (⟨mode, message, some answers, none⟩, started)
  | .requestStream =>
    let (answers, started) := connection.startPump streamId
    (⟨mode, message, some answers, none⟩, started)
  | .requestChannel =>
    let (requests, registered) := connection.openRequests streamId
    let (answers, started) := registered.startPump streamId
    (⟨mode, message, some answers, some requests⟩, started)

/-- Takes a request: it is refused if its message cannot be read or names no method. -/
def receiveRequest (connection : Connection) (mode : Mode) (streamId : UInt64)
    (envelope : Envelope) : Option Accepted × Connection :=
  match connection.codec.decode envelope with
  | .error error => (none, connection.reject mode streamId error)
  | .ok message =>
    if message.qualifier = "" then
      (none, connection.reject mode streamId Dispatcher.missingQualifier)
    else
      let (accepted, connection) := connection.accept mode streamId message
      (some accepted, connection)

/-- Takes a message of a call.  A reply is complete with it.  A message that cannot be read ends the
call. -/
def receiveNext (connection : Connection) (streamId : UInt64) (envelope : Envelope) : Connection :=
  match connection.codec.decode envelope, connection.sinks.find? streamId with
  | _, none => connection
  | .ok message, some (.reply number) =>
    (connection.removeSink streamId).deliverTo (.reply number) (.ok message)
  | .ok message, some (.stream number) => connection.deliverTo (.stream number) (.ok message)
  | .error error, some _ => (connection.failSink streamId error).post (.cancel streamId)

/-- The greatest number of credits that a producer can hold. -/
def creditLimit : Nat := 0x1FFFFFFFFFFFFFFF

/-- Takes a grant.  A producer with more credits than it can hold brings the reader down, and the
connection stays open without one. -/
def receiveGrant (connection : Connection) (streamId : UInt64) (count : UInt32) : Connection :=
  match connection.outbound.find? streamId with
  | none => connection
  | some number =>
    let granted := connection.updateProducer number (fun producer =>
      { producer with credits := producer.credits + count.toNat })
    if (granted.producers[number]?).all (fun producer => producer.credits ≤ creditLimit)
    then granted
    else { granted with reads := false }

/-- Takes a frame; gives the call that it has opened, if it has opened one. -/
def receive (connection : Connection) (frame : Frame) : Option Accepted × Connection :=
  if !connection.reads then (none, connection)
  else match frame with
    | .request mode streamId envelope =>
      match connection.role with
      | .server => connection.receiveRequest mode streamId envelope
      | .client => (none, connection)
    | .next streamId envelope => (none, connection.receiveNext streamId envelope)
    | .complete streamId => (none, connection.removeSink streamId)
    | .error streamId code message =>
      (none, connection.failSink streamId (.remote code message))
    | .cancel streamId =>
      let stopped := connection.cancelOutbound streamId
      match connection.role with
      | .server => (none, stopped.removeSink streamId)
      | .client => (none, stopped)
    | .requestN streamId count => (none, connection.receiveGrant streamId count)

/-- Takes frames one after the other. -/
def receiveAll (connection : Connection) : List Frame → List Accepted × Connection
  | [] => ([], connection)
  | frame :: frames =>
    let (accepted, connection) := connection.receive frame
    let (others, connection) := connection.receiveAll frames
    (accepted.toList ++ others, connection)

/-- Takes all frames of a source of bytes, up to its end or its first failure, which closes the
connection. -/
def readFrom (connection : Connection) (source : ByteSource) (config : Config) :
    List Accepted × Connection :=
  let (accepted, connection) :=
    connection.receiveAll (source.readFrames config.maxFrameSize).1
  (accepted, connection.endReader)

end ServiceMesh.Connection
