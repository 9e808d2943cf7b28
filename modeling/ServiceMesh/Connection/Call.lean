import ServiceMesh.Connection.Stream
import ServiceMesh.Dispatcher

/-!
# Calls on a connection

The four ways to open a call.  A message that cannot be encoded uses up no stream id.  A call whose
request cannot be queued leaves nothing behind.
-/

namespace ServiceMesh.Connection

/-- Sends a message that gets no response. -/
def fireAndForget (connection : Connection) (message : Message) : Outcome Unit × Connection :=
  match connection.codec.encode message with
  | .error error => (.error error, connection)
  | .ok envelope =>
    let (streamId, allocated) := connection.allocate
    match allocated.send (.request .fireAndForget streamId envelope) with
    | (true, sent) => (.ok (), sent)
    | (false, unsent) => (.error connection.closedError, unsent)

/-- Sends a message that gets one response; gives the number of the reply. -/
def requestResponse (connection : Connection) (message : Message) : Outcome Nat × Connection :=
  match connection.codec.encode message with
  | .error error => (.error error, connection)
  | .ok envelope =>
    let (streamId, allocated) := connection.allocate
    let number := allocated.replies.length
    let waiting : Connection :=
      { allocated with replies := allocated.replies ++ [⟨streamId, none, false⟩] }
    match waiting.registerSink streamId (.reply number) with
    | (.error error, refused) =>
      (.error error, refused.updateReply number (fun reply => { reply with isFinished := true }))
    | (.ok _, registered) =>
      match registered.send (.request .requestResponse streamId envelope) with
      | (true, sent) => (.ok number, sent)
      | (false, unsent) => (.error connection.closedError, unsent.dropReply number)

/-- Sends a message that gets a stream of responses, in the given mode; gives the id of the call and
the number of the inbound stream. -/
def openStream (connection : Connection) (mode : Mode) (message : Message) :
    Outcome (UInt64 × Nat) × Connection :=
  match connection.codec.encode message with
  | .error error => (.error error, connection)
  | .ok envelope =>
    let (streamId, allocated) := connection.allocate
    let number := allocated.inbound.length
    let waiting : Connection :=
      { allocated with inbound := allocated.inbound ++ [⟨streamId, true, [], 0, false⟩] }
    match waiting.registerSink streamId (.stream number) with
    | (.error error, refused) =>
      (.error error, refused.updateInbound number (fun stream => { stream with isDone := true }))
    | (.ok _, registered) =>
      match registered.send (.request mode streamId envelope) with
      | (true, sent) => (.ok (streamId, number), sent)
      | (false, unsent) => (.error connection.closedError, unsent.dropInbound number)

/-- Sends a message that gets a stream of responses; gives the number of the inbound stream. -/
def requestStream (connection : Connection) (message : Message) : Outcome Nat × Connection :=
  let (opened, connection) := connection.openStream .requestStream message
  (opened.map Prod.snd, connection)

/-- A channel that has been opened. -/
structure OpenChannel where
  /-- The number of the inbound stream of responses. -/
  responses : Nat
  /-- The number of the producer of the further requests. -/
  requests : Nat
  deriving DecidableEq, Repr

/-- Sends a stream of messages that gets a stream of responses, once the first request is there, or
once it is known that there is none. -/
def requestChannel (connection : Connection) (first : Option (Outcome Message)) :
    Outcome OpenChannel × Connection :=
  match first with
  | none => (.error Dispatcher.missingRequest, connection)
  | some (.error error) => (.error error, connection)
  | some (.ok message) =>
    match connection.openStream .requestChannel message with
    | (.error error, connection) => (.error error, connection)
    | (.ok (streamId, responses), opened) =>
      let (requests, pumping) := opened.startPump streamId
      (.ok ⟨responses, requests⟩, pumping)

end ServiceMesh.Connection
