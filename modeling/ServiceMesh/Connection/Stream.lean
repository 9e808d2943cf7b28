import ServiceMesh.Connection.Basic
import ServiceMesh.Flow.Source

/-!
# Replies, inbound streams and producers

What callers, consumers and producers do on a connection once a call is open.  A consumer that has
pulled enough messages grants the sender as many credits.  Whoever gives up before the end tells the
peer.  A producer takes a credit before every pull of its source, also before the one that finds the
end.
-/

namespace ServiceMesh.Connection

/-- The caller of a reply looks whether it is there.  Without a sink nothing can arrive any more. -/
def pollReply (connection : Connection) (number : Nat) :
    Option (Outcome Message) × Connection :=
  match connection.replies[number]? with
  | none => (none, connection)
  | some reply =>
    if reply.isFinished then (none, connection)
    else
      let finished := connection.updateReply number (fun reply => { reply with isFinished := true })
      match reply.result with
      | some result => (some result, finished)
      | none =>
        if connection.sinks.find? reply.streamId = some (.reply number) then (none, connection)
        else (some (.error connection.noReplyError), finished)

/-- The caller of a reply gives up. -/
def dropReply (connection : Connection) (number : Nat) : Connection :=
  match connection.replies[number]? with
  | none => connection
  | some reply =>
    if reply.isFinished then connection
    else
      (connection.cancelSink reply.streamId).updateReply number
        (fun reply => { reply with isFinished := true })

/-- Counts a pulled message, and grants credits when there are enough. -/
def replenish (connection : Connection) (number : Nat) (stream : InboundStream)
    (rest : List (Outcome Message)) : Connection :=
  let consumed := stream.consumed + 1
  if connection.threshold ≤ consumed then
    (connection.updateInbound number (fun stream =>
      { stream with buffer := rest, consumed := 0 })).post
      (.requestN stream.streamId (UInt32.ofNat consumed))
  else connection.updateInbound number (fun stream => { stream with buffer := rest, consumed })

/-- The consumer of an inbound stream pulls it. -/
def pullInbound (connection : Connection) (number : Nat) :
    Signal (Outcome Message) × Connection :=
  match connection.inbound[number]? with
  | none => (.ended, connection)
  | some stream =>
    if stream.isDone then (.ended, connection)
    else match stream.buffer with
      | .ok message :: rest => (.item (.ok message), connection.replenish number stream rest)
      | .error error :: rest =>
        (.item (.error error), connection.updateInbound number (fun stream =>
          { stream with buffer := rest, isDone := true }))
      | [] =>
        if connection.sinks.find? stream.streamId = some (.stream number) then
          (.pending, connection)
        else
          (.ended, connection.updateInbound number (fun stream => { stream with isDone := true }))

/-- The consumer of an inbound stream gives up.  The side that opened the call also stops sending
requests. -/
def dropInbound (connection : Connection) (number : Nat) : Connection :=
  match connection.inbound[number]? with
  | none => connection
  | some stream =>
    if stream.isDone then connection
    else
      let dropped := (connection.cancelSink stream.streamId).updateInbound number
        (fun stream => { stream with isDone := true })
      if stream.isRequester then dropped.cancelOutbound stream.streamId else dropped

/-- Starts a producer for a call; gives its number. -/
def startProducer (connection : Connection) (streamId : UInt64) (credits : Nat)
    (phase : ProducerPhase) : Nat × Connection :=
  let number := connection.producers.length
  (number,
    { connection with
      producers := connection.producers ++ [⟨streamId, credits, phase⟩]
      outbound := connection.outbound.put streamId number })

/-- Starts to send a stream of messages under flow control. -/
def startPump (connection : Connection) (streamId : UInt64) : Nat × Connection :=
  connection.startProducer streamId connection.window .waiting

/-- A producer ends by itself. -/
def endProducer (connection : Connection) (number : Nat) (streamId : UInt64) : Connection :=
  let ended := connection.updateProducer number (fun producer => { producer with phase := .ended })
  ended.removeOutbound streamId

/-- A producer that waits takes a credit, if it has one. -/
def takeCredit (connection : Connection) (number : Nat) : Connection :=
  match connection.producers[number]? with
  | some ⟨_, _ + 1, .waiting⟩ =>
    connection.updateProducer number (fun producer =>
      { producer with credits := producer.credits - 1, phase := .pulling })
  | _ => connection

/-- The frame for what a source has given, and whether it is the last one; nothing while the source
has nothing. -/
def frameFor (codec : MessageCodec) (streamId : UInt64) :
    Signal (Outcome Message) → Option (Frame × Bool)
  | .item (.ok message) =>
    match codec.encode message with
    | .ok envelope => some (.next streamId envelope, false)
    | .error error => some (.ofError streamId error, true)
  | .item (.error error) => some (.ofError streamId error, true)
  | .ended => some (.complete streamId, true)
  | .crashed cause => some (.ofError streamId (crashError cause), true)
  | .pending => none

/-- The source of a producer that pulls has given a signal, which is sent to the peer. -/
def produce (connection : Connection) (number : Nat) (signal : Signal (Outcome Message)) :
    Connection :=
  match connection.producers[number]? with
  | some ⟨streamId, _, .pulling⟩ =>
    match frameFor connection.codec streamId signal with
    | none => connection
    | some (frame, isLast) =>
      let (isSent, sent) := connection.send frame
      if isLast || !isSent then sent.endProducer number streamId
      else sent.updateProducer number (fun producer => { producer with phase := .waiting })
  | _ => connection

/-- The handler of a single request has come to an end, and its response is sent to the peer. -/
def respond (connection : Connection) (number : Nat) (result : Outcome Message) : Connection :=
  match connection.producers[number]? with
  | some ⟨streamId, _, .answering⟩ =>
    let frame := match result.bind connection.codec.encode with
      | .ok envelope => Frame.next streamId envelope
      | .error error => Frame.ofError streamId error
    (connection.post frame).endProducer number streamId
  | _ => connection

end ServiceMesh.Connection
