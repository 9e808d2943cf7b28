import ServiceMesh.Codec.Envelope
import ServiceMesh.Frame
import ServiceMesh.Table

/-!
# Connections

A connection carries many calls at once.  Each call has the id of a stream, and frames with that id
belong to it.  What arrives for a call goes to its sink, which feeds either the one reply that a
caller waits for or the inbound stream that a consumer pulls.  What a call sends as a stream comes
from a producer, which takes a credit before it pulls its source, and whose credits the receiver
tops up as its consumer pulls.

Replies, inbound streams and producers are numbered in the order in which they come to be, so that a
stream id which is used again does not confuse them.  Everything here happens in whole operations;
between two of them anything else may happen.
-/

namespace ServiceMesh

/-- How connections are set up. -/
structure Config where
  /-- The greatest size of a frame that is read. -/
  maxFrameSize : Nat
  /-- How many messages of a stream may be under way before the receiver has taken any. -/
  streamWindow : UInt32
  /-- Whether small frames are sent without delay. -/
  sendsAtOnce : Bool
  deriving DecidableEq, Repr

/-- The usual set-up. -/
def Config.standard : Config := ⟨16 * 1024 * 1024, 32, true⟩

/-- Which side of a connection this is. -/
inductive Role where
  /-- Opens calls. -/
  | client
  /-- Serves calls. -/
  | server
  deriving DecidableEq, Repr

/-- Where the frames that arrive for a call go. -/
inductive Sink where
  /-- To the reply with a number. -/
  | reply (number : Nat)
  /-- To the inbound stream with a number. -/
  | stream (number : Nat)
  deriving DecidableEq, Repr

/-- What a caller waits for who gets one response. -/
structure PendingReply where
  /-- The id of the call. -/
  streamId : UInt64
  /-- The result, once it has arrived. -/
  result : Option (Outcome Message)
  /-- Whether the caller has taken the result or has given up. -/
  isFinished : Bool

/-- A stream that arrives and is pulled by a consumer. -/
structure InboundStream where
  /-- The id of the call. -/
  streamId : UInt64
  /-- Whether this is the side that opened the call. -/
  isRequester : Bool
  /-- What has arrived and was not pulled yet. -/
  buffer : List (Outcome Message)
  /-- How many messages were pulled since credits were granted last. -/
  consumed : Nat
  /-- Whether the consumer has seen the end, or has given up. -/
  isDone : Bool

/-- How far a producer is. -/
inductive ProducerPhase where
  /-- It waits for a credit. -/
  | waiting
  /-- It has taken a credit and pulls its source. -/
  | pulling
  /-- It waits for the one response of a handler, which costs no credit. -/
  | answering
  /-- It has ended, or was stopped. -/
  | ended
  deriving DecidableEq, Repr

/-- What sends the messages of a call. -/
structure Producer where
  /-- The id of the call. -/
  streamId : UInt64
  /-- How many pulls it may still make. -/
  credits : Nat
  /-- How far it is. -/
  phase : ProducerPhase
  deriving DecidableEq, Repr

/-- One side of a connection. -/
structure Connection where
  /-- Which side this is. -/
  role : Role
  /-- The other side, in text. -/
  peer : String
  /-- The codec for messages. -/
  codec : MessageCodec
  /-- The number of credits that a stream starts with, in either direction. -/
  window : Nat
  /-- There is at least one credit. -/
  window_pos : 0 < window
  /-- The frames that wait to be written. -/
  queue : List Frame
  /-- Whether frames are still taken into the queue. -/
  writes : Bool
  /-- Whether frames are still read. -/
  reads : Bool
  /-- Whether the connection has been closed. -/
  isClosed : Bool
  /-- The id of the next call. -/
  nextStreamId : UInt64
  /-- The sinks by stream id. -/
  sinks : Table UInt64 Sink
  /-- The producers by stream id. -/
  outbound : Table UInt64 Nat
  /-- All replies that were waited for. -/
  replies : List PendingReply
  /-- All streams that have arrived. -/
  inbound : List InboundStream
  /-- All producers. -/
  producers : List Producer

namespace Connection

/-- A connection on which nothing has happened yet.  Calls of a client have odd ids. -/
def spawn (role : Role) (peer : String) (codec : MessageCodec) (config : Config) : Connection where
  role := role
  peer := peer
  codec := codec
  window := max config.streamWindow.toNat 1
  window_pos := by omega
  queue := []
  writes := true
  reads := true
  isClosed := false
  nextStreamId := 1
  sinks := []
  outbound := []
  replies := []
  inbound := []
  producers := []

/-- How many messages a consumer pulls before it grants the sender as many credits. -/
def threshold (connection : Connection) : Nat := max (connection.window / 2) 1

/-- The error of everything that a close ends. -/
def closedError (connection : Connection) : CallError :=
  .connection s!"connection to {connection.peer} closed"

/-- The error of a reply that can no longer arrive. -/
def noReplyError (connection : Connection) : CallError :=
  .connection s!"connection to {connection.peer} closed before a response arrived"

/-- The error that a crash of a handler becomes. -/
def crashError (cause : Option String) : CallError :=
  let detail := cause.getD "unknown cause"
  .internal s!"Handler panicked: {detail}"

/-- Queues a frame; tells whether frames are still taken. -/
def send (connection : Connection) (frame : Frame) : Bool × Connection :=
  if connection.writes then (true, { connection with queue := connection.queue ++ [frame] })
  else (false, connection)

/-- Queues a frame if frames are still taken. -/
def post (connection : Connection) (frame : Frame) : Connection := (connection.send frame).2

/-- The next stream id, which no call of this side has had. -/
def allocate (connection : Connection) : UInt64 × Connection :=
  (connection.nextStreamId, { connection with nextStreamId := connection.nextStreamId + 2 })

/-- Changes a reply. -/
def updateReply (connection : Connection) (number : Nat)
    (change : PendingReply → PendingReply) : Connection :=
  { connection with replies := connection.replies.modify number change }

/-- Changes an inbound stream. -/
def updateInbound (connection : Connection) (number : Nat)
    (change : InboundStream → InboundStream) : Connection :=
  { connection with inbound := connection.inbound.modify number change }

/-- Changes a producer. -/
def updateProducer (connection : Connection) (number : Nat) (change : Producer → Producer) :
    Connection :=
  { connection with producers := connection.producers.modify number change }

/-- Hands what has arrived to a sink. -/
def deliverTo (connection : Connection) (sink : Sink) (item : Outcome Message) : Connection :=
  match sink with
  | .reply number => connection.updateReply number (fun reply => { reply with result := some item })
  | .stream number =>
    connection.updateInbound number (fun stream =>
      { stream with buffer := stream.buffer ++ [item] })

/-- The connection without the sink of a call.  Whoever waits on a removed sink finds that nothing
more can arrive. -/
def removeSink (connection : Connection) (streamId : UInt64) : Connection :=
  { connection with sinks := connection.sinks.remove streamId }

/-- The connection without the producer of a call.  A producer that is not there any more is not
stopped by this. -/
def removeOutbound (connection : Connection) (streamId : UInt64) : Connection :=
  { connection with outbound := connection.outbound.remove streamId }

/-- Ends a call with an error, if it has a sink. -/
def failSink (connection : Connection) (streamId : UInt64) (error : CallError) : Connection :=
  match connection.sinks.find? streamId with
  | some sink => (connection.removeSink streamId).deliverTo sink (.error error)
  | none => connection

/-- Removes the sink of a call and, if there was one, tells the peer. -/
def cancelSink (connection : Connection) (streamId : UInt64) : Connection :=
  match connection.sinks.find? streamId with
  | some _ => (connection.removeSink streamId).post (.cancel streamId)
  | none => connection

/-- Stops the producer of a call, which takes no further step. -/
def cancelOutbound (connection : Connection) (streamId : UInt64) : Connection :=
  match connection.outbound.find? streamId with
  | some number =>
    (connection.removeOutbound streamId).updateProducer number (fun producer =>
      { producer with phase := .ended })
  | none => connection

/-- Ends every call that has a sink with an error. -/
def failSinks (connection : Connection) (error : CallError) : Connection :=
  connection.sinks.keys.foldl (fun connection streamId => connection.failSink streamId error)
    connection

/-- Stops the producer of every call. -/
def cancelOutbounds (connection : Connection) : Connection :=
  connection.outbound.keys.foldl cancelOutbound connection

/-- Closes the connection: every pending call fails and every producer is stopped.  Closing again
changes nothing. -/
def close (connection : Connection) : Connection :=
  if connection.isClosed then connection
  else
    ({ connection with isClosed := true }.failSinks connection.closedError).cancelOutbounds

/-- The writer stops, which it does only on a closed connection. -/
def endWriter (connection : Connection) : Connection :=
  { connection.close with writes := false }

/-- The reader stops, at the end of the input or at a failure. -/
def endReader (connection : Connection) : Connection :=
  { connection.close with reads := false }

/-- Takes the first frame of the queue, which is to be written. -/
def transmit (connection : Connection) : Option (Frame × Connection) :=
  match connection.queue with
  | [] => none
  | frame :: queue => some (frame, { connection with queue })

/-- Registers a sink, unless the connection has been closed. -/
def registerSink (connection : Connection) (streamId : UInt64) (sink : Sink) :
    Outcome Unit × Connection :=
  let registered := { connection with sinks := connection.sinks.put streamId sink }
  if connection.isClosed then (.error connection.closedError, registered.removeSink streamId)
  else (.ok (), registered)

end Connection

end ServiceMesh
