import ServiceMesh.Codec.Envelope
import ServiceMesh.Frame.BigEndian
/-!
# Frames

A connection carries the calls it multiplexes as frames, each with the id of its stream.  A frame is
written as a length of four bytes, a byte for its kind, eight bytes for the id, and a body that
depends on the kind.  Completions, cancellations and grants ignore bytes after their body; the other
kinds use all of it.
-/

namespace ServiceMesh

/-- One unit on the wire. -/
inductive Frame where
  /-- Opens a call with its first message. -/
  | request (mode : Mode) (streamId : UInt64) (envelope : Envelope)
  /-- One message of a stream, or the one response of a request. -/
  | next (streamId : UInt64) (envelope : Envelope)
  /-- The regular end of a stream. -/
  | complete (streamId : UInt64)
  /-- The end of a stream by a failure. -/
  | error (streamId : UInt64) (code : UInt16) (message : String)
  /-- The receiver has lost interest. -/
  | cancel (streamId : UInt64)
  /-- Grants the sender further messages. -/
  | requestN (streamId : UInt64) (count : UInt32)
  deriving DecidableEq, Repr

namespace Frame

/-- The id of the frame's stream. -/
def streamId : Frame → UInt64
  | .request _ id _ | .next id _ | .complete id | .error id _ _ | .cancel id | .requestN id _ => id

/-- The frame that reports a failed call. -/
def ofError (streamId : UInt64) (error : CallError) : Frame :=
  .error streamId error.code error.message

/-- The byte for the mode of a request. -/
def modeKind : Mode → UInt8
  | .fireAndForget => 1
  | .requestResponse => 2
  | .requestStream => 3
  | .requestChannel => 4

/-- The byte for the kind of a frame. -/
def kind : Frame → UInt8
  | .request mode _ _ => modeKind mode
  | .next _ _ => 5
  | .complete _ => 6
  | .error _ _ _ => 7
  | .cancel _ => 8
  | .requestN _ _ => 9

/-- An envelope as the body of a frame: the length of the header buffer and both buffers. -/
def encodeEnvelope (envelope : Envelope) : Bytes :=
  BigEndian.encode 4 envelope.headers.length ++ envelope.headers ++ envelope.data

/-- What follows the id of a frame. -/
def encodeBody : Frame → Bytes
  | .request _ _ envelope | .next _ envelope => encodeEnvelope envelope
  | .complete _ | .cancel _ => []
  | .error _ code message => BigEndian.encode 2 code.toNat ++ Utf8.encode message
  | .requestN _ count => BigEndian.encode 4 count.toNat

/-- The bytes of a frame without its length. -/
def encodeContent (frame : Frame) : Bytes :=
  frame.kind :: (BigEndian.encode 8 frame.streamId.toNat ++ frame.encodeBody)

/-- The number of bytes that every frame has between its length and its body. -/
def headLength : Nat := 1 + 8

/-- The number of bytes of the body, counted without writing it. -/
def bodyLength : Frame → Nat
  | .request _ _ envelope | .next _ envelope => 4 + envelope.headers.length + envelope.data.length
  | .error _ _ message => 2 + message.utf8ByteSize
  | .requestN _ _ => 4
  | .complete _ | .cancel _ => 0

/-- The bytes of a frame. -/
def encode (frame : Frame) : Bytes :=
  BigEndian.encode 4 (headLength + frame.bodyLength) ++ frame.encodeContent

/-- Reads the body of a frame that carries a message. -/
def decodeEnvelope (body : Bytes) : Outcome Envelope :=
  if body.length < 4 then .error (.badRequest "Message frame missing header length")
  else
    let headerLength := BigEndian.decode (body.take 4)
    let buffers := body.drop 4
    if buffers.length < headerLength then
      .error (.badRequest (s!"Header length {headerLength} exceeds frame body of " ++
        s!"{buffers.length} bytes"))
    else .ok ⟨buffers.drop headerLength, buffers.take headerLength⟩

/-- Reads the body of a frame of a given kind. -/
def decodeBody (kind : UInt8) (streamId : UInt64) (body : Bytes) : Outcome Frame :=
  match kind with
  | 1 => (decodeEnvelope body).map (.request .fireAndForget streamId)
  | 2 => (decodeEnvelope body).map (.request .requestResponse streamId)
  | 3 => (decodeEnvelope body).map (.request .requestStream streamId)
  | 4 => (decodeEnvelope body).map (.request .requestChannel streamId)
  | 5 => (decodeEnvelope body).map (.next streamId)
  | 6 => .ok (.complete streamId)
  | 7 =>
    if body.length < 2 then .error (.badRequest "Error frame missing code")
    else match Utf8.decode (body.drop 2) with
      | .ok message =>
        .ok (.error streamId (UInt16.ofNat (BigEndian.decode (body.take 2))) message)
      | .error failure =>
        .error (.badRequest s!"Error frame message is not UTF-8: {failure.message}")
  | 8 => .ok (.cancel streamId)
  | 9 =>
    if body.length < 4 then .error (.badRequest "RequestN frame missing count")
    else .ok (.requestN streamId (UInt32.ofNat (BigEndian.decode (body.take 4))))
  | other => .error (.badRequest s!"Unknown frame kind {other.toNat}")

/-- Reads a frame from its bytes without the length. -/
def decode : Bytes → Outcome Frame
  | [] => .error (.badRequest "Frame too short: 0 bytes")
  | kind :: rest =>
    if rest.length < 8 then
      .error (.badRequest s!"Frame too short: {rest.length + 1} bytes")
    else decodeBody kind (UInt64.ofNat (BigEndian.decode (rest.take 8))) (rest.drop 8)

end Frame

end ServiceMesh
