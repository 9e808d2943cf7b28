import ServiceMesh.Frame
/-!
# Reading frames from a byte source

A byte source hands its bytes out in pieces of any size and then ends, or fails.  Reading takes
exactly one frame at a time: first the four bytes of the length, then as many as the length says.  A
source that ends before the length is complete has no further frame; one that ends inside the bytes
that the length announces has been cut off.
-/

namespace ServiceMesh

/-- A source of bytes. -/
structure ByteSource where
  /-- The bytes in the pieces in which they arrive.  An empty piece is a moment at which nothing has
  come yet. -/
  pieces : List Bytes
  /-- The failure that follows the bytes; without one the source ends. -/
  failure : Option String
  deriving DecidableEq, Repr

namespace ByteSource

/-- Takes up to `count` bytes from the front of the pieces. -/
def takeFrom : (count : Nat) → List Bytes → Bytes × List Bytes
  | _, [] => ([], [])
  | count, piece :: pieces =>
    if count ≤ piece.length then (piece.take count, piece.drop count :: pieces)
    else
      let (others, rest) := takeFrom (count - piece.length) pieces
      (piece ++ others, rest)

/-- Takes exactly `count` bytes, if the source holds as many. -/
def take? (source : ByteSource) (count : Nat) : Option (Bytes × ByteSource) :=
  let (bytes, rest) := takeFrom count source.pieces
  if bytes.length = count then some (bytes, { source with pieces := rest }) else none

/-- Reads one frame of at most `maxSize` bytes, or nothing if the source has ended. -/
def readFrame (source : ByteSource) (maxSize : Nat) : Outcome (Option (Frame × ByteSource)) :=
  match source.take? 4 with
  | none =>
    match source.failure with
    | none => .ok none
    | some reason => .error (.connection s!"reading length prefix: {reason}")
  | some (lengthBytes, source) =>
    let length := BigEndian.decode lengthBytes
    if maxSize < length then
      .error (.badRequest s!"Frame too large: {length} bytes (max {maxSize} bytes)")
    else match source.take? length with
      | none =>
        let reason := source.failure.getD "early eof"
        .error (.connection s!"reading frame body: {reason}")
      | some (content, source) => (Frame.decode content).map (fun frame => some (frame, source))

/-- The number of bytes that a source still holds. -/
def size (source : ByteSource) : Nat := source.pieces.flatten.length

/-- Reads frames until the source has ended or a read has failed, at most `turns` of them. -/
def readUpTo (maxSize : Nat) : (turns : Nat) → ByteSource → List Frame × Option CallError
  | 0, _ => ([], none)
  | turns + 1, source =>
    match source.readFrame maxSize with
    | .error error => ([], some error)
    | .ok none => ([], none)
    | .ok (some (frame, rest)) =>
      let (frames, ending) := readUpTo maxSize turns rest
      (frame :: frames, ending)

/-- All frames of a source, and the failure that stopped the reading.  Every frame takes at least
four bytes, so there are fewer frames than bytes. -/
def readFrames (source : ByteSource) (maxSize : Nat) : List Frame × Option CallError :=
  readUpTo maxSize (source.size + 1) source

end ByteSource

end ServiceMesh
