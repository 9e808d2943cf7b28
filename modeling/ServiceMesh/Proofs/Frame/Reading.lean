import Mathlib.Algebra.GroupWithZero.Nat
import ServiceMesh.Frame.Reader

/-!
# Frames are read back

The bytes of frames in a row, handed out in pieces of any size, are read as these frames
(`readFrames_encode`), as long as no frame is larger than the reader allows or than its length can
say.
-/

namespace ServiceMesh

namespace Frame

/-- A frame that a reader takes: its size is allowed and can be written in four bytes. -/
def Fits (maxSize : Nat) (frame : Frame) : Prop :=
  frame.encodeContent.length ≤ maxSize ∧ frame.encodeContent.length < 2 ^ 32

instance (maxSize : Nat) (frame : Frame) : Decidable (frame.Fits maxSize) :=
  inferInstanceAs (Decidable (_ ∧ _))

/-- The length that a frame announces for its body is that of the body. -/
theorem length_encodeBody (frame : Frame) : frame.encodeBody.length = frame.bodyLength := by
  cases frame <;>
    simp only [encodeBody, encodeEnvelope, bodyLength, List.length_append, List.length_nil,
      BigEndian.length_encode, Utf8.length_encode]

theorem length_encodeContent (frame : Frame) :
    frame.encodeContent.length = headLength + frame.bodyLength := by
  rw [encodeContent, List.length_cons, List.length_append, BigEndian.length_encode,
    length_encodeBody, headLength]
  omega

theorem encode_eq (frame : Frame) :
    frame.encode = BigEndian.encode 4 frame.encodeContent.length ++ frame.encodeContent := by
  rw [encode, length_encodeContent]

theorem decodeEnvelope_encodeEnvelope {envelope : Envelope}
    (short : envelope.headers.length < 2 ^ 32) :
    decodeEnvelope (encodeEnvelope envelope) = .ok envelope := by
  have length : BigEndian.decode (BigEndian.encode 4 envelope.headers.length) =
      envelope.headers.length := by
    rw [BigEndian.decode_encode]
    exact Nat.mod_eq_of_lt short
  have front : (encodeEnvelope envelope).take 4 = BigEndian.encode 4 envelope.headers.length := by
    rw [encodeEnvelope, List.append_assoc, List.take_left' (BigEndian.length_encode _ _)]
  have rest : (encodeEnvelope envelope).drop 4 = envelope.headers ++ envelope.data := by
    rw [encodeEnvelope, List.append_assoc, List.drop_left' (BigEndian.length_encode _ _)]
  have enough : ¬ (encodeEnvelope envelope).length < 4 := by
    simp [encodeEnvelope]
  rw [decodeEnvelope, if_neg enough, front, rest, length]
  simp

theorem decodeBody_encodeBody {frame : Frame} (short : frame.encodeBody.length < 2 ^ 32) :
    decodeBody frame.kind frame.streamId frame.encodeBody = .ok frame := by
  cases frame with
  | request mode id envelope =>
      have body : decodeEnvelope (encodeEnvelope envelope) = .ok envelope :=
        decodeEnvelope_encodeEnvelope (by
        simp [encodeBody, encodeEnvelope] at short
        omega)
      cases mode <;> simp [kind, modeKind, decodeBody, encodeBody, body, Except.map, streamId]
  | next id envelope =>
      have body : decodeEnvelope (encodeEnvelope envelope) = .ok envelope :=
        decodeEnvelope_encodeEnvelope (by
        simp [encodeBody, encodeEnvelope] at short
        omega)
      simp [kind, decodeBody, encodeBody, body, Except.map, streamId]
  | complete id => rfl
  | error id code message =>
      have number : BigEndian.decode (BigEndian.encode 2 code.toNat) = code.toNat := by
        rw [BigEndian.decode_encode]
        exact Nat.mod_eq_of_lt code.toNat_lt
      have front : (encodeBody (.error id code message)).take 2 =
          BigEndian.encode 2 code.toNat := List.take_left' (BigEndian.length_encode _ _)
      have rest : (encodeBody (.error id code message)).drop 2 = Utf8.encode message :=
        List.drop_left' (BigEndian.length_encode _ _)
      have enough : ¬ (encodeBody (.error id code message)).length < 2 := by
        rw [encodeBody, List.length_append, BigEndian.length_encode]
        omega
      have text : Utf8.decode (Utf8.encode message) = .ok message :=
        Utf8.decode_eq_ok_iff.mpr rfl
      simp only [kind, decodeBody, if_neg enough, front, rest, text, number, UInt16.ofNat_toNat,
        streamId]
  | cancel id => rfl
  | requestN id count =>
      have number : BigEndian.decode (BigEndian.encode 4 count.toNat) = count.toNat := by
        rw [BigEndian.decode_encode]
        exact Nat.mod_eq_of_lt count.toNat_lt
      have front : (encodeBody (.requestN id count)).take 4 = BigEndian.encode 4 count.toNat :=
        List.take_of_length_le (by simp [encodeBody])
      have enough : ¬ (encodeBody (.requestN id count)).length < 4 := by
        simp [encodeBody]
      simp only [kind, decodeBody, if_neg enough, front, number, UInt32.ofNat_toNat, streamId]

/-- Behind the kind and the id of a frame its body is read. -/
theorem decode_head (kind : UInt8) (id : UInt64) (body : Bytes) :
    decode (kind :: (BigEndian.encode 8 id.toNat ++ body)) = decodeBody kind id body := by
  have number : BigEndian.decode (BigEndian.encode 8 id.toNat) = id.toNat := by
    rw [BigEndian.decode_encode]
    exact Nat.mod_eq_of_lt id.toNat_lt
  have enough : ¬ (BigEndian.encode 8 id.toNat ++ body).length < 8 := by
    simp
  rw [decode, if_neg enough, List.take_left' (BigEndian.length_encode _ _),
    List.drop_left' (BigEndian.length_encode _ _), number, UInt64.ofNat_toNat]

theorem decode_encodeContent {frame : Frame} (short : frame.encodeContent.length < 2 ^ 32) :
    decode frame.encodeContent = .ok frame := by
  have body : decodeBody frame.kind frame.streamId frame.encodeBody = .ok frame :=
    decodeBody_encodeBody (by
    simp [encodeContent] at short
    omega)
  rw [encodeContent, decode_head, body]

end Frame

namespace ByteSource

/-- Bytes are taken from the front, however they are cut. -/
theorem takeFrom_flatten (count : Nat) (pieces : List Bytes) :
    (takeFrom count pieces).1 = pieces.flatten.take count ∧
      (takeFrom count pieces).2.flatten = pieces.flatten.drop count := by
  induction pieces generalizing count with
  | nil => cases count <;> simp [takeFrom]
  | cons piece pieces induction =>
      rcases Nat.lt_or_ge piece.length count with beyond | within
      · have others := induction (count - piece.length)
        rw [takeFrom, if_neg (by omega), List.flatten_cons, List.take_append, List.drop_append,
          List.take_of_length_le (by omega), List.drop_of_length_le (by omega)]
        exact ⟨congrArg (piece ++ ·) others.1, others.2⟩
      · rw [takeFrom, if_pos within, List.flatten_cons, List.take_append_of_le_length within,
          List.drop_append_of_le_length within]
        exact ⟨rfl, rfl⟩

variable {source : ByteSource} {maxSize : Nat}

theorem take?_of_append {bytes rest : Bytes} (holds : source.pieces.flatten = bytes ++ rest) :
    ∃ after : ByteSource, source.take? bytes.length = some (bytes, after) ∧
      after.pieces.flatten = rest ∧ after.failure = source.failure := by
  have taken := takeFrom_flatten bytes.length source.pieces
  rw [holds, List.take_left, List.drop_left] at taken
  refine ⟨⟨(takeFrom bytes.length source.pieces).2, source.failure⟩, ?_, taken.2, rfl⟩
  simp only [take?, taken.1, if_pos]

theorem take?_of_short {count : Nat} (short : source.pieces.flatten.length < count) :
    source.take? count = none := by
  have taken := takeFrom_flatten count source.pieces
  have less : ((source.pieces.flatten).take count).length ≠ count := by
    rw [List.length_take]
    omega
  simp only [take?, taken.1, if_neg less]

/-- A frame at the front is read, and what follows it stays. -/
theorem readFrame_encode {frame : Frame} {rest : Bytes} (fits : frame.Fits maxSize)
    (holds : source.pieces.flatten = frame.encode ++ rest) :
    ∃ after : ByteSource, source.readFrame maxSize = .ok (some (frame, after)) ∧
      after.pieces.flatten = rest ∧ after.failure = source.failure := by
  rw [Frame.encode_eq, List.append_assoc] at holds
  rcases take?_of_append holds with ⟨middle, length, contents, same⟩
  rcases take?_of_append contents with ⟨after, content, follows, still⟩
  have size : BigEndian.decode (BigEndian.encode 4 frame.encodeContent.length) =
      frame.encodeContent.length := by
    rw [BigEndian.decode_encode]
    exact Nat.mod_eq_of_lt fits.2
  rw [BigEndian.length_encode] at length
  refine ⟨after, ?_, follows, still.trans same⟩
  rw [readFrame, length]
  simp only [size, if_neg (Nat.not_lt.mpr fits.1), content, Frame.decode_encodeContent fits.2]
  rfl

theorem readUpTo_encode {frames : List Frame} (fit : ∀ frame ∈ frames, frame.Fits maxSize)
    {turns : Nat} (enough : frames.length < turns)
    (holds : source.pieces.flatten = frames.flatMap Frame.encode)
    (ends : source.failure = none) : readUpTo maxSize turns source = (frames, none) := by
  induction frames generalizing turns source with
  | nil =>
      cases turns with
      | zero => cases enough
      | succ turns =>
          have nothing : source.take? 4 = none := take?_of_short (by rw [holds]; decide)
          simp only [readUpTo, readFrame, nothing, ends]
  | cons frame frames induction =>
      cases turns with
      | zero => cases enough
      | succ turns =>
          rw [List.flatMap_cons] at holds
          rcases readFrame_encode (fit frame List.mem_cons_self) holds with
            ⟨after, read, follows, same⟩
          have others := induction (fun other member => fit other (List.mem_cons_of_mem _ member))
            (Nat.lt_of_succ_lt_succ enough) follows (same.trans ends)
          simp only [readUpTo, read, others]

theorem length_le_encode (frames : List Frame) :
    frames.length ≤ (frames.flatMap Frame.encode).length := by
  induction frames with
  | nil => exact Nat.le_refl _
  | cons frame frames induction =>
      rw [List.flatMap_cons, List.length_append, Frame.encode, List.length_append,
        BigEndian.length_encode, List.length_cons]
      omega

/-- Frames are read back from their bytes, in whatever pieces these arrive. -/
theorem readFrames_encode {frames : List Frame} {pieces : List Bytes}
    (fit : ∀ frame ∈ frames, frame.Fits maxSize)
    (cut : pieces.flatten = frames.flatMap Frame.encode) :
    (ByteSource.mk pieces none).readFrames maxSize = (frames, none) := by
  have enough := length_le_encode frames
  rw [← cut] at enough
  exact readUpTo_encode fit (Nat.lt_succ_of_le enough) cut rfl

end ByteSource

end ServiceMesh
