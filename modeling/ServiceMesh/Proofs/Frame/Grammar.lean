import Mathlib.Data.List.Induction
import ServiceMesh.Proofs.Frame.Reading

/-!
# Which bytes are frames

A frame has one form in bytes, and reading accepts no other: bytes are read as a frame if the bytes
of the frame stand at their front, with nothing behind them unless the frame is of a kind that
ignores what follows its body (`decode_of_shown`, `shown_of_decode`).

Whether bytes are a frame at all can be told from their length, their kind and what their body
announces (`exists_frame_iff`).  All other bytes are a bad request (`badRequest_of_decode`).  The
main statement is `frames_decode_exactly`.
-/

namespace ServiceMesh

namespace BigEndian

/-- The number that bytes stand for is written as these bytes. -/
theorem encode_decode (bytes : Bytes) : encode bytes.length (decode bytes) = bytes := by
  induction bytes using List.reverseRecOn with
  | nil => rfl
  | append_singleton bytes byte induction =>
      have small := byte.toNat_lt
      have upper : (256 * decode bytes + byte.toNat) / 256 = decode bytes := by omega
      have lower : UInt8.ofNat (256 * decode bytes + byte.toNat) = byte := by
        rw [← UInt8.toNat_inj, UInt8.toNat_ofNat']
        omega
      rw [List.length_append, List.length_singleton, encode, decode_append_singleton, upper, lower,
        induction]

theorem decode_lt (bytes : Bytes) : decode bytes < Nat.pow 256 bytes.length := by
  have reduced := decode_encode bytes.length (decode bytes)
  rw [encode_decode] at reduced
  rw [reduced]
  exact Nat.mod_lt _ (Nat.pow_pos (by decide))

section

variable {bytes : Bytes} {width : Nat} (long : width ≤ bytes.length)

include long

theorem encode_decode_take : encode width (decode (bytes.take width)) = bytes.take width := by
  have same := encode_decode (bytes.take width)
  rwa [List.length_take, Nat.min_eq_left long] at same

theorem decode_take_lt : decode (bytes.take width) < Nat.pow 256 width := by
  have small := decode_lt (bytes.take width)
  rwa [List.length_take, Nat.min_eq_left long] at small

end

end BigEndian

namespace Frame

/-- Whether bytes behind the body of a frame are ignored. -/
def ignoresRest : Frame → Bool
  | .complete _ | .cancel _ | .requestN _ _ => true
  | .request _ _ _ | .next _ _ | .error _ _ _ => false

/-- The bytes of a frame stand in front, and there are no others unless the frame ignores them. -/
structure ShownBy (frame : Frame) (bytes : Bytes) : Prop where
  front : frame.encodeContent <+: bytes
  whole : frame.ignoresRest = false → bytes = frame.encodeContent

/-- What is asked of the body of a frame of a given kind, which must be one of the nine kinds. -/
structure WellFormedBody (kind : UInt8) (body : Bytes) : Prop where
  known : 1 ≤ kind ∧ kind ≤ 9
  /-- The headers of a message are not longer than what follows their length. -/
  envelope : kind ≤ 5 → 4 ≤ body.length ∧ BigEndian.decode (body.take 4) ≤ (body.drop 4).length
  /-- An error has a code, and the rest is a text. -/
  error : kind = 7 → 2 ≤ body.length ∧ ∃ text, body.drop 2 = Utf8.encode text
  /-- A grant has a count. -/
  count : kind = 9 → 4 ≤ body.length

/-- Bytes that have a kind, an id and a body as the kind asks for. -/
structure WellFormed (bytes : Bytes) : Prop where
  long : headLength ≤ bytes.length
  body : WellFormedBody (bytes.headD 0) (bytes.drop headLength)

/-! ## What a frame shows is read -/

section

variable {frame : Frame} {bytes body : Bytes}

/-- A body that ends before the frame does is read without the rest. -/
theorem decodeBody_append (ignores : frame.ignoresRest = true) (rest : Bytes) :
    decodeBody frame.kind frame.streamId (frame.encodeBody ++ rest) = .ok frame := by
  cases frame with
  | complete id => rfl
  | cancel id => rfl
  | requestN id count =>
      have number : BigEndian.decode (BigEndian.encode 4 count.toNat) = count.toNat := by
        rw [BigEndian.decode_encode]
        exact Nat.mod_eq_of_lt count.toNat_lt
      have front : (encodeBody (.requestN id count) ++ rest).take 4 =
          BigEndian.encode 4 count.toNat := List.take_left' (BigEndian.length_encode _ _)
      have enough : ¬ (encodeBody (.requestN id count) ++ rest).length < 4 := by
        simp [encodeBody]
      simp only [kind, decodeBody, if_neg enough, front, number, UInt32.ofNat_toNat, streamId]
  | request mode id envelope => cases ignores
  | next id envelope => cases ignores
  | error id code text => cases ignores

theorem decode_of_shown (short : bytes.length < 2 ^ 32) (shown : frame.ShownBy bytes) :
    decode bytes = .ok frame := by
  cases ignores : frame.ignoresRest with
  | false =>
      rw [shown.whole ignores] at short ⊢
      exact decode_encodeContent short
  | true =>
      rcases shown.front with ⟨rest, rfl⟩
      rw [encodeContent, List.cons_append, List.append_assoc, decode_head,
        decodeBody_append ignores]

/-! ## What is read is shown -/

theorem exists_of_map {α β : Type} {outcome : Outcome α} {rewrite : α → β} {value : β}
    (read : outcome.map rewrite = .ok value) :
    ∃ original, outcome = .ok original ∧ value = rewrite original := by
  cases outcome with
  | error error => cases read
  | ok original => exact ⟨original, rfl, (Except.ok.inj read).symm⟩

theorem encodeEnvelope_of_decode {envelope : Envelope}
    (read : decodeEnvelope body = .ok envelope) : encodeEnvelope envelope = body := by
  rw [decodeEnvelope] at read
  split at read
  · cases read
  · rename_i enough
    dsimp only at read
    split at read
    · cases read
    · rename_i within
      cases read
      have length := BigEndian.encode_decode_take (Nat.le_of_not_lt enough)
      rw [encodeEnvelope, List.length_take, Nat.min_eq_left (Nat.le_of_not_lt within), length,
        List.append_assoc, List.take_append_drop, List.take_append_drop]

/-- A body is read as a frame of the given kind and id whose body it begins with. -/
theorem body_of_decodeBody {kind : UInt8} {id : UInt64}
    (read : decodeBody kind id body = .ok frame) :
    frame.kind = kind ∧ frame.streamId = id ∧ frame.encodeBody <+: body ∧
      (frame.ignoresRest = false → body = frame.encodeBody) := by
  unfold decodeBody at read
  split at read
  -- The five kinds that carry a message come first.
  iterate 5
    rcases exists_of_map read with ⟨envelope, parts, rfl⟩
    obtain rfl := encodeEnvelope_of_decode parts
    exact ⟨rfl, rfl, List.prefix_refl _, fun _ => rfl⟩
  case h_6 =>
    cases read
    refine ⟨rfl, rfl, List.nil_prefix, fun ignores => ?_⟩
    cases ignores
  case h_7 =>
    split at read
    · cases read
    · rename_i enough
      split at read
      · rename_i text parts
        cases read
        have long := Nat.le_of_not_lt enough
        have number : (UInt16.ofNat (BigEndian.decode (body.take 2))).toNat =
            BigEndian.decode (body.take 2) :=
          UInt16.toNat_ofNat_of_lt' (BigEndian.decode_take_lt long)
        have same : body = encodeBody (.error id (UInt16.ofNat
            (BigEndian.decode (body.take 2))) text) := by
          rw [encodeBody, number, BigEndian.encode_decode_take long,
            ← Utf8.decode_eq_ok_iff.mp parts, List.take_append_drop]
        exact ⟨rfl, rfl, same ▸ List.prefix_refl _, fun _ => same⟩
      · cases read
  case h_8 =>
    cases read
    refine ⟨rfl, rfl, List.nil_prefix, fun ignores => ?_⟩
    cases ignores
  case h_9 =>
    split at read
    · cases read
    · rename_i enough
      cases read
      have long := Nat.le_of_not_lt enough
      have number : (UInt32.ofNat (BigEndian.decode (body.take 4))).toNat =
          BigEndian.decode (body.take 4) :=
        UInt32.toNat_ofNat_of_lt' (BigEndian.decode_take_lt long)
      refine ⟨rfl, rfl, ?_, fun ignores => ?_⟩
      · rw [encodeBody, number, BigEndian.encode_decode_take long]
        exact List.take_prefix 4 body
      · cases ignores
  case h_10 => cases read

theorem shown_of_decode (read : decode bytes = .ok frame) : frame.ShownBy bytes := by
  cases bytes with
  | nil => cases read
  | cons first rest =>
      rw [decode] at read
      split at read
      · cases read
      · rename_i enough
        have long := Nat.le_of_not_lt enough
        rcases body_of_decodeBody read with ⟨kind, id, front, whole⟩
        have number : frame.streamId.toNat = BigEndian.decode (rest.take 8) := by
          rw [id]
          exact UInt64.toNat_ofNat_of_lt' (BigEndian.decode_take_lt long)
        have content : frame.encodeContent = first :: (rest.take 8 ++ frame.encodeBody) := by
          rw [encodeContent, kind, number, BigEndian.encode_decode_take long]
        constructor
        · rw [content, List.prefix_cons_inj]
          nth_rewrite 2 [← List.take_append_drop 8 rest]
          exact (List.prefix_append_right_inj _).mpr front
        · intro ignores
          rw [content, ← whole ignores, List.take_append_drop]

/-! ## Which bytes are read at all -/

theorem exists_map_iff {α β : Type} {outcome : Outcome α} {rewrite : α → β} :
    (∃ value, outcome.map rewrite = .ok value) ↔ ∃ original, outcome = .ok original := by
  cases outcome <;> simp [Except.map]

theorem exists_envelope_iff : (∃ envelope, decodeEnvelope body = .ok envelope) ↔
    4 ≤ body.length ∧ BigEndian.decode (body.take 4) ≤ (body.drop 4).length := by
  rw [decodeEnvelope]
  by_cases enough : body.length < 4
  · rw [if_pos enough]
    exact iff_of_false (by simp) (fun holds => Nat.not_le.mpr enough holds.1)
  · rw [if_neg enough]
    by_cases within : (body.drop 4).length < BigEndian.decode (body.take 4)
    · simp only [if_pos within]
      exact iff_of_false (by simp) (fun holds => Nat.not_le.mpr within holds.2)
    · simp only [if_neg within]
      exact iff_of_true ⟨_, rfl⟩ ⟨Nat.le_of_not_lt enough, Nat.le_of_not_lt within⟩

theorem wellFormedBody_message_iff {kind : UInt8} (low : 1 ≤ kind) (high : kind ≤ 5) :
    WellFormedBody kind body ↔
      4 ≤ body.length ∧ BigEndian.decode (body.take 4) ≤ (body.drop 4).length := by
  rw [UInt8.le_iff_toNat_le] at high
  constructor
  · intro formed
    exact formed.envelope (UInt8.le_iff_toNat_le.mpr high)
  · intro holds
    have known : kind ≤ 9 := UInt8.le_iff_toNat_le.mpr (Nat.le_trans high (by decide))
    refine ⟨⟨low, known⟩, fun _ => holds, ?_, ?_⟩
    · rintro rfl
      exact absurd high (by decide)
    · rintro rfl
      exact absurd high (by decide)

/-- There is no kind between those of the frames. -/
theorem known_cases {kind : UInt8} (low : 1 ≤ kind) (high : kind ≤ 9) :
    kind = 1 ∨ kind = 2 ∨ kind = 3 ∨ kind = 4 ∨ kind = 5 ∨ kind = 6 ∨ kind = 7 ∨ kind = 8 ∨
      kind = 9 := by
  rw [UInt8.le_iff_toNat_le] at low high
  simp only [← UInt8.toNat_inj]
  simp only [UInt8.toNat_ofNat] at low high ⊢
  omega

/-- A body can be read just if it is as its kind asks for. -/
theorem exists_body_iff (kind : UInt8) (id : UInt64) :
    (∃ frame, decodeBody kind id body = .ok frame) ↔ WellFormedBody kind body := by
  unfold decodeBody
  split
  iterate 5
    rw [exists_map_iff, exists_envelope_iff, wellFormedBody_message_iff (by decide) (by decide)]
  case h_6 => exact iff_of_true ⟨_, rfl⟩ ⟨by decide, nofun, nofun, nofun⟩
  case h_7 =>
    by_cases enough : body.length < 2
    · rw [if_pos enough]
      exact iff_of_false (by simp) (fun formed => Nat.not_le.mpr enough (formed.error rfl).1)
    · rw [if_neg enough]
      have long := Nat.le_of_not_lt enough
      split
      · rename_i text parts
        exact iff_of_true ⟨_, rfl⟩ ⟨by decide, nofun,
          fun _ => ⟨long, text, Utf8.decode_eq_ok_iff.mp parts⟩, nofun⟩
      · rename_i failure parts
        refine iff_of_false (by simp) (fun formed => ?_)
        rcases (formed.error rfl).2 with ⟨text, shown⟩
        rw [Utf8.decode_eq_ok_iff.mpr shown] at parts
        cases parts
  case h_8 => exact iff_of_true ⟨_, rfl⟩ ⟨by decide, nofun, nofun, nofun⟩
  case h_9 =>
    by_cases enough : body.length < 4
    · rw [if_pos enough]
      exact iff_of_false (by simp) (fun formed => Nat.not_le.mpr enough (formed.count rfl))
    · rw [if_neg enough]
      exact iff_of_true ⟨_, rfl⟩ ⟨by decide, nofun, nofun, fun _ => Nat.le_of_not_lt enough⟩
  case h_10 =>
    refine iff_of_false (by simp) (fun formed => ?_)
    rcases known_cases formed.known.1 formed.known.2 with
      rfl | rfl | rfl | rfl | rfl | rfl | rfl | rfl | rfl <;> contradiction

/-- Bytes can be read just if they are long enough and their body is as their kind asks for. -/
theorem exists_frame_iff : (∃ frame, decode bytes = .ok frame) ↔ WellFormed bytes := by
  cases bytes with
  | nil => exact iff_of_false (by simp [decode]) (fun formed => absurd formed.long (by decide))
  | cons first rest =>
      rw [decode]
      by_cases enough : rest.length < 8
      · rw [if_pos enough]
        refine iff_of_false (by simp) (fun formed => ?_)
        have long := formed.long
        rw [List.length_cons, headLength] at long
        omega
      · rw [if_neg enough, exists_body_iff]
        constructor
        · intro formed
          exact ⟨by rw [List.length_cons, headLength]; omega, formed⟩
        · exact WellFormed.body

/-! ## What cannot be read -/

theorem error_of_map {α β : Type} {outcome : Outcome α} {rewrite : α → β} {error : CallError}
    (fails : outcome.map rewrite = .error error) : outcome = .error error := by
  cases outcome with
  | error other => exact congrArg _ (Except.error.inj fails)
  | ok value => cases fails

theorem badRequest_of_decodeEnvelope {error : CallError}
    (fails : decodeEnvelope body = .error error) : ∃ text, error = .badRequest text := by
  rw [decodeEnvelope] at fails
  split at fails
  · exact ⟨_, (Except.error.inj fails).symm⟩
  · dsimp only at fails
    split at fails
    · exact ⟨_, (Except.error.inj fails).symm⟩
    · cases fails

theorem badRequest_of_decodeBody {kind : UInt8} {id : UInt64} {error : CallError}
    (fails : decodeBody kind id body = .error error) : ∃ text, error = .badRequest text := by
  unfold decodeBody at fails
  split at fails
  iterate 5 exact badRequest_of_decodeEnvelope (error_of_map fails)
  case h_6 => cases fails
  case h_7 =>
    split at fails
    · exact ⟨_, (Except.error.inj fails).symm⟩
    · split at fails
      · cases fails
      · exact ⟨_, (Except.error.inj fails).symm⟩
  case h_8 => cases fails
  case h_9 =>
    split at fails
    · exact ⟨_, (Except.error.inj fails).symm⟩
    · cases fails
  case h_10 => exact ⟨_, (Except.error.inj fails).symm⟩

theorem badRequest_of_decode {error : CallError} (fails : decode bytes = .error error) :
    ∃ text, error = .badRequest text := by
  cases bytes with
  | nil => exact ⟨_, (Except.error.inj fails).symm⟩
  | cons first rest =>
      rw [decode] at fails
      split at fails
      · exact ⟨_, (Except.error.inj fails).symm⟩
      · exact badRequest_of_decodeBody fails

/-! ## The grammar -/

/--
The frame that bytes are read as is the one they show, bytes show one frame at most, and they show
one just if they are well formed.  All other bytes are a bad request.
-/
theorem frames_decode_exactly (short : bytes.length < 2 ^ 32) :
    (∀ frame, decode bytes = .ok frame ↔ frame.ShownBy bytes) ∧
      ((∃ frame, decode bytes = .ok frame) ↔ WellFormed bytes) ∧
      (∀ first second : Frame, first.ShownBy bytes → second.ShownBy bytes → first = second) ∧
      (¬ WellFormed bytes → ∃ text, decode bytes = .error (.badRequest text)) := by
  refine ⟨fun frame => ⟨shown_of_decode, decode_of_shown short⟩, exists_frame_iff, ?_, ?_⟩
  · intro first second shows others
    have same := (decode_of_shown short shows).symm.trans (decode_of_shown short others)
    exact Except.ok.inj same
  · intro malformed
    cases read : decode bytes with
    | ok frame => exact absurd (exists_frame_iff.mp ⟨frame, read⟩) malformed
    | error error =>
        rcases badRequest_of_decode read with ⟨text, rfl⟩
        exact ⟨text, rfl⟩

/-- The bytes of a grant of sixteen on stream five, and one byte more. -/
def trailedGrant : Bytes :=
  [9, 0, 0, 0, 0, 0, 0, 0, 5, 0, 0, 0, 16, 255]

/-- A grant is read from bytes that go on behind it. -/
theorem trailed_grant_decodes_exactly : trailedGrant.length < 2 ^ 32 ∧
    decode trailedGrant = .ok (.requestN 5 16) ∧ WellFormed trailedGrant := by
  have short : trailedGrant.length < 2 ^ 32 := by decide
  have grammar := frames_decode_exactly short
  have read : decode trailedGrant = .ok (.requestN 5 16) :=
    (grammar.1 _).mpr ⟨⟨[255], by decide⟩, nofun⟩
  exact ⟨short, read, grammar.2.1.mp ⟨_, read⟩⟩

end

end Frame

end ServiceMesh
