import Mathlib.Tactic.ByContra
import ServiceMesh.Proofs.Frame.Reading

/-!
# Frames in a row, whole and cut off

The bytes of frames in a row are read one frame at a call, and the call after the last of them says
that the source has ended (`frames_read_in_order`).

If the bytes stop early, the frames that are whole are still read.  What comes then depends on the
place of the cut: inside the bytes that a length announces it is an error, and between two frames it
is the end.  Inside the four bytes of a length it is taken for the end as well, which is the only way
to miss a cut (`cuts_noticed_iff`), and it is a way (`cutLength_unnoticed`).
-/

namespace ServiceMesh

namespace Frame

/-- Where bytes stop that begin frames in a row: after some whole frames, inside the next. -/
inductive Torn : (frames : List Frame) → (bytes : Bytes) → (whole : List Frame) →
    (part : Bytes) → Prop where
  /-- All frames are there. -/
  | complete : Torn [] [] [] []
  /-- The first frame is not whole. -/
  | inside {frame : Frame} {frames : List Frame} {part lost : Bytes}
      (split : frame.encode = part ++ lost) (hurt : lost ≠ []) : Torn (frame :: frames) part [] part
  /-- The first frame is whole. -/
  | after {frame : Frame} {frames whole : List Frame} {bytes part : Bytes}
      (rest : Torn frames bytes whole part) :
      Torn (frame :: frames) (frame.encode ++ bytes) (frame :: whole) part

/-- A list holds just the frames that end within the first bytes of frames in a row. -/
structure WholeWithin (frames : List Frame) (count : Nat) (whole : List Frame) : Prop where
  begins : whole <+: frames
  ends : ∀ first second, frames = first ++ second →
    (first <+: whole ↔ (first.flatMap encode).length ≤ count)

/-- The first bytes of frames in a row end where a frame does, or where the first begins. -/
def AtBoundary (frames : List Frame) (count : Nat) : Prop :=
  ∃ first second, frames = first ++ second ∧
    (frames.flatMap encode).take count = first.flatMap encode

/-- The first bytes of frames in a row end inside the four bytes of the length of a frame. -/
def InLength (frames : List Frame) (count : Nat) : Prop :=
  ∃ first second part, frames = first ++ second ∧
    (frames.flatMap encode).take count = first.flatMap encode ++ part ∧
      0 < part.length ∧ part.length < 4

section

variable {frames whole : List Frame} {bytes part : Bytes} {count : Nat}

theorem exists_torn (begins : bytes <+: frames.flatMap encode) :
    ∃ whole part, Torn frames bytes whole part := by
  induction frames generalizing bytes with
  | nil =>
      rw [List.flatMap_nil, List.prefix_nil] at begins
      exact ⟨[], [], begins ▸ .complete⟩
  | cons frame frames induction =>
      rcases begins with ⟨rest, equal⟩
      rw [List.flatMap_cons] at equal
      -- Either the bytes stop in the first frame, or it is whole and the others are torn.
      rcases List.append_eq_append_iff.mp equal with ⟨lost, split, _⟩ | ⟨others, split, follows⟩
      · by_cases whole : lost = []
        · rw [whole, List.append_nil] at split
          rcases induction List.nil_prefix with ⟨whole, part, torn⟩
          refine ⟨frame :: whole, part, ?_⟩
          rw [← split, ← List.append_nil frame.encode]
          exact .after torn
        · exact ⟨[], bytes, .inside split whole⟩
      · rcases induction ⟨rest, follows.symm⟩ with ⟨whole, part, torn⟩
        exact ⟨frame :: whole, part, split ▸ .after torn⟩

theorem Torn.bytes_eq (torn : Torn frames bytes whole part) :
    bytes = whole.flatMap encode ++ part := by
  induction torn with
  | complete => rfl
  | inside => rfl
  | after _ induction => rw [List.flatMap_cons, List.append_assoc, ← induction]

theorem Torn.begins (torn : Torn frames bytes whole part) : whole <+: frames := by
  induction torn with
  | complete => exact List.prefix_refl _
  | inside => exact List.nil_prefix
  | after _ induction => exact (List.prefix_cons_inj _).mpr induction

/-- More frames than the whole ones need more bytes. -/
theorem Torn.length_lt (torn : Torn frames bytes whole part) {first second : List Frame}
    (split : frames = first ++ second) (beyond : ¬ first <+: whole) :
    bytes.length < (first.flatMap encode).length := by
  induction torn generalizing first with
  | complete =>
      rw [(List.append_eq_nil_iff.mp split.symm).1] at beyond
      exact absurd List.nil_prefix beyond
  | @inside frame frames part lost equal hurt =>
      cases first with
      | nil => exact absurd List.nil_prefix beyond
      | cons other first =>
          have same : frame = other := (List.cons_eq_cons.mp split).1
          have some_lost := List.length_pos_iff.mpr hurt
          rw [← same, List.flatMap_cons, equal]
          simp only [List.length_append]
          omega
  | @after frame frames whole bytes part rest induction =>
      cases first with
      | nil => exact absurd List.nil_prefix beyond
      | cons other first =>
          rcases List.cons_eq_cons.mp split with ⟨same, others⟩
          have longer := induction others fun within =>
            beyond (same ▸ (List.prefix_cons_inj _).mpr within)
          rw [← same, List.flatMap_cons, List.length_append, List.length_append]
          omega

theorem length_flatMap_le (within : frames <+: whole) :
    (frames.flatMap encode).length ≤ (whole.flatMap encode).length := by
  rcases within with ⟨others, rfl⟩
  rw [List.flatMap_append, List.length_append]
  exact Nat.le_add_right _ _

theorem Torn.wholeWithin
    (torn : Torn frames ((frames.flatMap encode).take count) whole part) :
    WholeWithin frames count whole where
  begins := torn.begins
  ends first second split := by
    have size := congrArg List.length torn.bytes_eq
    rw [List.length_append, List.length_take] at size
    constructor
    · intro within
      have shorter := length_flatMap_le within
      omega
    · intro short
      by_contra beyond
      have longer := torn.length_lt split beyond
      have total : first <+: frames := ⟨second, split.symm⟩
      have less := length_flatMap_le total
      rw [List.length_take] at longer
      omega

theorem Torn.atBoundary_iff
    (torn : Torn frames ((frames.flatMap encode).take count) whole part) :
    AtBoundary frames count ↔ part = [] := by
  constructor
  · rintro ⟨first, second, split, equal⟩
    have within : first <+: whole := (torn.wholeWithin.ends first second split).mpr (by
      rw [← equal, List.length_take]
      exact Nat.min_le_left _ _)
    have shorter := length_flatMap_le within
    have size := congrArg List.length (equal.symm.trans torn.bytes_eq)
    rw [List.length_append] at size
    exact List.length_eq_zero_iff.mp (by omega)
  · rintro rfl
    rcases torn.begins with ⟨second, split⟩
    exact ⟨whole, second, split.symm, torn.bytes_eq.trans (List.append_nil _)⟩

theorem four_le_length_encode (frame : Frame) : 4 ≤ frame.encode.length := by
  rw [encode, List.length_append, BigEndian.length_encode]
  exact Nat.le_add_right _ _

theorem Torn.inLength_iff
    (torn : Torn frames ((frames.flatMap encode).take count) whole part) :
    InLength frames count ↔ 0 < part.length ∧ part.length < 4 := by
  constructor
  · rintro ⟨first, second, rest, split, equal, some_rest, short⟩
    have within : first <+: whole := (torn.wholeWithin.ends first second split).mpr (by
      have size := congrArg List.length equal
      rw [List.length_take, List.length_append] at size
      omega)
    have same := equal.symm.trans torn.bytes_eq
    rcases within with ⟨others, rfl⟩
    rw [List.flatMap_append, List.append_assoc, List.append_cancel_left_eq] at same
    cases others with
    | nil =>
        have left : rest = part := same
        exact left ▸ ⟨some_rest, short⟩
    | cons frame others =>
        have least := four_le_length_encode frame
        rw [same, List.flatMap_cons] at short
        simp only [List.length_append] at short
        omega
  · rintro ⟨some_part, short⟩
    rcases torn.begins with ⟨second, split⟩
    exact ⟨whole, second, part, split.symm, torn.bytes_eq, some_part, short⟩

/-- A cut goes by without a failure just if less than a length is left. -/
theorem Torn.unnoticed_iff
    (torn : Torn frames ((frames.flatMap encode).take count) whole part) :
    AtBoundary frames count ∨ InLength frames count ↔ part.length < 4 := by
  rw [torn.atBoundary_iff, torn.inLength_iff, ← List.length_eq_zero_iff]
  omega

theorem WholeWithin.unique {other : List Frame} (within : WholeWithin frames count whole)
    (again : WholeWithin frames count other) : other = whole := by
  rcases within.begins with ⟨second, split⟩
  rcases again.begins with ⟨third, splitAgain⟩
  have forth : whole <+: other := (again.ends whole second split.symm).mpr
    ((within.ends whole second split.symm).mp (List.prefix_refl _))
  have back : other <+: whole := (within.ends other third splitAgain.symm).mpr
    ((again.ends other third splitAgain.symm).mp (List.prefix_refl _))
  exact back.eq_of_length (Nat.le_antisymm back.length_le forth.length_le)

end

end Frame

namespace ByteSource

/-- Reads in a row take a source from one state to another. -/
inductive ReadsOff (maxSize : Nat) : ByteSource → List Frame → ByteSource → Prop where
  /-- No read. -/
  | nothing {source : ByteSource} : ReadsOff maxSize source [] source
  /-- A read and those that follow it. -/
  | frame {source next last : ByteSource} {frame : Frame} {frames : List Frame}
      (read : source.readFrame maxSize = .ok (some (frame, next)))
      (others : ReadsOff maxSize next frames last) :
      ReadsOff maxSize source (frame :: frames) last

/-- The failure of a read whose source ends inside the bytes that a length announces. -/
def earlyEnd : CallError := .connection "reading frame body: early eof"

section

variable {maxSize : Nat} {source last : ByteSource} {frames : List Frame}

theorem readsOff_encode {rest : Bytes} (source : ByteSource)
    (fit : ∀ frame ∈ frames, frame.Fits maxSize)
    (holds : source.pieces.flatten = frames.flatMap Frame.encode ++ rest) :
    ∃ last : ByteSource, ReadsOff maxSize source frames last ∧ last.pieces.flatten = rest ∧
      last.failure = source.failure := by
  induction frames generalizing source with
  | nil => exact ⟨source, .nothing, holds, rfl⟩
  | cons frame frames induction =>
      rw [List.flatMap_cons, List.append_assoc] at holds
      rcases readFrame_encode (fit frame List.mem_cons_self) holds with ⟨next, read, follows, same⟩
      rcases induction next (fun _ member => fit _ (List.mem_cons_of_mem _ member)) follows with
        ⟨last, others, remains, still⟩
      exact ⟨last, .frame read others, remains, still.trans same⟩

theorem ReadsOff.unique {other : ByteSource} (reads : ReadsOff maxSize source frames last)
    (again : ReadsOff maxSize source frames other) : other = last := by
  induction reads with
  | nothing =>
      cases again
      rfl
  | frame read others induction =>
      cases again with
      | frame reread more =>
          rw [read] at reread
          cases reread
          exact induction more

theorem readFrame_of_short (short : source.pieces.flatten.length < 4)
    (ends : source.failure = none) : source.readFrame maxSize = .ok none := by
  simp only [readFrame, take?_of_short short, ends]

/-- A source that ends inside a frame, but after its length, is noticed. -/
theorem readFrame_of_torn {frame : Frame} {part lost : Bytes} (fits : frame.Fits maxSize)
    (split : frame.encode = part ++ lost) (hurt : lost ≠ []) (long : 4 ≤ part.length)
    (holds : source.pieces.flatten = part) (ends : source.failure = none) :
    source.readFrame maxSize = .error earlyEnd := by
  have some_lost := List.length_pos_iff.mpr hurt
  rw [Frame.encode_eq] at split
  have total := congrArg List.length split
  rw [List.length_append, List.length_append, BigEndian.length_encode] at total
  have front : part.take 4 = BigEndian.encode 4 frame.encodeContent.length := by
    have taken := congrArg (List.take 4) split
    rw [List.take_left' (BigEndian.length_encode _ _), List.take_append_of_le_length long] at taken
    exact taken.symm
  have cut : source.pieces.flatten =
      BigEndian.encode 4 frame.encodeContent.length ++ part.drop 4 := by
    rw [holds, ← front, List.take_append_drop]
  rcases take?_of_append cut with ⟨middle, length, contents, same⟩
  rw [BigEndian.length_encode] at length
  -- The length is whole and says how much should follow; less than that is left.
  have size : BigEndian.decode (BigEndian.encode 4 frame.encodeContent.length) =
      frame.encodeContent.length := by
    rw [BigEndian.decode_encode]
    exact Nat.mod_eq_of_lt fits.2
  have missing : middle.take? frame.encodeContent.length = none := take?_of_short (by
    rw [contents, List.length_drop]
    omega)
  rw [readFrame, length]
  simp only [size, if_neg (Nat.not_lt.mpr fits.1), missing, same, ends, earlyEnd]
  rfl

/-- How the reading of torn frames ends: a part that does not even hold a length goes unnoticed. -/
theorem readFrame_of_part {whole : List Frame} {bytes part : Bytes}
    (torn : Frame.Torn frames bytes whole part) (fit : ∀ frame ∈ frames, frame.Fits maxSize)
    (holds : source.pieces.flatten = part) (ends : source.failure = none) :
    source.readFrame maxSize = if part.length < 4 then .ok none else .error earlyEnd := by
  split
  · rename_i short
    exact readFrame_of_short (holds ▸ short) ends
  · rename_i long
    induction torn with
    | complete => exact absurd (Nat.zero_lt_succ 3) long
    | inside split hurt =>
        exact readFrame_of_torn (fit _ List.mem_cons_self) split hurt (Nat.le_of_not_lt long)
          holds ends
    | after _ induction =>
        exact induction (fun other member => fit other (List.mem_cons_of_mem _ member)) holds long

end

/-! ## Whole frames -/

/-- Frames in a row are read one at a call, whatever the pieces in which their bytes arrive.  Every
call takes just the bytes of its frame, and the call after the last frame says that there is none. -/
theorem frames_read_in_order {maxSize : Nat} {frames : List Frame} {pieces : List Bytes}
    (fit : ∀ frame ∈ frames, frame.Fits maxSize)
    (cut : pieces.flatten = frames.flatMap Frame.encode) :
    (∀ before frame after, frames = before ++ frame :: after →
      ∃ source next, ReadsOff maxSize ⟨pieces, none⟩ before source ∧
        source.readFrame maxSize = .ok (some (frame, next)) ∧
          source.pieces.flatten = frame.encode ++ next.pieces.flatten ∧
            next.pieces.flatten = after.flatMap Frame.encode) ∧
      (∃ last, ReadsOff maxSize ⟨pieces, none⟩ frames last ∧ last.size = 0 ∧
        last.readFrame maxSize = .ok none) ∧
        (ByteSource.mk pieces none).readFrames maxSize = (frames, none) := by
  refine ⟨?_, ?_, readFrames_encode fit cut⟩
  · rintro before frame after rfl
    rw [List.flatMap_append] at cut
    have fitBefore : ∀ frame ∈ before, frame.Fits maxSize :=
      fun other member => fit other (List.mem_append_left _ member)
    have fitFrame : frame.Fits maxSize :=
      fit frame (List.mem_append_right _ List.mem_cons_self)
    rcases readsOff_encode ⟨pieces, none⟩ fitBefore cut with ⟨source, reads, remains, _⟩
    rw [List.flatMap_cons] at remains
    rcases readFrame_encode fitFrame remains with ⟨next, read, follows, _⟩
    exact ⟨source, next, reads, read, by rw [remains, follows], follows⟩
  · rw [← List.append_nil (frames.flatMap Frame.encode)] at cut
    rcases readsOff_encode ⟨pieces, none⟩ fit cut with ⟨last, reads, remains, ends⟩
    have nothing : last.size = 0 := by rw [size, remains, List.length_nil]
    exact ⟨last, reads, nothing, readFrame_of_short (by rw [remains]; decide) ends⟩

/-- Frames of several kinds, one of them with a text that is not all ASCII. -/
def refusedChannel : List Frame :=
  [.request .requestChannel 7 ⟨[91, 93], [123, 125]⟩, .error 7 401 "refusé", .requestN 5 16]

theorem refusedChannel_read :
    (∀ frame ∈ refusedChannel, frame.Fits 64) ∧
      ((refusedChannel.flatMap Frame.encode).map (fun byte => [byte])).flatten =
        refusedChannel.flatMap Frame.encode ∧
      (ByteSource.mk ((refusedChannel.flatMap Frame.encode).map (fun byte => [byte]))
        none).readFrames 64 = (refusedChannel, none) := by
  have fit : ∀ frame ∈ refusedChannel, frame.Fits 64 := by decide +kernel
  have cut : ((refusedChannel.flatMap Frame.encode).map (fun byte => [byte])).flatten =
      refusedChannel.flatMap Frame.encode := by
    decide +kernel
  exact ⟨fit, cut, (frames_read_in_order fit cut).2.2⟩

/-! ## Frames that were cut off -/

section

variable {maxSize : Nat} {frames : List Frame}

/-- The whole frames are read, and then the part of the next. -/
theorem readsOff_of_torn {pieces : List Bytes} {whole : List Frame} {part : Bytes}
    (fit : ∀ frame ∈ frames, frame.Fits maxSize)
    (torn : Frame.Torn frames pieces.flatten whole part) :
    ∃ last : ByteSource, ReadsOff maxSize ⟨pieces, none⟩ whole last ∧
      last.readFrame maxSize = if part.length < 4 then .ok none else .error earlyEnd := by
  have fits : ∀ frame ∈ whole, frame.Fits maxSize :=
    fun frame member => fit frame (torn.begins.subset member)
  rcases readsOff_encode ⟨pieces, none⟩ fits torn.bytes_eq with
    ⟨last, reads, remains, ends⟩
  exact ⟨last, reads, readFrame_of_part torn fit remains ends⟩

/-- Reading notices where frames in a row were cut off: it gives the frames that are whole and then
ends, without a failure just if the cut is between two frames. -/
def NoticesCut (maxSize : Nat) (frames : List Frame) (count : Nat) : Prop :=
  ∀ pieces : List Bytes, pieces.flatten = (frames.flatMap Frame.encode).take count →
    ∃ whole last, ReadsOff maxSize ⟨pieces, none⟩ whole last ∧
      Frame.WholeWithin frames count whole ∧
        (Frame.AtBoundary frames count → last.readFrame maxSize = .ok none) ∧
          (¬ Frame.AtBoundary frames count → ∃ error, last.readFrame maxSize = .error error)

/-- A cut inside the length of a frame is taken for the end. -/
theorem not_noticesCut_of_inLength {count : Nat} (fit : ∀ frame ∈ frames, frame.Fits maxSize)
    (inside : Frame.InLength frames count) : ¬ NoticesCut maxSize frames count := by
  intro notices
  rcases Frame.exists_torn (List.take_prefix count (frames.flatMap Frame.encode)) with
    ⟨whole, part, torn⟩
  have some_part := torn.inLength_iff.mp inside
  have off : ¬ Frame.AtBoundary frames count := fun boundary => by
    rw [torn.atBoundary_iff.mp boundary] at some_part
    exact Nat.lt_irrefl 0 some_part.1
  have cut : [(frames.flatMap Frame.encode).take count].flatten =
      (frames.flatMap Frame.encode).take count := by
    rw [List.flatten_cons, List.flatten_nil, List.append_nil]
  rcases notices _ cut with ⟨other, final, again, within, _, fails⟩
  rcases fails off with ⟨error, failed⟩
  rcases readsOff_of_torn fit (cut.symm ▸ torn) with ⟨last, reads, ending⟩
  rw [torn.wholeWithin.unique within] at again
  rw [reads.unique again, ending, if_pos some_part.2] at failed
  cases failed

/-- The frames that are whole are always read.  What follows them is a failure just if the cut is
behind the length of a frame, so that reading notices every cut but one inside a length. -/
theorem cuts_noticed_iff (fit : ∀ frame ∈ frames, frame.Fits maxSize) (count : Nat) :
    (∀ pieces : List Bytes, pieces.flatten = (frames.flatMap Frame.encode).take count →
      ∃ whole last, ReadsOff maxSize ⟨pieces, none⟩ whole last ∧
        Frame.WholeWithin frames count whole ∧
          (Frame.AtBoundary frames count ∨ Frame.InLength frames count →
            last.readFrame maxSize = .ok none) ∧
            (¬ (Frame.AtBoundary frames count ∨ Frame.InLength frames count) →
              last.readFrame maxSize = .error earlyEnd)) ∧
      (NoticesCut maxSize frames count ↔ ¬ Frame.InLength frames count) := by
  have reading (pieces : List Bytes)
      (cut : pieces.flatten = (frames.flatMap Frame.encode).take count) :
      ∃ whole last, ReadsOff maxSize ⟨pieces, none⟩ whole last ∧
        Frame.WholeWithin frames count whole ∧
          (Frame.AtBoundary frames count ∨ Frame.InLength frames count →
            last.readFrame maxSize = .ok none) ∧
            (¬ (Frame.AtBoundary frames count ∨ Frame.InLength frames count) →
              last.readFrame maxSize = .error earlyEnd) := by
    rcases Frame.exists_torn (List.take_prefix count (frames.flatMap Frame.encode)) with
      ⟨whole, part, torn⟩
    rcases readsOff_of_torn fit (cut.symm ▸ torn) with ⟨last, reads, ending⟩
    refine ⟨whole, last, reads, torn.wholeWithin, fun missed => ?_, fun noticed => ?_⟩
    · rw [ending, if_pos (torn.unnoticed_iff.mp missed)]
    · rw [ending, if_neg (fun short => noticed (torn.unnoticed_iff.mpr short))]
  refine ⟨reading, fun notices inside => not_noticesCut_of_inLength fit inside notices, ?_⟩
  intro clear pieces cut
  rcases reading pieces cut with ⟨whole, last, reads, within, missed, noticed⟩
  exact ⟨whole, last, reads, within, fun boundary => missed (.inl boundary),
    fun off => ⟨earlyEnd, noticed (fun either => either.elim off clear)⟩⟩

end

/-- A cut inside the text of an error is noticed. -/
theorem cutText_noticed :
    (∀ frame ∈ refusedChannel, frame.Fits 64) ∧ NoticesCut 64 refusedChannel 40 := by
  have fit : ∀ frame ∈ refusedChannel, frame.Fits 64 := by decide +kernel
  have cut : (refusedChannel.flatMap Frame.encode).take 40 =
      (Frame.request .requestChannel 7 ⟨[91, 93], [123, 125]⟩).encode ++
        (Frame.error 7 401 "refusé").encode.take 19 := by
    decide +kernel
  have torn : Frame.Torn refusedChannel ((refusedChannel.flatMap Frame.encode).take 40)
      [.request .requestChannel 7 ⟨[91, 93], [123, 125]⟩]
      ((Frame.error 7 401 "refusé").encode.take 19) := by
    rw [cut]
    exact .after (.inside (List.take_append_drop 19 _).symm (by decide +kernel))
  have outside : ¬ Frame.InLength refusedChannel 40 := by
    rw [torn.inLength_iff]
    decide +kernel
  exact ⟨fit, (cuts_noticed_iff fit 40).2.mpr outside⟩

/-- Not every cut is noticed: the first byte of a length, which is all that has come, is taken for the
end. -/
theorem cutLength_unnoticed : ¬ NoticesCut 16 [.complete 1] 1 :=
  not_noticesCut_of_inLength (by decide) ⟨[], [.complete 1], [0], rfl, by decide, by decide,
    by decide⟩

end ByteSource

end ServiceMesh
