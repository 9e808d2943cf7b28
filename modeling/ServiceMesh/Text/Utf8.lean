/-!
# Text as UTF-8 bytes

Buffers are lists of bytes.  Text becomes bytes by `Utf8.encode`; `Utf8.decode` takes back exactly
the encodings of text (`decode_encode`, `encode_of_decode`) and says of any other byte list where
its longest well-formed beginning stops and why.
-/

namespace ServiceMesh

/-- A buffer of bytes. -/
abbrev Bytes := List UInt8

namespace Utf8

/-- Why a byte list is not the encoding of a text. -/
inductive Failure where
  /-- From `start` on, `length` bytes begin a character that the next byte does not continue. -/
  | invalid (start length : Nat)
  /-- The bytes end inside the character that begins at `start`. -/
  | incomplete (start : Nat)
  deriving DecidableEq, Repr

/-- The wording of a decoding failure. -/
def Failure.message : Failure → String
  | .invalid start length => s!"invalid utf-8 sequence of {length} bytes from index {start}"
  | .incomplete start => s!"incomplete utf-8 byte sequence from index {start}"

/-- The bytes that may stand at one place inside a character, as an inclusive range. -/
structure ByteRange where
  /-- The least byte. -/
  low : UInt8
  /-- The greatest byte. -/
  high : UInt8
  deriving DecidableEq, Repr

/-- Whether a byte lies in a range. -/
def ByteRange.contains (range : ByteRange) (byte : UInt8) : Bool :=
  range.low ≤ byte && byte ≤ range.high

/-- The range of an unrestricted continuation byte. -/
def continuation : ByteRange := ⟨0x80, 0xBF⟩

/-- The ranges of the bytes that have to follow a leading byte: none after an ASCII byte, and no
answer for a byte that leads no character.  The first range is narrower where a longer form would
encode a surrogate, a code point beyond the last, or what a shorter form already encodes. -/
def following (lead : UInt8) : Option (List ByteRange) :=
  if lead < 0x80 then some []
  else if lead < 0xC2 then none
  else if lead < 0xE0 then some [continuation]
  else if lead = 0xE0 then some [⟨0xA0, 0xBF⟩, continuation]
  else if lead = 0xED then some [⟨0x80, 0x9F⟩, continuation]
  else if lead < 0xF0 then some [continuation, continuation]
  else if lead = 0xF0 then some [⟨0x90, 0xBF⟩, continuation, continuation]
  else if lead < 0xF4 then some [continuation, continuation, continuation]
  else if lead = 0xF4 then some [⟨0x80, 0x8F⟩, continuation, continuation]
  else none

/-- Scans bytes from `position` on, inside a character that began at `start` and still expects the
given ranges, and reports the first place where no character can go on. -/
def scan : Bytes → (position start : Nat) → List ByteRange → Option Failure
  | [], _, _, [] => none
  | [], _, start, _ :: _ => some (.incomplete start)
  | byte :: rest, position, _, [] =>
    match following byte with
    | some ranges => scan rest (position + 1) position ranges
    | none => some (.invalid position 1)
  | byte :: rest, position, start, range :: ranges =>
    if range.contains byte then scan rest (position + 1) start ranges
    else some (.invalid start (position - start))

/-- Where and why a byte list stops being the encoding of a text. -/
def failure? (bytes : Bytes) : Option Failure := scan bytes 0 0 []

/-- The bytes of a text. -/
def encode (text : String) : Bytes := text.toByteArray.data.toList

/-- The text that a byte list encodes. -/
def decode? (bytes : Bytes) : Option String := String.fromUTF8? ⟨bytes.toArray⟩

/-- The text that a byte list encodes, or the reason why it encodes none. -/
def decode (bytes : Bytes) : Except Failure String :=
  match decode? bytes with
  | some text => .ok text
  | none => .error ((failure? bytes).getD (.incomplete bytes.length))

@[simp]
theorem length_encode (text : String) : (encode text).length = text.utf8ByteSize := rfl

/-- Decoding takes back what encoding wrote. -/
@[simp]
theorem decode?_encode (text : String) : decode? (encode text) = some text := by
  have valid : (⟨text.toByteArray.data.toList.toArray⟩ : ByteArray) = text.toByteArray := by
    simp
  simp only [decode?, encode, valid, String.fromUTF8?]
  rw [dif_pos text.isValidUTF8]
  rfl

/-- Only encodings decode. -/
theorem encode_of_decode? {bytes : Bytes} {text : String} (decoded : decode? bytes = some text) :
    encode text = bytes := by
  simp only [decode?, String.fromUTF8?] at decoded
  split at decoded
  · cases decoded
    simp [encode, String.fromUTF8]
  · cases decoded

theorem decode_eq_ok_iff {bytes : Bytes} {text : String} :
    decode bytes = .ok text ↔ bytes = encode text := by
  constructor
  · intro decoded
    simp only [decode] at decoded
    split at decoded
    · rename_i found
      cases decoded
      exact (encode_of_decode? found).symm
    · cases decoded
  · rintro rfl
    simp [decode]

end Utf8

end ServiceMesh
