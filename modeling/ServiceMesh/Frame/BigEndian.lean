import ServiceMesh.Text.Utf8
/-!
# Numbers as big-endian bytes

Frames write their lengths, ids, codes and counts with the most significant byte first.  A number
that needs more than the given width loses its upper part.
-/

namespace ServiceMesh.BigEndian

/-- The lowest `width` bytes of a number, the most significant first. -/
def encode : (width number : Nat) → Bytes
  | 0, _ => []
  | width + 1, number => encode width (number / 256) ++ [UInt8.ofNat number]

/-- The number that bytes write. -/
def decode (bytes : Bytes) : Nat :=
  bytes.foldl (fun number byte => 256 * number + byte.toNat) 0

@[simp]
theorem length_encode (width number : Nat) : (encode width number).length = width := by
  induction width generalizing number with
  | zero => rfl
  | succ width step => simp [encode, step]

theorem decode_append_singleton (bytes : Bytes) (byte : UInt8) :
    decode (bytes ++ [byte]) = 256 * decode bytes + byte.toNat := by
  simp [decode]

/-- Reading back gives the number, reduced to the width. -/
theorem decode_encode (width number : Nat) :
    decode (encode width number) = number % Nat.pow 256 width := by
  induction width generalizing number with
  | zero => simp [encode, decode, Nat.mod_one]
  | succ width step =>
    have low : (UInt8.ofNat number).toNat = number % 256 := UInt8.toNat_ofNat'
    have widths : Nat.pow 256 (width + 1) = 256 * Nat.pow 256 width := Nat.mul_comm _ _
    rw [encode, decode_append_singleton, step, low, widths, Nat.mod_mul, Nat.add_comm]

end ServiceMesh.BigEndian
