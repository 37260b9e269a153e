import Mathlib.Algebra.Ring.Nat
import Mathlib.Data.List.Basic

/-!
# Numbers and fields in a byte stream

Fixed-width little-endian numbers, and a reader that waits for a number of bytes.
-/

namespace DeepNps.ByteOrder

/-- The `width` lowest bytes of a number, the lowest first. -/
def putLittleEndian : (width : Nat) → Nat → List UInt8
  | 0, _ => []
  | width + 1, number => UInt8.ofNat number :: putLittleEndian width (number / 256)

def littleEndian : List UInt8 → Nat
  | [] => 0
  | byte :: bytes => byte.toNat + 256 * littleEndian bytes

/-- Take exactly `count` bytes, if there are that many. -/
def readFull (count : Nat) (stream : List UInt8) : Option (List UInt8 × List UInt8) :=
  if count ≤ stream.length then some (stream.take count, stream.drop count) else none

@[simp]
theorem length_putLittleEndian (width number : Nat) :
    (putLittleEndian width number).length = width := by
  induction width generalizing number with
  | zero => rfl
  | succ _ ih => simp [putLittleEndian, ih]

theorem littleEndian_putLittleEndian {width number : Nat} (fits : number < 256 ^ width) :
    littleEndian (putLittleEndian width number) = number := by
  induction width generalizing number with
  | zero =>
    have isZero : number = 0 := by omega
    simp [putLittleEndian, littleEndian, isZero]
  | succ width ih =>
    have rest : number / 256 < 256 ^ width := by
      rw [Nat.pow_succ] at fits
      omega
    rw [putLittleEndian, littleEndian, ih rest, UInt8.toNat_ofNat']
    omega

theorem readFull_append {count : Nat} {field : List UInt8} (isLength : field.length = count)
    (rest : List UInt8) : readFull count (field ++ rest) = some (field, rest) := by
  subst isLength
  simp [readFull]

end DeepNps.ByteOrder
