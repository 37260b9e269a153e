import DeepNps.MuxFrame
import Mathlib.Data.Nat.Bitwise
import Mathlib.Data.UInt

/-!
# Packed window words

One bit for `wait`, 31 for `maxSize`, one unused, and 31 for `done`.  Packing forgets the
top bit of either number.
-/

namespace DeepNps.Mux

def dequeueBits : UInt64 := 32

def waitBits : UInt64 := 63

def mask31 : UInt32 := 0x7fffffff

structure WindowWord where
  maxSize : UInt32
  done : UInt32
  wait : Bool
  deriving DecidableEq, Repr

def unpack (ptrs : UInt64) : WindowWord where
  maxSize := ((ptrs >>> dequeueBits) &&& mask31.toUInt64).toUInt32
  done := (ptrs &&& mask31.toUInt64).toUInt32
  wait := ((ptrs >>> waitBits) &&& 1) == 1

def pack (maxSize done : UInt32) (wait : Bool) : UInt64 :=
  if wait then
    ((1 : UInt64) <<< waitBits ||| (maxSize &&& mask31).toUInt64 <<< dequeueBits) |||
      (done &&& mask31).toUInt64
  else
    ((0 : UInt64) <<< waitBits ||| (maxSize &&& mask31).toUInt64 <<< dequeueBits) |||
      (done &&& mask31).toUInt64

theorem mask31_toNat : mask31.toNat = 2 ^ 31 - 1 := rfl

theorem and_mask31_toNat (number : UInt32) : (number &&& mask31).toNat = number.toNat % 2 ^ 31 := by
  rw [UInt32.toNat_and, mask31_toNat, Nat.and_two_pow_sub_one_eq_mod]

theorem and_mask31_of_lt {number : UInt32} (small : number.toNat < 2 ^ 31) :
    number &&& mask31 = number := by
  apply UInt32.toNat_inj.mp
  rw [and_mask31_toNat, Nat.mod_eq_of_lt small]

private theorem and_mask64_toNat (word : UInt64) :
    (word &&& mask31.toUInt64).toNat = word.toNat % 2 ^ 31 := by
  rw [UInt64.toNat_and, UInt32.toNat_toUInt64, mask31_toNat, Nat.and_two_pow_sub_one_eq_mod]

theorem pack_toNat (maxSize done : UInt32) (wait : Bool) :
    (pack maxSize done wait).toNat =
      wait.toNat * 2 ^ 63 + maxSize.toNat % 2 ^ 31 * 2 ^ 32 + done.toNat % 2 ^ 31 := by
  have low : done.toNat % 2 ^ 31 < 2 ^ 32 := by omega
  have high : maxSize.toNat % 2 ^ 31 * 2 ^ 32 < 2 ^ 63 := by omega
  have shifted : ((maxSize &&& mask31).toUInt64 <<< dequeueBits).toNat =
      maxSize.toNat % 2 ^ 31 * 2 ^ 32 := by
    have distance : dequeueBits.toNat % 64 = 32 := rfl
    rw [UInt64.toNat_shiftLeft, UInt32.toNat_toUInt64, and_mask31_toNat, distance, Nat.shiftLeft_eq]
    exact Nat.mod_eq_of_lt (by omega)
  have joined (top : Nat) (aligned : top % 2 ^ 32 = 0) :
      top ||| done.toNat % 2 ^ 31 = top + done.toNat % 2 ^ 31 := by
    have split : top = (top / 2 ^ 32) <<< 32 := by
      rw [Nat.shiftLeft_eq]
      omega
    rw [split, ← Nat.shiftLeft_add_eq_or_of_lt low]
  cases wait with
  | false =>
    have word : (pack maxSize done false).toNat =
        (0 ||| maxSize.toNat % 2 ^ 31 * 2 ^ 32) ||| done.toNat % 2 ^ 31 := by
      simp only [pack, Bool.false_eq_true, if_false, UInt64.toNat_or, shifted,
        UInt32.toNat_toUInt64, and_mask31_toNat]
      rfl
    rw [word, Nat.zero_or, joined _ (by omega)]
    simp
  | true =>
    have word : (pack maxSize done true).toNat =
        (1 <<< 63 ||| maxSize.toNat % 2 ^ 31 * 2 ^ 32) ||| done.toNat % 2 ^ 31 := by
      simp only [pack, if_true, UInt64.toNat_or, shifted, UInt32.toNat_toUInt64, and_mask31_toNat]
      rfl
    rw [word, ← Nat.shiftLeft_add_eq_or_of_lt high, joined _ (by rw [Nat.shiftLeft_eq]; omega)]
    simp [Nat.shiftLeft_eq]

theorem unpack_maxSize_toNat (ptrs : UInt64) :
    (unpack ptrs).maxSize.toNat = ptrs.toNat / 2 ^ 32 % 2 ^ 31 := by
  have shifted : (ptrs >>> dequeueBits).toNat = ptrs.toNat / 2 ^ 32 := by
    rw [UInt64.toNat_shiftRight, Nat.shiftRight_eq_div_pow]
    rfl
  rw [unpack, UInt64.toNat_toUInt32, and_mask64_toNat, shifted]
  omega

theorem unpack_done_toNat (ptrs : UInt64) : (unpack ptrs).done.toNat = ptrs.toNat % 2 ^ 31 := by
  rw [unpack, UInt64.toNat_toUInt32, and_mask64_toNat]
  omega

theorem unpack_wait (ptrs : UInt64) : (unpack ptrs).wait = decide (2 ^ 63 ≤ ptrs.toNat) := by
  have bound := ptrs.toNat_lt
  have bit : ((ptrs >>> waitBits) &&& 1).toNat = ptrs.toNat / 2 ^ 63 % 2 := by
    rw [UInt64.toNat_and, UInt64.toNat_shiftRight, Nat.shiftRight_eq_div_pow]
    exact Nat.and_one_is_mod _
  have isOne : (((ptrs >>> waitBits) &&& 1) == 1) = decide (ptrs.toNat / 2 ^ 63 % 2 = 1) := by
    rw [Bool.eq_iff_iff, beq_iff_eq, decide_eq_true_iff, ← bit, ← UInt64.toNat_inj]
    rfl
  rw [unpack, isOne, decide_eq_decide]
  omega

@[simp]
theorem unpack_pack (maxSize done : UInt32) (wait : Bool) :
    unpack (pack maxSize done wait) = ⟨maxSize &&& mask31, done &&& mask31, wait⟩ := by
  have word := pack_toNat maxSize done wait
  have parts : ∀ first second : WindowWord, first.maxSize = second.maxSize →
      first.done = second.done → first.wait = second.wait → first = second := by
    rintro ⟨⟩ ⟨⟩ rfl rfl rfl
    rfl
  apply parts
  · apply UInt32.toNat_inj.mp
    rw [unpack_maxSize_toNat, and_mask31_toNat, word]
    cases wait <;> simp <;> omega
  · apply UInt32.toNat_inj.mp
    rw [unpack_done_toNat, and_mask31_toNat, word]
    cases wait <;> simp <;> omega
  · rw [unpack_wait, word]
    cases wait <;> simp <;> omega

theorem unpack_maxSize_lt (ptrs : UInt64) : (unpack ptrs).maxSize.toNat < 2 ^ 31 := by
  rw [unpack_maxSize_toNat]
  omega

theorem unpack_done_lt (ptrs : UInt64) : (unpack ptrs).done.toNat < 2 ^ 31 := by
  rw [unpack_done_toNat]
  omega

end DeepNps.Mux
