/-
Module: Ocreg.Proofs.Checksum
Purpose: The table-driven checksum is the bit-by-bit division by the reflected polynomial. It notices one changed byte,
  and any change within 32 consecutive bits.
-/
import Ocreg.Core.Hash
import Ocreg.Lib.Crc

namespace Ocreg

open List

variable {data : Bytes} (crc : UInt32)

/-! ### The table -/

theorem lowBit_eq : (crc &&& 1 ≠ 0) ↔ crc.toBitVec.getLsbD 0 = true := by
  rw [ne_eq, ← UInt32.toBitVec_inj, UInt32.toBitVec_and]
  have hone : (1 : UInt32).toBitVec = 1#32 := rfl
  have hzero : (0 : UInt32).toBitVec = 0#32 := rfl
  rw [hone, hzero, BitVec.and_one_eq_setWidth_ofBool_getLsbD]
  cases crc.toBitVec.getLsbD 0 <;> decide

/-- The bit loop of the table is a run of shift steps. -/
theorem crc32cBits_toBitVec (count : Nat) (crc : UInt32) :
    (crc32cBits count crc).toBitVec = Crc.steps 0x82F63B78#32 count crc.toBitVec := by
  induction count generalizing crc with
  | zero => rfl
  | succ count ih =>
    rw [crc32cBits, ih, Crc.steps]
    congr 1
    by_cases hbit : crc &&& 1 ≠ 0
    · rw [if_pos hbit, Crc.step, if_pos ((lowBit_eq crc).mp hbit)]
      rfl
    · rw [if_neg hbit, Crc.step, if_neg (fun h => hbit ((lowBit_eq crc).mpr h))]
      rfl

theorem kCrc32cTable_getD {index : UInt32} (h : index.toNat < 256) :
    kCrc32cTable.getD index.toNat 0 = crc32cBits 8 index := by
  simp [kCrc32cTable, Array.getD, h]

theorem byte_ushiftRight (byte : UInt8) : byte.toUInt32.toBitVec >>> 8 = 0#32 := by
  apply BitVec.eq_of_toNat_eq
  have hlt := byte.toNat_lt
  simp [BitVec.toNat_ushiftRight, Nat.shiftRight_eq_div_pow]
  omega

/-- The table-driven update is eight shift steps on the state with the byte mixed in. -/
theorem crc32cUpdateByte_toBitVec (byte : UInt8) : (crc32cUpdateByte crc byte).toBitVec =
      Crc.steps 0x82F63B78#32 8 (crc.toBitVec ^^^ byte.toUInt32.toBitVec) := by
  have hindex : ((crc ^^^ byte.toUInt32) &&& 0xFF).toNat < 256 := by
    rw [UInt32.toNat_and]
    exact Nat.lt_of_le_of_lt Nat.and_le_right (by decide)
  have hmask : ∀ i < 32, (0xFF#32).getLsbD i = decide (i < 8) := by decide
  -- the byte does not reach the bits above the table's index
  have hhigh : (crc.toBitVec ^^^ byte.toUInt32.toBitVec) >>> 8 = crc.toBitVec >>> 8 := by
    rw [BitVec.ushiftRight_xor_distrib, byte_ushiftRight, BitVec.xor_zero]
  rw [crc32cUpdateByte, kCrc32cTable_getD hindex, UInt32.toBitVec_xor, crc32cBits_toBitVec,
    Crc.steps_eq_table _ hmask (crc.toBitVec ^^^ byte.toUInt32.toBitVec), hhigh]
  rfl

theorem crc32cUpdateByte_injective_state (byte : UInt8) : Function.Injective (crc32cUpdateByte · byte) := by
  intro a b heq
  have hsteps := congrArg UInt32.toBitVec heq
  rw [crc32cUpdateByte_toBitVec, crc32cUpdateByte_toBitVec] at hsteps
  have hmixed := Crc.steps_injective (by decide) 8 hsteps
  exact UInt32.toBitVec_inj.mp ((BitVec.xor_left_inj _).mp hmixed)

theorem crc32cUpdateByte_injective_byte : Function.Injective (crc32cUpdateByte crc) := by
  intro a b heq
  have hsteps := congrArg UInt32.toBitVec heq
  rw [crc32cUpdateByte_toBitVec, crc32cUpdateByte_toBitVec] at hsteps
  have hmixed := Crc.steps_injective (by decide) 8 hsteps
  have hword := UInt32.toBitVec_inj.mp ((BitVec.xor_right_inj _).mp hmixed)
  exact UInt8.toNat.inj (by simpa using congrArg UInt32.toNat hword)

theorem crc32c_set_ne {offset : Nat} {byte : UInt8} (hoffset : offset < data.length)
    (hchanged : data[offset]? ≠ some byte) : crc32c (data.set offset byte) ≠ crc32c data := by
  intro heq
  have hfold := Crc.foldl_set_ne crc32cUpdateByte_injective_state crc32cUpdateByte_injective_byte hoffset hchanged
    0xFFFFFFFF
  exact hfold ((UInt32.xor_left_inj _).mp heq)

/-! ### The division -/

/-- The class `Crc32c` is its state. -/
def Crc32c.update (state : UInt32) (data : Bytes) : UInt32 := data.foldl crc32cUpdateByte state

def Crc32c.value (state : UInt32) : UInt32 := state ^^^ 0xFFFFFFFF

/-- The bits of a message in the order of the division, the low bit of a byte first. -/
def messageBits (data : Bytes) : List Bool := data.flatMap fun byte => (range 8).map byte.toNat.testBit

theorem update_eq_divide (data : Bytes) (crc : UInt32) :
    (data.foldl crc32cUpdateByte crc).toBitVec = (messageBits data).foldl (Crc.feed 0x82F63B78#32) crc.toBitVec := by
  induction data generalizing crc with
  | nil => rfl
  | cons byte data ih =>
    have hbyte := Crc.foldl_feed 0x82F63B78#32 crc.toBitVec byte.toUInt32.toBitVec 8
    rw [byte_ushiftRight, BitVec.xor_zero, ← crc32cUpdateByte_toBitVec] at hbyte
    have hbits : messageBits (byte :: data) = (range 8).map byte.toNat.testBit ++ messageBits data := rfl
    rw [foldl_cons, ih, ← hbyte, hbits, foldl_append]
    rfl

theorem length_messageBits (data : Bytes) : (messageBits data).length = 8 * data.length := by
  simp [messageBits, Nat.mul_comm]

theorem messageBits_injective : Function.Injective messageBits := by
  intro data
  induction data with
  | nil =>
    intro other h
    have hlength := congrArg length h
    rw [length_messageBits, length_messageBits, length_nil] at hlength
    exact (eq_nil_of_length_eq_zero (by omega)).symm
  | cons byte data ih =>
    intro other h
    cases other with
    | nil => simp [messageBits] at h
    | cons byte' other =>
      obtain ⟨hbits, hrest⟩ := append_inj h (by simp)
      have hbyte : byte.toNat = byte'.toNat := by
        apply Nat.eq_of_testBit_eq
        intro i
        by_cases hi : i < 8
        · exact map_inj_left.mp hbits i (mem_range.mpr hi)
        · have hpow : 2 ^ 8 ≤ 2 ^ i := Nat.pow_le_pow_right (by decide) (not_lt.mp hi)
          rw [Nat.testBit_lt_two_pow (byte.toNat_lt.trans_le hpow), Nat.testBit_lt_two_pow (byte'.toNat_lt.trans_le hpow)]
      rw [UInt8.toNat.inj hbyte, ih hrest]

/-- For every message: the checksum is the remainder of the division, the same for every way to split the message over
    the updates, and another one for a message of the same length that differs only within 32 consecutive bits. -/
theorem crc32c_divides (data : Bytes) :
    (crc32c data).toBitVec = (messageBits data).foldl (Crc.feed 0x82F63B78#32) 0xFFFFFFFF#32 ^^^ 0xFFFFFFFF#32 ∧
    (∀ chunks : List Bytes, chunks.flatten = data →
      Crc32c.value (chunks.foldl Crc32c.update 0xFFFFFFFF) = crc32c data) ∧
    ∀ (other : Bytes) (k : Nat), other.length = data.length → other ≠ data →
      (∀ i, i < k ∨ k + 32 ≤ i → (messageBits other)[i]? = (messageBits data)[i]?) → crc32c other ≠ crc32c data := by
  refine ⟨?_, ?_, ?_⟩
  · rw [crc32c, UInt32.toBitVec_xor, update_eq_divide]
    rfl
  · rintro chunks rfl
    rw [crc32c, foldl_flatten]
    rfl
  · intro other k hlength hne hwindow heq
    have hremainder := congrArg UInt32.toBitVec ((UInt32.xor_left_inj _).mp heq)
    rw [update_eq_divide, update_eq_divide] at hremainder
    refine hne (messageBits_injective (Crc.foldl_feed_window (by decide) ?_ hwindow hremainder))
    rw [length_messageBits, length_messageBits, hlength]

end Ocreg
