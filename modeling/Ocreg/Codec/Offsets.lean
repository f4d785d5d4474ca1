/-
Module: Ocreg.Codec.Offsets
Purpose: Numbers and digests at fixed offsets of a header, as the store files and the wire frames read them.
-/
import Ocreg.Codec.Primitives

namespace Ocreg

open List

variable {first : Bytes} {offset : Nat} {width : Nat} {data : Bytes}

/-! ### Numbers at offsets -/

/-- Big-endian number of `width` bytes at an offset. -/
def getBE (width : Nat) (data : Bytes) (offset : Nat) : Nat := valueBE ((data.drop offset).take width)

def getU16 (data : Bytes) (offset : Nat) : UInt16 := UInt16.ofNat (getBE 2 data offset)

def getU32 (data : Bytes) (offset : Nat) : UInt32 := UInt32.ofNat (getBE 4 data offset)

def getU64 (data : Bytes) (offset : Nat) : UInt64 := UInt64.ofNat (getBE 8 data offset)

/-- The digest at an offset. Bytes past the end stay zero. -/
def getDigest (data : Bytes) (offset : Nat) : Digest256 :=
  ⟨(data.drop offset ++ List.replicate kDigestBytes 0).take kDigestBytes, by simp⟩

@[simp] theorem length_u16 (value : UInt16) : (Writer.u16 value).length = 2 := putBE_length _ _

@[simp] theorem length_u32 (value : UInt32) : (Writer.u32 value).length = 4 := putBE_length _ _

@[simp] theorem length_u64 (value : UInt64) : (Writer.u64 value).length = 8 := putBE_length _ _

@[simp] theorem length_digest (value : Digest256) : (Writer.digest value).length = 32 := value.size_eq

theorem drop_skip (rest : Bytes) (h : first.length ≤ offset) :
    (first ++ rest).drop offset = rest.drop (offset - first.length) := by
  rw [drop_append, drop_eq_nil_of_le h, nil_append]

section Offsets

variable (rest : Bytes) (h : first.length ≤ offset)
include h

theorem getU16_skip : getU16 (first ++ rest) offset = getU16 rest (offset - first.length) := by
  rw [getU16, getU16, getBE, getBE, drop_skip rest h]

theorem getU32_skip : getU32 (first ++ rest) offset = getU32 rest (offset - first.length) := by
  rw [getU32, getU32, getBE, getBE, drop_skip rest h]

theorem getU64_skip : getU64 (first ++ rest) offset = getU64 rest (offset - first.length) := by
  rw [getU64, getU64, getBE, getBE, drop_skip rest h]

theorem getDigest_skip : getDigest (first ++ rest) offset = getDigest rest (offset - first.length) := by
  apply Digest256.bytes_injective
  simp only [getDigest, drop_skip rest h]

end Offsets

/-! What stands in the first part is read there, whatever follows it. -/

section

variable (rest : Bytes)

theorem getBE_within (h : offset + width ≤ first.length) :
    getBE width (first ++ rest) offset = getBE width first offset := by
  rw [getBE, getBE, drop_append_of_le_length (by omega), take_append_of_le_length (by rw [length_drop]; omega)]

theorem getU16_within (h : offset + 2 ≤ first.length) : getU16 (first ++ rest) offset = getU16 first offset := by
  rw [getU16, getU16, getBE_within rest h]

theorem getU32_within (h : offset + 4 ≤ first.length) : getU32 (first ++ rest) offset = getU32 first offset := by
  rw [getU32, getU32, getBE_within rest h]

theorem getU64_within (h : offset + 8 ≤ first.length) : getU64 (first ++ rest) offset = getU64 first offset := by
  rw [getU64, getU64, getBE_within rest h]

theorem getDigest_within (h : offset + kDigestBytes ≤ first.length) :
    getDigest (first ++ rest) offset = getDigest first offset := by
  have hlength : kDigestBytes ≤ (first.drop offset).length := by
    rw [length_drop]
    omega
  apply Digest256.bytes_injective
  simp only [getDigest, drop_append_of_le_length (show offset ≤ first.length by omega), append_assoc,
    take_append_of_le_length hlength]

end

theorem getBE_put (width value : Nat) (rest : Bytes) (h : value < 256 ^ width) :
    getBE width (putBE width value ++ rest) 0 = value := by
  rw [getBE, drop_zero, take_left' (putBE_length width value), valueBE_putBE, Nat.mod_eq_of_lt h]

@[simp] theorem getU16_put (value : UInt16) (rest : Bytes) : getU16 (Writer.u16 value ++ rest) 0 = value := by
  rw [getU16, Writer.u16, getBE_put _ _ _ value.toNat_lt, UInt16.ofNat_toNat]

@[simp] theorem getU32_put (value : UInt32) (rest : Bytes) : getU32 (Writer.u32 value ++ rest) 0 = value := by
  rw [getU32, Writer.u32, getBE_put _ _ _ value.toNat_lt, UInt32.ofNat_toNat]

@[simp] theorem getU64_put (value : UInt64) (rest : Bytes) : getU64 (Writer.u64 value ++ rest) 0 = value := by
  rw [getU64, Writer.u64, getBE_put _ _ _ value.toNat_lt, UInt64.ofNat_toNat]

@[simp] theorem getDigest_put (value : Digest256) (rest : Bytes) :
    getDigest (Writer.digest value ++ rest) 0 = value := by
  apply Digest256.bytes_injective
  simp only [getDigest, drop_zero, Writer.digest, append_assoc, take_left' value.size_eq]

/-! What is read at an offset is written back as the bytes that stand there. -/

theorem putBE_getBE (h : offset + width ≤ data.length) :
    putBE width (getBE width data offset % 256 ^ width) = (data.drop offset).take width := by
  have hlength : ((data.drop offset).take width).length = width := by
    rw [length_take, length_drop]
    omega
  have hput := putBE_valueBE ((data.drop offset).take width)
  have hlt := valueBE_lt ((data.drop offset).take width)
  rw [hlength] at hput hlt
  rw [getBE, Nat.mod_eq_of_lt hlt, hput]

section Readback

theorem u16_get (h : offset + 2 ≤ data.length) : Writer.u16 (getU16 data offset) = (data.drop offset).take 2 := by
  rw [Writer.u16, getU16, UInt16.toNat_ofNat']
  exact putBE_getBE h

theorem u32_get (h : offset + 4 ≤ data.length) : Writer.u32 (getU32 data offset) = (data.drop offset).take 4 := by
  rw [Writer.u32, getU32, UInt32.toNat_ofNat']
  exact putBE_getBE h

theorem u64_get (h : offset + 8 ≤ data.length) : Writer.u64 (getU64 data offset) = (data.drop offset).take 8 := by
  rw [Writer.u64, getU64, UInt64.toNat_ofNat']
  exact putBE_getBE h

theorem digest_get (h : offset + 32 ≤ data.length) :
    Writer.digest (getDigest data offset) = (data.drop offset).take 32 :=
  take_append_of_le_length (by rw [length_drop, kDigestBytes]; omega)

end Readback

end Ocreg
