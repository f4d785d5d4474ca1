/-
Module: Ocreg.Proofs.Unicode
Purpose: `valid_utf8` accepts exactly the concatenated encodings of Unicode scalar values, and `append_utf8` appends
  the encoding of one.
-/
import Ocreg.Json.Parser
import Ocreg.Lib.Utf8

namespace Ocreg

open Utf8 (Sequence Trailing)
open List

variable {a c : UInt8} (codePoint : UInt32) (b : UInt8) (shift : UInt32)

/-! ### Masks -/

theorem isTrailingByte_iff : isTrailingByte b = true ↔ Trailing b := by
  have hall : ∀ n : Fin 256, isTrailingByte (UInt8.ofNat n) = true ↔ 128 ≤ n.val ∧ n.val < 192 := by decide +kernel
  have hb := hall ⟨b.toNat, b.toNat_lt⟩
  rwa [UInt8.ofNat_toNat] at hb

/-- The masks that tell the leading bytes apart. -/
theorem leading_masks :
    (b &&& 0xE0 = 0xC0 ↔ 192 ≤ b.toNat ∧ b.toNat < 224) ∧ (b &&& 0xF0 = 0xE0 ↔ 224 ≤ b.toNat ∧ b.toNat < 240) ∧
      (b &&& 0xF8 = 0xF0 ↔ 240 ≤ b.toNat ∧ b.toNat < 248) := by
  have hall : ∀ n : Fin 256, (UInt8.ofNat n &&& 0xE0 = 0xC0 ↔ 192 ≤ n.val ∧ n.val < 224) ∧
      (UInt8.ofNat n &&& 0xF0 = 0xE0 ↔ 224 ≤ n.val ∧ n.val < 240) ∧
      (UInt8.ofNat n &&& 0xF8 = 0xF0 ↔ 240 ≤ n.val ∧ n.val < 248) := by decide +kernel
  have hb := hall ⟨b.toNat, b.toNat_lt⟩
  rwa [UInt8.ofNat_toNat] at hb

/-- The low bits of a leading byte. -/
theorem toNat_leading : (b &&& 0x1F).toUInt32.toNat = b.toNat % 32 ∧ (b &&& 0x0F).toUInt32.toNat = b.toNat % 16 ∧
      (b &&& 0x07).toUInt32.toNat = b.toNat % 8 := by
  simp only [UInt8.toNat_toUInt32, UInt8.toNat_and]
  exact ⟨Nat.and_two_pow_sub_one_eq_mod _ 5, Nat.and_two_pow_sub_one_eq_mod _ 4, Nat.and_two_pow_sub_one_eq_mod _ 3⟩

theorem toNat_extendCodePoint (h : codePoint.toNat < 2 ^ 26) :
    (extendCodePoint codePoint b).toNat = codePoint.toNat * 64 + b.toNat % 64 := by
  have hlow : (b &&& 0x3F).toUInt32.toNat = b.toNat % 64 := by
    simp only [UInt8.toNat_toUInt32, UInt8.toNat_and]
    exact Nat.and_two_pow_sub_one_eq_mod _ 6
  have hshift : (codePoint <<< 6).toNat = codePoint.toNat <<< 6 := by
    rw [UInt32.toNat_shiftLeft]
    exact Nat.mod_eq_of_lt (by rw [Nat.shiftLeft_eq]; simp; omega)
  rw [extendCodePoint, UInt32.toNat_or, hshift, hlow, ← Nat.shiftLeft_add_eq_or_of_lt (by omega), Nat.shiftLeft_eq]

theorem codePointAllowed_iff (extra : Nat) (codePoint : UInt32) :
    codePointAllowed extra codePoint = true ↔ (extra = 2 → 2048 ≤ codePoint.toNat) ∧
      (extra = 3 → 65536 ≤ codePoint.toNat) ∧ codePoint.toNat ≤ 1114111 ∧
      (codePoint.toNat < 55296 ∨ 57343 < codePoint.toNat) := by
  simp [codePointAllowed, UInt32.le_iff_toNat_le, UInt32.lt_iff_toNat_lt]
  omega

/-! ### Validation -/

theorem not_ascii (ha : 128 ≤ a.toNat) : ¬ a < 0x80 := by
  rw [UInt8.lt_iff_toNat_lt]
  exact Nat.not_lt.mpr ha

theorem overlong_iff (ha : 192 ≤ a.toNat) (hlead : a.toNat < 224) : a &&& 0x1F < 0x02 ↔ a.toNat < 194 := by
  have hbits := (toNat_leading a).1
  rw [UInt8.lt_iff_toNat_lt, ← UInt8.toNat_toUInt32, hbits, show (0x02 : UInt8).toNat = 2 from rfl]
  omega

/-- The code points the three kinds of longer sequences spell. -/
theorem toNat_codePoint_two {b : UInt8} (ha : 192 ≤ a.toNat) (hlead : a.toNat < 224) (hb : Trailing b) :
    (extendCodePoint (a &&& 0x1F).toUInt32 b).toNat = (a.toNat - 192) * 64 + (b.toNat - 128) := by
  have hbits := (toNat_leading a).1
  simp only [Trailing] at hb
  rw [toNat_extendCodePoint _ b (by omega), hbits]
  omega

theorem toNat_codePoint_three {b : UInt8} (ha : 224 ≤ a.toNat) (hlead : a.toNat < 240) (hb : Trailing b)
    (hc : Trailing c) : (extendCodePoint (extendCodePoint (a &&& 0x0F).toUInt32 b) c).toNat
      = ((a.toNat - 224) * 64 + (b.toNat - 128)) * 64 + (c.toNat - 128) := by
  have hbits := (toNat_leading a).2.1
  have hextend := toNat_extendCodePoint (a &&& 0x0F).toUInt32 b (by omega)
  simp only [Trailing] at hb hc
  rw [toNat_extendCodePoint _ c (by omega), hextend, hbits]
  omega

theorem toNat_codePoint_four {b d : UInt8} (ha : 240 ≤ a.toNat) (hlead : a.toNat < 248) (hb : Trailing b)
    (hc : Trailing c) (hd : Trailing d) :
    (extendCodePoint (extendCodePoint (extendCodePoint (a &&& 0x07).toUInt32 b) c) d).toNat
      = (((a.toNat - 240) * 64 + (b.toNat - 128)) * 64 + (c.toNat - 128)) * 64 + (d.toNat - 128) := by
  have hbits := (toNat_leading a).2.2
  have hextend := toNat_extendCodePoint (a &&& 0x07).toUInt32 b (by omega)
  have hextend' := toNat_extendCodePoint (extendCodePoint (a &&& 0x07).toUInt32 b) c (by omega)
  simp only [Trailing] at hb hc hd
  rw [toNat_extendCodePoint _ d (by omega), hextend', hextend, hbits]
  omega

/-- The sequence of a character is passed over. -/
theorem validUtf8_append {front : Bytes} {v : Nat} (h : Sequence front v) (rest : Bytes) :
    validUtf8 (front ++ rest) = validUtf8 rest := by
  have hvalid := h.isValidChar
  simp only [Nat.isValidChar] at hvalid
  rw [validUtf8.eq_def]
  cases h with
  | @one a v hv ha => exact if_pos (UInt8.lt_iff_toNat_lt.mpr (hv ▸ ha))
  | @two a b v hv ha hlead hb =>
    have hcode := toNat_codePoint_two (by omega) hlead hb
    have hallowed := (codePointAllowed_iff 1 (extendCodePoint (a &&& 0x1F).toUInt32 b)).mpr (by omega)
    simp only [cons_append, nil_append, if_neg (not_ascii (a := a) (by omega)),
      if_pos ((leading_masks a).1.mpr ⟨by omega, hlead⟩),
      if_neg (mt (overlong_iff (a := a) (by omega) hlead).mp (by omega)), (isTrailingByte_iff b).mpr hb, hallowed,
      Bool.true_and]
  | @three a b c v hv ha hlead hb hc hlong hscalar =>
    have hcode := toNat_codePoint_three ha hlead hb hc
    have hallowed := (codePointAllowed_iff 2
      (extendCodePoint (extendCodePoint (a &&& 0x0F).toUInt32 b) c)).mpr (by omega)
    simp only [cons_append, nil_append, if_neg (not_ascii (a := a) (by omega)),
      if_neg (mt (leading_masks a).1.mp (by omega)), if_pos ((leading_masks a).2.1.mpr ⟨ha, hlead⟩),
      (isTrailingByte_iff b).mpr hb, (isTrailingByte_iff c).mpr hc, hallowed, Bool.true_and]
  | @four a b c d v hv ha hb hc hd hlong hmax =>
    have hlead : a.toNat < 248 := by
      simp only [Trailing] at hb hc hd
      omega
    have hcode := toNat_codePoint_four ha hlead hb hc hd
    have hallowed := (codePointAllowed_iff 3
      (extendCodePoint (extendCodePoint (extendCodePoint (a &&& 0x07).toUInt32 b) c) d)).mpr (by omega)
    simp only [cons_append, nil_append, if_neg (not_ascii (a := a) (by omega)),
      if_neg (mt (leading_masks a).1.mp (by omega)), if_neg (mt (leading_masks a).2.1.mp (by omega)),
      if_pos ((leading_masks a).2.2.mpr ⟨ha, hlead⟩), (isTrailingByte_iff b).mpr hb, (isTrailingByte_iff c).mpr hc,
      (isTrailingByte_iff d).mpr hd, hallowed, Bool.true_and]

/-- An accepted text starts with the sequence of a character. -/
theorem sequence_of_validUtf8 {rest : Bytes} (h : validUtf8 (a :: rest) = true) :
    ∃ front v rest', Sequence front v ∧ a :: rest = front ++ rest' ∧ validUtf8 rest' = true := by
  rw [validUtf8.eq_def] at h
  dsimp only at h
  split at h
  next hascii => exact ⟨[a], _, rest, .one rfl (UInt8.lt_iff_toNat_lt.mp hascii), rfl, h⟩
  split at h
  next hmask =>
    obtain ⟨ha, hlead⟩ := (leading_masks a).1.mp hmask
    split at h
    · cases h
    next hlong =>
      rw [overlong_iff ha hlead] at hlong
      split at h
      next b rest' =>
        simp only [Bool.and_eq_true, isTrailingByte_iff] at h
        exact ⟨[a, b], _, rest', .two rfl (by omega) hlead h.1.1, rfl, h.2⟩
      · cases h
  split at h
  next hmask =>
    obtain ⟨ha, hlead⟩ := (leading_masks a).2.1.mp hmask
    split at h
    next b c rest' =>
      simp only [Bool.and_eq_true, isTrailingByte_iff, codePointAllowed_iff] at h
      obtain ⟨⟨⟨hb, hc⟩, hlong, -, -, hscalar⟩, hrest⟩ := h
      have hcode := toNat_codePoint_three ha hlead hb hc
      exact ⟨[a, b, c], _, rest', .three hcode ha hlead hb hc (hlong trivial) hscalar, rfl, hrest⟩
    · cases h
  split at h
  next hmask =>
    obtain ⟨ha, hlead⟩ := (leading_masks a).2.2.mp hmask
    split at h
    next b c d rest' =>
      simp only [Bool.and_eq_true, isTrailingByte_iff, codePointAllowed_iff] at h
      obtain ⟨⟨⟨⟨hb, hc⟩, hd⟩, -, hlong, hmax, -⟩, hrest⟩ := h
      have hcode := toNat_codePoint_four ha hlead hb hc hd
      exact ⟨[a, b, c, d], _, rest', .four hcode ha hb hc hd (hlong trivial) hmax, rfl, hrest⟩
    · cases h
  · cases h

/-- `valid_utf8` accepts the UTF-8 texts. -/
theorem validUtf8_iff (bytes : Bytes) : validUtf8 bytes = true ↔ Utf8.Valid bytes := by
  constructor
  · intro h
    induction hn : bytes.length using Nat.strong_induction_on generalizing bytes with
    | _ n ih =>
      cases bytes with
      | nil => exact .nil
      | cons a rest =>
        obtain ⟨front, v, rest', hseq, hsplit, hrest⟩ := sequence_of_validUtf8 h
        have hshorter : rest'.length < n := by
          rw [← hn, hsplit, length_append]
          cases hseq <;> simp
        rw [hsplit]
        exact hseq.valid.append (ih _ hshorter rest' hrest rfl)
  · rintro ⟨chars, rfl⟩
    induction chars with
    | nil => rfl
    | cons c chars ih =>
      rw [flatMap_cons, validUtf8_append (Utf8.sequence_iff.mpr ⟨c, rfl, rfl⟩), ih]

/-! ### Appending -/

/-- A mark above the low bits of a byte. -/
theorem marked_eq (mark x : UInt32) (k i : Nat) (hmark : mark.toNat = k <<< i) (hx : x.toNat < 2 ^ i)
    (hbyte : k <<< i + x.toNat < 256) : (mark ||| x).toUInt8 = UInt8.ofNat (x.toNat + k <<< i) := by
  refine (Utf8.ofNat_eq ?_).symm
  rw [UInt32.toNat_toUInt8, UInt32.toNat_or, hmark, ← Nat.shiftLeft_add_eq_or_of_lt hx, Nat.add_comm x.toNat]
  exact Nat.mod_eq_of_lt hbyte

theorem toNat_shifted (hshift : shift.toNat < 32) :
    (codePoint >>> shift).toNat = codePoint.toNat / 2 ^ shift.toNat := by
  rw [UInt32.toNat_shiftRight, Nat.mod_eq_of_lt hshift, Nat.shiftRight_eq_div_pow]

theorem trailing_eq (hshift : shift.toNat < 32) : ((0x80 : UInt32) ||| ((codePoint >>> shift) &&& 0x3F)).toUInt8
      = UInt8.ofNat (codePoint.toNat / 2 ^ shift.toNat % 64 + 128) := by
  have hlow : ((codePoint >>> shift) &&& 0x3F).toNat = codePoint.toNat / 2 ^ shift.toNat % 64 := by
    rw [UInt32.toNat_and, toNat_shifted _ _ hshift]
    exact Nat.and_two_pow_sub_one_eq_mod _ 6
  rw [marked_eq _ _ 2 6 rfl (by omega) (by omega), hlow]
  rfl

/-- `append_utf8` appends the encoding of a scalar value. -/
theorem appendUtf8_eq (out : Bytes) {codePoint : UInt32} (h : codePoint.toNat.isValidChar) :
    appendUtf8 out codePoint = out ++ String.utf8EncodeChar (Char.ofNatAux codePoint.toNat h) := by
  have hval : (Char.ofNatAux codePoint.toNat h).val.toNat = codePoint.toNat := rfl
  have hvalid := h
  simp only [Nat.isValidChar] at hvalid
  have h6 := toNat_shifted codePoint 6 (by decide)
  have h12 := toNat_shifted codePoint 12 (by decide)
  have h18 := toNat_shifted codePoint 18 (by decide)
  simp only [UInt32.reduceToNat, Nat.reducePow] at h6 h12 h18
  simp only [appendUtf8, String.utf8EncodeChar, hval, UInt32.lt_iff_toNat_lt, trailing_eq _ 0 (by decide),
    trailing_eq _ 6 (by decide), trailing_eq _ 12 (by decide), UInt32.reduceToNat, Nat.reducePow, Nat.div_one]
  split
  next hone =>
    rw [if_pos (by omega)]
    rfl
  split
  next htwo =>
    rw [if_neg (by omega), if_pos (by omega), marked_eq _ _ 6 5 rfl (by omega) (by omega), h6,
      Nat.mod_eq_of_lt (b := 32) (by omega)]
    rfl
  split
  next hthree =>
    rw [if_neg (by omega), if_neg (by omega), if_pos (by omega), marked_eq _ _ 14 4 rfl (by omega) (by omega), h12,
      Nat.mod_eq_of_lt (b := 16) (by omega)]
    rfl
  · rw [if_neg (by omega), if_neg (by omega), if_neg (by omega), marked_eq _ _ 30 3 rfl (by omega) (by omega), h18,
      Nat.mod_eq_of_lt (b := 8) (by omega)]
    rfl

/-- A Unicode scalar value: U+0000 to U+10FFFF without the surrogates. -/
def IsScalar (codePoint : UInt32) : Prop :=
  codePoint.toNat ≤ 0x10FFFF ∧ ¬ (0xD800 ≤ codePoint.toNat ∧ codePoint.toNat ≤ 0xDFFF)

theorem isValidChar_iff : codePoint.toNat.isValidChar ↔ IsScalar codePoint := by
  simp only [Nat.isValidChar, IsScalar]
  omega

theorem foldl_appendUtf8 (chars : List Char) (out : Bytes) :
    (chars.map Char.val).foldl appendUtf8 out = out ++ chars.flatMap String.utf8EncodeChar := by
  induction chars generalizing out with
  | nil => simp
  | cons c chars ih =>
    rw [map_cons, foldl_cons, appendUtf8_eq out c.valid, ih, flatMap_cons, append_assoc]
    rfl

/-- `valid_utf8` accepts exactly what `append_utf8` makes of scalar values. -/
theorem validUtf8_iff_appended (bytes : Bytes) :
    validUtf8 bytes = true ↔ ∃ scalars : List UInt32, (∀ codePoint ∈ scalars, IsScalar codePoint) ∧
      scalars.foldl appendUtf8 [] = bytes := by
  rw [validUtf8_iff]
  constructor
  · rintro ⟨chars, rfl⟩
    refine ⟨chars.map Char.val, ?_, foldl_appendUtf8 chars []⟩
    intro codePoint hmem
    obtain ⟨c, -, rfl⟩ := mem_map.mp hmem
    exact (isValidChar_iff _).mp c.valid
  · rintro ⟨scalars, hscalars, rfl⟩
    have hvalid : ∀ codePoint ∈ scalars, codePoint.toNat.isValidChar :=
      fun codePoint hmem => (isValidChar_iff _).mpr (hscalars codePoint hmem)
    refine ⟨scalars.pmap (fun codePoint h => Char.ofNatAux codePoint.toNat h) hvalid, ?_⟩
    have hchars : (scalars.pmap (fun codePoint h => Char.ofNatAux codePoint.toNat h) hvalid).map Char.val = scalars := by
      rw [map_pmap]
      exact (pmap_eq_map (f := id) hvalid).trans (map_id _)
    rw [← nil_append (List.flatMap _ _), ← foldl_appendUtf8, hchars]

end Ocreg
