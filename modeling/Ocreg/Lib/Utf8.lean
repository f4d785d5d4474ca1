/-
Module: Ocreg.Lib.Utf8
Purpose: UTF-8 as concatenated encodings of Unicode scalar values, and the byte sequences that encode one character.
-/
import Mathlib.Tactic.Common
import Mathlib.Data.Nat.Notation

namespace Utf8

variable {bytes : List UInt8} {v : Nat}

/-- A concatenation of encoded characters. -/
def Valid (bytes : List UInt8) : Prop := ∃ chars : List Char, chars.flatMap String.utf8EncodeChar = bytes

/-- A byte that continues a sequence. -/
def Trailing (b : UInt8) : Prop := 128 ≤ b.toNat ∧ b.toNat < 192

/-- The bytes of a code point: in the shortest form, no surrogate, nothing above U+10FFFF. -/
inductive Sequence : List UInt8 → Nat → Prop
  | one {a : UInt8} {v : Nat} (hv : v = a.toNat) (ha : v < 128) : Sequence [a] v
  | two {a b : UInt8} {v : Nat} (hv : v = (a.toNat - 192) * 64 + (b.toNat - 128)) (ha : 194 ≤ a.toNat)
      (hlead : a.toNat < 224) (hb : Trailing b) : Sequence [a, b] v
  | three {a b c : UInt8} {v : Nat} (hv : v = ((a.toNat - 224) * 64 + (b.toNat - 128)) * 64 + (c.toNat - 128))
      (ha : 224 ≤ a.toNat) (hlead : a.toNat < 240) (hb : Trailing b) (hc : Trailing c) (hlong : 2048 ≤ v)
      (hscalar : v < 55296 ∨ 57343 < v) : Sequence [a, b, c] v
  | four {a b c d : UInt8} {v : Nat}
      (hv : v = (((a.toNat - 240) * 64 + (b.toNat - 128)) * 64 + (c.toNat - 128)) * 64 + (d.toNat - 128))
      (ha : 240 ≤ a.toNat) (hb : Trailing b) (hc : Trailing c) (hd : Trailing d) (hlong : 65536 ≤ v)
      (hmax : v ≤ 1114111) : Sequence [a, b, c, d] v

theorem Sequence.isValidChar (h : Sequence bytes v) : v.isValidChar := by
  cases h <;> simp only [Trailing, Nat.isValidChar] at * <;> omega

theorem ofNat_eq {b : UInt8} {n : Nat} (h : b.toNat = n) : UInt8.ofNat n = b := by
  rw [← h, UInt8.ofNat_toNat]

/-- The sequences of code points are the encodings of characters. -/
theorem sequence_iff : Sequence bytes v ↔ ∃ c : Char, c.toNat = v ∧ String.utf8EncodeChar c = bytes := by
  constructor
  · intro h
    have hval : (Char.ofNatAux v h.isValidChar).val.toNat = v := rfl
    refine ⟨Char.ofNatAux v h.isValidChar, hval, ?_⟩
    rw [String.utf8EncodeChar, hval]
    cases h with
    | one hv ha =>
      rw [if_pos (by omega), ofNat_eq hv.symm]
    | two hv ha hlead hb =>
      simp only [Trailing] at hb
      rw [if_neg (by omega), if_pos (by omega)]
      simp only [List.cons.injEq, and_true]
      exact ⟨ofNat_eq (by omega), ofNat_eq (by omega)⟩
    | three hv ha hlead hb hc hlong hscalar =>
      simp only [Trailing] at hb hc
      rw [if_neg (by omega), if_neg (by omega), if_pos (by omega)]
      simp only [List.cons.injEq, and_true]
      exact ⟨ofNat_eq (by omega), ofNat_eq (by omega), ofNat_eq (by omega)⟩
    | four hv ha hb hc hd hlong hmax =>
      simp only [Trailing] at hb hc hd
      rw [if_neg (by omega), if_neg (by omega), if_neg (by omega)]
      simp only [List.cons.injEq, and_true]
      exact ⟨ofNat_eq (by omega), ofNat_eq (by omega), ofNat_eq (by omega), ofNat_eq (by omega)⟩
  · rintro ⟨c, rfl, rfl⟩
    have hvalid : c.val.toNat < 55296 ∨ 57343 < c.val.toNat ∧ c.val.toNat < 1114112 := c.valid
    rw [String.utf8EncodeChar, show c.toNat = c.val.toNat from rfl]
    generalize c.val.toNat = v at hvalid
    split
    · exact .one (by simp; omega) (by omega)
    · split
      · apply Sequence.two <;> (try simp only [Trailing, UInt8.toNat_ofNat']) <;> omega
      · split
        · apply Sequence.three <;> (try simp only [Trailing, UInt8.toNat_ofNat']) <;> omega
        · apply Sequence.four <;> (try simp only [Trailing, UInt8.toNat_ofNat']) <;> omega

theorem Sequence.valid (h : Sequence bytes v) : Valid bytes := by
  obtain ⟨c, -, rfl⟩ := sequence_iff.mp h
  exact ⟨[c], by simp⟩

/-! ### Texts -/

theorem Valid.nil : Valid [] := ⟨[], rfl⟩

theorem Valid.append {a b : List UInt8} (ha : Valid a) (hb : Valid b) : Valid (a ++ b) := by
  obtain ⟨xs, rfl⟩ := ha
  obtain ⟨ys, rfl⟩ := hb
  exact ⟨xs ++ ys, List.flatMap_append⟩

end Utf8
