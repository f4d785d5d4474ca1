/-
Module: Ocreg.Tools.Support
Purpose: The numbers of the command line. The length test lets 20 digits through, of which not all fit 64 bits.
-/
import Ocreg.Core.Hash
import Ocreg.Lib.Decimal

namespace Ocreg

open Decimal

section

variable (text : Bytes)

/-- `parse_unsigned`: the flag `ok`, and the value. -/
def parseUnsigned : Bool × UInt64 :=
  if text.isEmpty ∨ text.length > 20 then (false, 0)
  else match accumulate (fun value digit => value * 10 + UInt64.ofNat digit) text 0 with
    | none => (false, 0)
    | some value => (true, value)

/-- The loop computes the value modulo `2 ^ 64`. -/
theorem foldl_digits_wrapped :
    text.foldl (fun value c => value * 10 + UInt64.ofNat (c.toNat - 48)) 0 = UInt64.ofNat (value text) := by
  refine List.foldl_hom UInt64.ofNat fun n c => ?_
  rw [UInt64.ofNat_add, UInt64.ofNat_mul]
  rfl

/-- What the flag is for: a decimal number of at most 20 digits. -/
def DigitText : Prop := text ≠ [] ∧ (∀ c ∈ text, Digit c) ∧ text.length ≤ 20

theorem parseUnsigned_eq [Decidable (DigitText text)] :
    parseUnsigned text = if DigitText text then (true, UInt64.ofNat (value text)) else (false, 0) := by
  rw [parseUnsigned]
  split
  next h =>
    rw [if_neg]
    rintro ⟨hne, -, hlength⟩
    rcases h with h | h
    · exact hne (List.isEmpty_iff.mp h)
    · omega
  next h =>
    obtain ⟨hne, hlength⟩ := not_or.mp h
    have htext : DigitText text ↔ ∀ c ∈ text, Digit c :=
      ⟨fun h => h.2.1, fun hdigits => ⟨fun hnil => hne (List.isEmpty_iff.mpr hnil), hdigits, not_lt.mp hlength⟩⟩
    rw [accumulate_eq, foldl_digits_wrapped]
    by_cases hdigits : ∀ c ∈ text, Digit c
    · rw [if_pos hdigits, if_pos (htext.mpr hdigits)]
    · rw [if_neg hdigits, if_neg (mt htext.mp hdigits)]

end

/-- A text is read as it should be, accepted with its value exactly when that is below `2 ^ 64`, unless it is a digit
    sequence of at most 20 characters whose value is not. -/
theorem parseUnsigned_correct_iff (text : Bytes) :
    (((parseUnsigned text).1 = true ↔ DigitText text ∧ value text < 2 ^ 64) ∧
      ((parseUnsigned text).1 = true → (parseUnsigned text).2.toNat = value text)) ↔
    (DigitText text → value text < 2 ^ 64) := by
  classical
  rw [parseUnsigned_eq]
  by_cases htext : DigitText text
  · rw [if_pos htext]
    simp only [htext, true_and, forall_const, true_iff, UInt64.toNat_ofNat']
    exact ⟨And.left, fun h => ⟨h, Nat.mod_eq_of_lt h⟩⟩
  · simp [htext]

/-- The first number that does not fit is accepted as zero. -/
theorem parseUnsigned_wraps :
    parseUnsigned (text "18446744073709551616") = (true, 0) ∧ value (text "18446744073709551616") = 2 ^ 64 := by
  decide +kernel

end Ocreg
