/-
Module: Ocreg.Core.UnitText
Purpose: Units as text. What is rendered is read back; a text that is read is the rendered one unless its exponent is
  padded with a zero.
-/
import Ocreg.Core.Identifiers
import Ocreg.Core.Units
import Ocreg.Lib.Decimal

namespace Ocreg

open List Decimal

def UnitCode.name : UnitCode → Bytes
  | .none => text "none"
  | .count => text "count"
  | .bit => text "bit"
  | .byte => text "byte"
  | .bitPerSecond => text "bit_per_second"
  | .bytePerSecond => text "byte_per_second"
  | .packetPerSecond => text "packet_per_second"
  | .operationPerSecond => text "operation_per_second"
  | .nanoSecond => text "nanosecond"
  | .microSecond => text "microsecond"
  | .milliSecond => text "millisecond"
  | .second => text "second"
  | .hertz => text "hertz"
  | .partsPerMillion => text "parts_per_million"
  | .percent => text "percent"

def UnitScale.name : UnitScale → Bytes
  | .unity => text "unity"
  | .decimal => text "dec"
  | .binary => text "bin"

def unitToString (unit : PhysicalUnit) : Bytes :=
  unit.code.name ++ if unit.scale ≠ .unity then
    46 :: (unit.scale.name ++ text (toString unit.exponent.toNat)) else []

def parseUnitCode (chars : Bytes) : Option UnitCode := UnitCode.all.find? (fun code => code.name == chars)

/-- The scale before the digits of an exponent. -/
def parseScaleName (chars : Bytes) : Option UnitScale :=
  if chars = text "dec" then some .decimal else if chars = text "bin" then some .binary else none

/-- What follows the dot. -/
def parseScale (rest : Bytes) : Option (UnitScale × UInt8) :=
  if rest.length < 4 then none
  else do
    let scale ← parseScaleName (rest.take 3)
    let digits := rest.drop 3
    if digits.isEmpty ∨ digits.length > 2 then none
    else
      let parsed ← accumulate (fun parsed digit => parsed * 10 + digit) digits 0
      if parsed > kMaxUnitExponent.toNat then none else some (scale, UInt8.ofNat parsed)

def parseUnit (chars : Bytes) : Option PhysicalUnit :=
  if chars.isEmpty ∨ chars.length > 48 then none
  else
    let dot := SemVer.findFrom chars 46 0
    do
      let code ← parseUnitCode (chars.take (dot.getD chars.length))
      let scaled ← dot.elim (some (.unity, 0)) fun dot => parseScale (chars.drop (dot + 1))
      let candidate : PhysicalUnit := ⟨code, scaled.1, scaled.2⟩
      if unitIsWellFormed candidate then some candidate else none

/-! ### What is read -/

variable {chars rest digits : Bytes} {unit : PhysicalUnit}

theorem parseScale_eq_some {scale : UnitScale} {exponent : UInt8} (h : parseScale rest = some (scale, exponent)) :
    ∃ digits, rest = scale.name ++ digits ∧ scale ≠ .unity ∧ digits ≠ [] ∧ (∀ c ∈ digits, Digit c) ∧
      value digits ≤ 6 ∧ exponent = UInt8.ofNat (value digits) := by
  rw [parseScale] at h
  split at h
  · cases h
  · obtain ⟨found, hscale, h⟩ := Option.bind_eq_some_iff.mp h
    dsimp only at h
    split at h
    · cases h
    · next hlength =>
      obtain ⟨parsed, hparsed, h⟩ := Option.bind_eq_some_iff.mp h
      split at h
      · cases h
      · next hbound =>
        cases h
        rw [accumulate_eq] at hparsed
        obtain ⟨hdigits, hvalue⟩ := Option.ite_none_right_eq_some.mp hparsed
        cases hvalue
        have hname : rest.take 3 = scale.name ∧ scale ≠ .unity := by
          rw [parseScaleName] at hscale
          split at hscale
          · next hdec =>
            cases hscale
            exact ⟨hdec, by simp⟩
          · obtain ⟨hbin, heq⟩ := Option.ite_none_right_eq_some.mp hscale
            cases heq
            exact ⟨hbin, by simp⟩
        refine ⟨rest.drop 3, by rw [← hname.1, take_append_drop], hname.2, ?_, hdigits, not_lt.mp hbound, rfl⟩
        exact fun hnil => hlength (.inl (isEmpty_iff.mpr hnil))

theorem name_no_dot (code : UnitCode) : 46 ∉ code.name := by
  cases code <;> decide +kernel

/-- A text that is read is a name, or a name, a dot, the scale and the digits of the exponent. -/
theorem parseUnit_eq_some (h : parseUnit chars = some unit) : chars = unit.code.name ∧ unit.scale = .unity ∨
    ∃ digits, chars = unit.code.name ++ 46 :: (unit.scale.name ++ digits) ∧ unit.scale ≠ .unity ∧ digits ≠ [] ∧
      (∀ c ∈ digits, Digit c) ∧ value digits ≤ 6 ∧ unit.exponent = UInt8.ofNat (value digits) := by
  rw [parseUnit] at h
  split at h
  · cases h
  · obtain ⟨code, hcode, h⟩ := Option.bind_eq_some_iff.mp h
    obtain ⟨⟨scale, exponent⟩, hscale, h⟩ := Option.bind_eq_some_iff.mp h
    obtain ⟨-, heq⟩ := Option.ite_none_right_eq_some.mp h
    cases heq
    have hname : code.name = chars.take ((SemVer.findFrom chars 46 0).getD chars.length) := by
      rw [parseUnitCode] at hcode
      simpa using find?_some hcode
    cases hdot : SemVer.findFrom chars 46 0 with
    | none =>
      rw [hdot] at hname hscale
      cases hscale
      exact .inl ⟨(hname.trans (take_length ..)).symm, rfl⟩
    | some dot =>
      rw [hdot] at hname hscale
      obtain ⟨hmem, hposition⟩ := Option.ite_none_right_eq_some.mp hdot
      obtain ⟨digits, hrest, hscaled⟩ := parseScale_eq_some hscale
      refine .inr ⟨digits, ?_, hscaled⟩
      rw [drop_zero, contains_iff_mem] at hmem
      rw [drop_zero, Nat.zero_add, Option.some_inj] at hposition
      subst hposition
      have hlt := idxOf_lt_length_of_mem hmem
      rw [← hrest, hname, Option.getD_some]
      conv_lhs => rw [← take_append_drop (chars.idxOf 46) chars, drop_eq_getElem_cons hlt, getElem_idxOf]

/-- The digits of the exponent of a text. -/
def exponentText (chars : Bytes) : Bytes := (chars.dropWhile (· ≠ 46)).drop 4

theorem exponentText_name (code : UnitCode) (rest : Bytes) : exponentText (code.name ++ rest) = exponentText rest := by
  rw [exponentText, dropWhile_append_of_pos, exponentText]
  exact fun c hc => decide_eq_true fun heq => name_no_dot code (heq ▸ hc)

theorem parseUnit_unitToString (unit : PhysicalUnit) (h : unitIsWellFormed unit = true) :
    parseUnit (unitToString unit) = some unit := by
  have hall : ∀ code ∈ UnitCode.all, ∀ scale ∈ [UnitScale.unity, .decimal, .binary], ∀ n < 7,
      unitIsWellFormed ⟨code, scale, UInt8.ofNat n⟩ = true →
        parseUnit (unitToString ⟨code, scale, UInt8.ofNat n⟩) = some ⟨code, scale, UInt8.ofNat n⟩ := by
    decide +kernel
  obtain ⟨code, scale, exponent⟩ := unit
  have hbound : exponent.toNat < 7 := by
    by_contra hlarge
    have hover : exponent > kMaxUnitExponent := UInt8.lt_iff_toNat_lt.mpr (not_lt.mp hlarge)
    simp [unitIsWellFormed, hover] at h
  have hfound := hall code (by cases code <;> decide) scale (by cases scale <;> decide) exponent.toNat hbound
  rw [UInt8.ofNat_toNat] at hfound
  exact hfound h

/-- A text that is read is the one rendered for its unit exactly when its exponent has no zero in front, and what is
    rendered for a well-formed unit is read back. -/
theorem parseUnit_canonical_iff (chars : Bytes) :
    ((∀ unit, parseUnit chars = some unit → unitToString unit = chars) ↔
      ((parseUnit chars).isSome = true → exponentText chars = [] ∨ Numeral (exponentText chars))) ∧
    ∀ unit, unitIsWellFormed unit = true → parseUnit (unitToString unit) = some unit := by
  refine ⟨?_, parseUnit_unitToString⟩
  cases hparse : parseUnit chars with
  | none => simp
  | some unit =>
    simp only [Option.some.injEq, forall_eq', Option.isSome_some, forall_const]
    rcases parseUnit_eq_some hparse with ⟨hchars, hscale⟩ | ⟨digits, hchars, hscale, hne, hdigits, hvalue, hexponent⟩
    · have hempty := exponentText_name unit.code []
      rw [append_nil] at hempty
      refine iff_of_true ?_ (.inl ?_)
      · rw [unitToString, if_neg (not_not.mpr hscale), append_nil, hchars]
      · rw [hchars, hempty]
        rfl
    · have hspelled : ∀ n ≤ 6, Numeral (text (toString n)) ∧ value (text (toString n)) = n := by
        intro n hn
        interval_cases n <;> exact ⟨numeral_iff.mpr (by decide +kernel), by decide +kernel⟩
      obtain ⟨hnumeral, hsame⟩ := hspelled _ hvalue
      have htext : exponentText chars = digits := by
        rw [hchars, exponentText_name]
        cases hname : unit.scale with
        | unity => exact absurd hname hscale
        | decimal | binary => rfl
      have hnat : unit.exponent.toNat = value digits := by
        rw [hexponent, UInt8.toNat_ofNat']
        omega
      rw [htext, unitToString, if_pos hscale, hnat, hchars, append_right_inj, cons_inj_right, append_right_inj]
      constructor
      · intro h
        exact .inr (h ▸ hnumeral)
      · intro h
        exact hnumeral.eq_of_value_eq (h.resolve_left hne) hsame

/-- Two texts for one unit. -/
theorem parseUnit_padded :
    parseUnit (text "byte.dec03") = some ⟨.byte, .decimal, 3⟩ ∧ parseUnit (text "byte.dec3") = some ⟨.byte, .decimal, 3⟩ ∧
      unitToString ⟨.byte, .decimal, 3⟩ ≠ text "byte.dec03" := by
  decide +kernel

end Ocreg
