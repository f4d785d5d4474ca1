/-
Module: Ocreg.Proofs.Conversions
Purpose: Exact conversion computes the integer quotient of the scaled value, without wrapping; exact comparison is
  the order of the scaled values; the helpers on 128 bits compute what they stand for.
-/
import Ocreg.Core.Units
import Ocreg.Lib.LongDivision

namespace Ocreg

open LongDivision

variable {unit : PhysicalUnit} {bit f : Nat} {result remainder : UInt64} (a b word : UInt64) {divisor : UInt64}

/-! ### Factors -/

/-- What one step of a scale multiplies by. -/
def scaleBase : UnitScale → Nat
  | .unity => 1
  | .decimal => 10
  | .binary => 1024

/-- Factor of a unit over the integers. -/
def factor (unit : PhysicalUnit) : Nat :=
  unit.code.info.baseFactor.toNat * scaleBase unit.scale ^ unit.exponent.toNat

theorem checkedMul_of_lt {a b : UInt64} (h : a.toNat * b.toNat < 2 ^ 64) :
    ∃ c, checkedMul a b = some c ∧ c.toNat = a.toNat * b.toNat := by
  refine ⟨a * b, if_pos h, ?_⟩
  rw [UInt64.toNat_mul, Nat.mod_eq_of_lt h]

theorem scaleMultiplierLoop_eq (base result : UInt64) (count : Nat) (hbase : 0 < base.toNat)
    (h : result.toNat * base.toNat ^ count < 2 ^ 64) :
    ∃ c, scaleMultiplierLoop base count result = some c ∧ c.toNat = result.toNat * base.toNat ^ count := by
  induction count generalizing result with
  | zero => exact ⟨result, rfl, by simp⟩
  | succ count ih =>
    have hstep : result.toNat * base.toNat * base.toNat ^ count = result.toNat * base.toNat ^ (count + 1) := by
      rw [Nat.pow_succ, Nat.mul_assoc, Nat.mul_comm base.toNat]
    have hlt : result.toNat * base.toNat < 2 ^ 64 := by
      have hpow : 0 < base.toNat ^ count := Nat.pow_pos hbase
      exact Nat.lt_of_le_of_lt (Nat.le_mul_of_pos_right _ hpow) (hstep ▸ h)
    obtain ⟨next, hnext, hvalue⟩ := checkedMul_of_lt hlt
    rw [scaleMultiplierLoop, hnext, Option.bind_some]
    rw [← hvalue] at hstep
    rw [← hstep] at h ⊢
    exact ih _ h

section

variable (h : unitIsWellFormed unit = true)
include h

theorem exponent_le_of_wellFormed : unit.exponent.toNat ≤ 6 := by
  rw [unitIsWellFormed] at h
  split at h
  · cases h
  · rename_i hle
    exact UInt8.le_iff_toNat_le.mp (UInt8.not_lt.mp hle)

/-- The scale of a well-formed unit multiplies by at most `1024 ^ 6`. -/
theorem scaleMultiplier_eq : ∃ c, scaleMultiplier unit.scale unit.exponent = some c ∧
      c.toNat = scaleBase unit.scale ^ unit.exponent.toNat := by
  have hexponent := exponent_le_of_wellFormed h
  obtain ⟨code, scale, exponent⟩ := unit
  cases scale with
  | unity =>
    have hzero : exponent = 0 := by
      simp only [unitIsWellFormed] at h
      split at h
      · cases h
      · simpa using h
    subst hzero
    exact ⟨1, rfl, rfl⟩
  | decimal =>
    have hbound : 10 ^ exponent.toNat ≤ 10 ^ 6 := Nat.pow_le_pow_right (by decide) hexponent
    obtain ⟨c, hc, hvalue⟩ := scaleMultiplierLoop_eq 10 1 exponent.toNat (by decide)
      (by simp only [UInt64.reduceToNat]; omega)
    exact ⟨c, hc, by rw [hvalue]; simp [scaleBase]⟩
  | binary =>
    have hbound : 1024 ^ exponent.toNat ≤ 1024 ^ 6 := Nat.pow_le_pow_right (by decide) hexponent
    obtain ⟨c, hc, hvalue⟩ := scaleMultiplierLoop_eq 1024 1 exponent.toNat (by decide)
      (by simp only [UInt64.reduceToNat]; omega)
    exact ⟨c, hc, by rw [hvalue]; simp [scaleBase]⟩

/-- The largest factor is that of `8 * 1024 ^ 6` bits, which is `2 ^ 63`. -/
theorem factor_le : factor unit ≤ 2 ^ 63 := by
  have hexponent := exponent_le_of_wellFormed h
  obtain ⟨code, scale, exponent⟩ := unit
  simp only [factor] at hexponent ⊢
  cases scale with
  | unity =>
    rw [scaleBase, Nat.one_pow]
    cases code <;> decide
  | decimal =>
    have hbound : 10 ^ exponent.toNat ≤ 10 ^ 6 := Nat.pow_le_pow_right (by decide) hexponent
    cases code <;> simp [UnitCode.info, scaleBase] <;> omega
  | binary =>
    have hbound : 1024 ^ exponent.toNat ≤ 1024 ^ 6 := Nat.pow_le_pow_right (by decide) hexponent
    have hscale : code.info.binaryScale = true := by
      simp only [unitIsWellFormed] at h
      split at h
      · cases h
      · exact h
    cases code <;> simp [UnitCode.info, scaleBase] at hscale ⊢ <;> omega

end

theorem factor_pos (unit : PhysicalUnit) : 0 < factor unit := by
  apply Nat.mul_pos
  · cases unit.code <;> decide
  · apply Nat.pow_pos
    cases unit.scale <;> decide

theorem factorToBase_eq (h : unitIsWellFormed unit = true) :
    ∃ f, factorToBase unit = some f ∧ f.toNat = factor unit := by
  obtain ⟨c, hc, hvalue⟩ := scaleMultiplier_eq h
  have hlt : unit.code.info.baseFactor.toNat * c.toNat < 2 ^ 64 := by
    rw [hvalue]
    exact Nat.lt_of_le_of_lt (factor_le h) (by decide)
  obtain ⟨f, hf, hfactor⟩ := checkedMul_of_lt hlt
  refine ⟨f, ?_, ?_⟩
  · rw [factorToBase, if_pos h, hc, Option.bind_some, hf]
  · rw [hfactor, hvalue, factor]

/-! ### Long division on words -/

def U128.toNat (value : U128) : Nat := value.hi.toNat * 2 ^ 64 + value.lo.toNat

theorem U128.toNat_lt (value : U128) : value.toNat < 2 ^ 128 := by
  have hhi := value.hi.toNat_lt
  have hlo := value.lo.toNat_lt
  simp only [toNat]
  omega

theorem mulU64_toNat : (mulU64 a b).toNat = a.toNat * b.toNat := by
  have hproduct : a.toNat * b.toNat < 2 ^ 64 * 2 ^ 64 :=
    Nat.mul_lt_mul'' a.toNat_lt b.toNat_lt
  simp only [U128.toNat, mulU64, UInt64.toNat_ofNat', Nat.reducePow] at hproduct ⊢
  rw [Nat.mod_eq_of_lt (by omega)]
  omega

/-- The bit the loop shifts in. -/
def nextBit (value : U128) (bit : Nat) : UInt64 :=
  if bit ≥ 64 then (value.hi >>> UInt64.ofNat (bit - 64)) &&& 1 else (value.lo >>> UInt64.ofNat bit) &&& 1

def shiftIn (value : U128) (bit : Nat) (remainder : UInt64) : UInt64 := (remainder <<< 1) ||| nextBit value bit

theorem word_bit (h : bit < 64) : ((word >>> UInt64.ofNat bit) &&& 1).toNat = bitAt word.toNat bit := by
  rw [UInt64.toNat_and, UInt64.toNat_shiftRight, UInt64.toNat_ofNat', Nat.mod_eq_of_lt (a := bit) (by omega),
    Nat.mod_eq_of_lt h, bitAt, Nat.shiftRight_eq_div_pow]
  exact Nat.and_one_is_mod _

theorem nextBit_toNat (value : U128) (h : bit < 128) : (nextBit value bit).toNat = bitAt value.toNat bit := by
  rw [nextBit]
  split
  · rename_i hhigh
    obtain ⟨position, rfl⟩ := Nat.exists_eq_add_of_le hhigh
    rw [Nat.add_sub_cancel_left, word_bit value.hi (by omega), bitAt, bitAt, U128.toNat, Nat.pow_add,
      ← Nat.div_div_eq_div_mul, Nat.mul_comm value.hi.toNat, Nat.mul_add_div (by decide),
      Nat.div_eq_of_lt value.lo.toNat_lt, Nat.add_zero]
  · rename_i hlow
    have hsplit : 2 ^ 64 = 2 ^ bit * (2 * 2 ^ (63 - bit)) := by
      rw [← Nat.pow_succ', ← Nat.pow_add]
      congr 1
      omega
    -- The high word adds an even number above the bit.
    have heven : value.toNat = 2 ^ bit * (2 * (2 ^ (63 - bit) * value.hi.toNat)) + value.lo.toNat := by
      rw [U128.toNat, hsplit]
      ring
    rw [word_bit value.lo (by omega), bitAt, bitAt, heven, Nat.mul_add_div (Nat.two_pow_pos bit), Nat.mul_add_mod]

/-- The shift doubles the remainder and drops the carry. -/
theorem shiftIn_toNat (value : U128) (remainder : UInt64) (hbit : bit < 128) :
    (shiftIn value bit remainder).toNat = shifted value.toNat bit remainder.toNat % 2 ^ 64 := by
  have hlt := bitAt_lt value.toNat bit
  have hdouble : (remainder <<< 1).toNat = 2 ^ 1 * (remainder.toNat % 2 ^ 63) := by
    rw [UInt64.toNat_shiftLeft, Nat.shiftLeft_eq]
    change remainder.toNat * 2 ^ 1 % 2 ^ 64 = _
    omega
  rw [shiftIn, UInt64.toNat_or, hdouble, nextBit_toNat value hbit, ← Nat.two_pow_add_eq_or_of_lt (by omega), shifted]
  omega

theorem carry_iff (remainder : UInt64) : remainder >>> 63 ≠ 0 ↔ 2 ^ 63 ≤ remainder.toNat := by
  have hlt := remainder.toNat_lt
  rw [ne_eq, ← UInt64.toNat_inj, UInt64.toNat_shiftRight, Nat.shiftRight_eq_div_pow]
  change ¬ remainder.toNat / 2 ^ 63 = 0 ↔ _
  omega

/-- Setting a bit below all bits of the quotient adds it. -/
theorem setBit_toNat (hbit : bit < 64) (h : 2 ^ (bit + 1) ∣ result.toNat) :
    (result ||| (1 <<< UInt64.ofNat bit)).toNat = result.toNat + 2 ^ bit := by
  obtain ⟨high, hhigh⟩ := h
  have hone : (1 <<< UInt64.ofNat bit : UInt64).toNat = 2 ^ bit := by
    rw [UInt64.toNat_shiftLeft, UInt64.toNat_ofNat', Nat.mod_eq_of_lt (a := bit) (by omega),
      Nat.mod_eq_of_lt hbit, Nat.shiftLeft_eq]
    have hpow : 2 ^ bit < 2 ^ 64 := Nat.pow_lt_pow_right (by decide) hbit
    simpa using Nat.mod_eq_of_lt hpow
  have hlow : 2 ^ bit < 2 ^ (bit + 1) := Nat.pow_lt_pow_right (by decide) (Nat.lt_succ_self bit)
  rw [UInt64.toNat_or, hone, hhigh, Nat.two_pow_add_eq_or_of_lt hlow]

/-- No round of the division leaves the range of a word: the shift loses no bit, the subtraction does not
    borrow, and the quotient's new bit is added to it. -/
def RoundsExact (value : U128) (divisor : UInt64) : Nat → UInt64 → UInt64 → Prop
  | 0, _, _ => True
  | bit + 1, remainder, result =>
    let next := shiftIn value bit remainder
    next.toNat = 2 * remainder.toNat + (nextBit value bit).toNat ∧
    if remainder >>> 63 ≠ 0 ∨ next ≥ divisor then
      (next - divisor).toNat + divisor.toNat = next.toNat ∧
      (bit < 64 → (result ||| (1 <<< UInt64.ofNat bit)).toNat = result.toNat + 2 ^ bit ∧
        RoundsExact value divisor bit (next - divisor) (result ||| (1 <<< UInt64.ofNat bit)))
    else RoundsExact value divisor bit next result

section Division

variable {value : U128}

theorem divU128Loop_succ (bit : Nat) (remainder result : UInt64) :
    divU128Loop value divisor (bit + 1) remainder result =
      if remainder >>> 63 ≠ 0 ∨ shiftIn value bit remainder ≥ divisor then
        if bit ≥ 64 then none
        else divU128Loop value divisor bit (shiftIn value bit remainder - divisor)
          (result ||| (1 <<< UInt64.ofNat bit))
      else divU128Loop value divisor bit (shiftIn value bit remainder) result := rfl

section

variable (value) (hbit : bit < 128) (hsmall : remainder.toNat < divisor.toNat)
include hbit hsmall

/-- The test of a round, carry included, asks whether the divisor fits the remainder as it is before the carry is
    dropped. -/
theorem takes_iff : (remainder >>> 63 ≠ 0 ∨ shiftIn value bit remainder ≥ divisor) ↔
      divisor.toNat ≤ shifted value.toNat bit remainder.toNat := by
  have hdivisor := divisor.toNat_lt
  have hlt := bitAt_lt value.toNat bit
  rw [carry_iff, ge_iff_le, UInt64.le_iff_toNat_le, shiftIn_toNat value remainder hbit, shifted]
  omega

/-- The subtraction gives the remainder of the round, also where it wraps after a carry. -/
theorem shiftIn_sub_toNat (hfit : divisor.toNat ≤ shifted value.toNat bit remainder.toNat) :
    (shiftIn value bit remainder - divisor).toNat = shifted value.toNat bit remainder.toNat - divisor.toNat := by
  have hdivisor := divisor.toNat_lt
  have hlt := bitAt_lt value.toNat bit
  rw [UInt64.toNat_sub, shiftIn_toNat value remainder hbit]
  simp only [shifted] at hfit ⊢
  omega

end

/-- The loop on words follows the loop on naturals, and with a divisor of at most `2 ^ 63` each of its rounds is
    exact. A quotient bit at or above 64 would make the whole quotient too large, so that branch is never taken. -/
theorem divU128Loop_run (hfits : value.toNat / divisor.toNat < 2 ^ 64) {position : Nat}
    (hposition : position ≤ 128) (h : Scanned value.toNat divisor.toNat position (remainder.toNat, result.toNat)) :
    (divisor.toNat ≤ 2 ^ 63 → RoundsExact value divisor position remainder result) ∧
    (divU128Loop value divisor position remainder result).map (fun (r, q) => (r.toNat, q.toNat)) =
      some (run value.toNat divisor.toNat position (remainder.toNat, result.toNat)) := by
  induction position generalizing remainder result with
  | zero => exact ⟨fun _ => trivial, rfl⟩
  | succ bit ih =>
    have hsmall := h.small
    have hnext := shiftIn_toNat value remainder (show bit < 128 by omega)
    have htakes := takes_iff value (show bit < 128 by omega) hsmall
    have hshift : divisor.toNat ≤ 2 ^ 63 →
        (shiftIn value bit remainder).toNat = 2 * remainder.toNat + (nextBit value bit).toNat := by
      intro hdivisor
      have hlt := bitAt_lt value.toNat bit
      rw [hnext, nextBit_toNat value (by omega), shifted]
      simp only at hsmall
      omega
    have hround := h.round
    rw [divU128Loop_succ, RoundsExact, run]
    rw [LongDivision.round] at hround ⊢
    by_cases hfit : divisor.toNat ≤ shifted value.toNat bit remainder.toNat
    · rw [if_pos hfit] at hround ⊢
      have hbit : bit < 64 := by
        by_contra hhigh
        have hle := hround.quotient_le
        have hpow : 2 ^ 64 ≤ 2 ^ bit := Nat.pow_le_pow_right (by decide) (Nat.le_of_not_lt hhigh)
        simp only at hle
        omega
      have hsub := shiftIn_sub_toNat value (by omega) hsmall hfit
      have hset := setBit_toNat hbit h.aligned
      rw [← hsub, ← hset] at hround ⊢
      obtain ⟨hexact, hrun⟩ := ih (by omega) hround
      rw [if_pos (htakes.mpr hfit), if_pos (htakes.mpr hfit), if_neg (Nat.not_le.mpr hbit)]
      refine ⟨fun hdivisor => ⟨hshift hdivisor, ?_, fun _ => ⟨rfl, hexact hdivisor⟩⟩, hrun⟩
      have hlt := bitAt_lt value.toNat bit
      rw [hsub, hnext]
      simp only [shifted] at hfit hsmall ⊢
      omega
    · rw [if_neg hfit] at hround ⊢
      have hkept : (shiftIn value bit remainder).toNat = shifted value.toNat bit remainder.toNat := by
        rw [hnext]
        exact Nat.mod_eq_of_lt (Nat.lt_trans (Nat.lt_of_not_le hfit) divisor.toNat_lt)
      rw [← hkept] at hround ⊢
      obtain ⟨hexact, hrun⟩ := ih (by omega) hround
      rw [if_neg (mt htakes.mp hfit), if_neg (mt htakes.mp hfit)]
      exact ⟨fun hdivisor => ⟨hshift hdivisor, hexact hdivisor⟩, hrun⟩

/-- A quotient below `2 ^ 64` is one whose divisor exceeds the high word. -/
theorem quotient_lt_iff (hpos : 0 < divisor.toNat) : value.toNat / divisor.toNat < 2 ^ 64 ↔ value.hi < divisor := by
  have hlo := value.lo.toNat_lt
  rw [Nat.div_lt_iff_lt_mul hpos, UInt64.lt_iff_toNat_lt, U128.toNat]
  omega

/-- The loop from the top ends with remainder and quotient. -/
theorem divU128Loop_eq {bits : Nat} (hbits : bits ≤ 128) (hvalue : value.toNat < 2 ^ bits) (hpos : 0 < divisor.toNat)
    (hfits : value.toNat / divisor.toNat < 2 ^ 64) : (divisor.toNat ≤ 2 ^ 63 → RoundsExact value divisor bits 0 0) ∧
    ∃ remainder result, divU128Loop value divisor bits 0 0 = some (remainder, result) ∧
      remainder.toNat = value.toNat % divisor.toNat ∧ result.toNat = value.toNat / divisor.toNat := by
  have hstart : Scanned value.toNat divisor.toNat bits ((0 : UInt64).toNat, (0 : UInt64).toNat) :=
    Scanned.initial hpos hvalue
  obtain ⟨hexact, hrun⟩ := divU128Loop_run hfits hbits hstart
  obtain ⟨⟨remainder, result⟩, hloop, hstate⟩ := Option.map_eq_some_iff.mp hrun
  have hdone := hstate.trans (run_eq hpos hvalue)
  obtain ⟨hremainder, hresult⟩ := Prod.mk.inj hdone
  exact ⟨hexact, remainder, result, hloop, hremainder, hresult⟩

theorem divU128Exact_eq_some_iff (hpos : 0 < divisor.toNat) (quotient : UInt64) :
    divU128Exact value divisor = some quotient ↔ value.toNat = quotient.toNat * divisor.toNat := by
  have hzero : divisor ≠ 0 := fun h => by simp [h] at hpos
  rw [divU128Exact, if_neg hzero]
  by_cases hfits : value.hi < divisor
  · obtain ⟨-, remainder, result, hloop, hremainder, hresult⟩ :=
      divU128Loop_eq (Nat.le_refl _) value.toNat_lt hpos ((quotient_lt_iff hpos).mpr hfits)
    have hdivMod := Nat.div_add_mod value.toNat divisor.toNat
    rw [if_neg (UInt64.not_le.mpr hfits), hloop]
    simp only [ne_eq, ite_not, Option.ite_none_right_eq_some, Option.some.injEq]
    constructor
    · rintro ⟨rfl, rfl⟩
      rw [hresult, Nat.mul_comm]
      rw [UInt64.toNat_zero] at hremainder
      omega
    · intro hproduct
      have hquotient : value.toNat / divisor.toNat = quotient.toNat := by
        rw [hproduct, Nat.mul_div_cancel _ hpos]
      constructor
      · apply UInt64.toNat.inj
        rw [hremainder, hproduct, Nat.mul_mod_left, UInt64.toNat_zero]
      · apply UInt64.toNat.inj
        rw [hresult, hquotient]
  · rw [if_pos (UInt64.not_lt.mp hfits)]
    constructor
    · intro h
      cases h
    · intro hproduct
      refine absurd ((quotient_lt_iff hpos).mp ?_) hfits
      rw [hproduct, Nat.mul_div_cancel _ hpos]
      exact quotient.toNat_lt

end Division

/-! ### Signs -/

/-- Absolute value of the input, as the code takes it. -/
def magnitude (value : Int64) : UInt64 :=
  if value < 0 then (-(value + 1)).toUInt64 + 1 else value.toUInt64

/-- The code's last step: the quotient with the sign of the input, where that fits. -/
def signedQuotient (negative : Bool) (quotient : UInt64) : Option Int64 :=
  if quotient > Int64.maxValue.toUInt64 then
    if negative ∧ quotient = Int64.maxValue.toUInt64 + 1 then some Int64.minValue else none
  else some (if negative then -quotient.toInt64 else quotient.toInt64)

theorem bmod_eq_self {n : Int} (hlow : -2 ^ 63 ≤ n) (hhigh : n < 2 ^ 63) : n.bmod (2 ^ 64) = n := by
  rw [← Int64.toInt_ofInt_of_le hlow hhigh]
  exact Int64.toInt_bmod _

theorem toNat_toUInt64 {value : Int64} (h : 0 ≤ value.toInt) : (value.toUInt64.toNat : Int) = value.toInt := by
  have hle : 0 ≤ value := Int64.le_iff_toInt_le.mpr h
  rw [Int64.toNat_toUInt64_of_le hle, ← Int64.toInt_eq_toNatClampNeg hle]

theorem toInt_toInt64 {word : UInt64} (h : word.toNat < 2 ^ 63) : word.toInt64.toInt = word.toNat := by
  rw [← UInt64.ofNat_toNat (x := word), UInt64.toInt64_ofNat', Int64.toInt_ofNat_of_lt (by simpa using h)]
  simp

/-- Only the minimum has no negation. -/
theorem toInt_neg_of_lt {value : Int64} (h : -2 ^ 63 < value.toInt) : (-value).toInt = -value.toInt := by
  have hlt := value.toInt_lt
  rw [Int64.toInt_neg, bmod_eq_self (by omega) (by omega)]

theorem toInt_add_one {value : Int64} (h : value.toInt < 0) : (value + 1).toInt = value.toInt + 1 := by
  have hle := value.le_toInt
  rw [Int64.toInt_add, Int64.toInt_one, bmod_eq_self (by omega) (by omega)]

/-- No operation on the signs leaves the range of its type, the minimum included. -/
structure SignsExact (value : Int64) : Prop where
  succ : value < 0 → (value + 1).toInt = value.toInt + 1
  neg : value < 0 → (-(value + 1)).toInt = -(value + 1).toInt
  word : value < 0 → ((-(value + 1)).toUInt64.toNat : Int) = (-(value + 1)).toInt
  magnitude : ((magnitude value).toNat : Int) = |value.toInt|

theorem signsExact (value : Int64) : SignsExact value := by
  have hle := value.le_toInt
  have hsucc : value < 0 → (value + 1).toInt = value.toInt + 1 :=
    fun h => toInt_add_one (Int64.lt_iff_toInt_lt.mp h)
  have hneg : value < 0 → (-(value + 1)).toInt = -(value + 1).toInt := fun h =>
    toInt_neg_of_lt (by rw [hsucc h]; omega)
  have hword : value < 0 → ((-(value + 1)).toUInt64.toNat : Int) = (-(value + 1)).toInt := by
    intro h
    have hlt : value.toInt < 0 := Int64.lt_iff_toInt_lt.mp h
    exact toNat_toUInt64 (by rw [hneg h, hsucc h]; omega)
  refine ⟨hsucc, hneg, hword, ?_⟩
  rw [magnitude]
  split
  · rename_i h
    have hlt : value.toInt < 0 := Int64.lt_iff_toInt_lt.mp h
    have hcount := hword h
    rw [hneg h, hsucc h] at hcount
    rw [UInt64.toNat_add, abs_of_neg hlt]
    change (((_ + 1) % 2 ^ 64 : Nat) : Int) = _
    omega
  · rename_i h
    have hge : 0 ≤ value.toInt := Int64.le_iff_toInt_le.mp (Int64.not_lt.mp h)
    rw [toNat_toUInt64 hge, abs_of_nonneg hge]

theorem maxValue_toUInt64_toNat : Int64.maxValue.toUInt64.toNat = 2 ^ 63 - 1 := by decide

theorem signedQuotient_eq_some_iff (negative : Bool) (quotient : UInt64) (q : Int) :
    (signedQuotient negative quotient).map Int64.toInt = some q ↔
      q = (if negative then -(quotient.toNat : Int) else quotient.toNat) ∧ -2 ^ 63 ≤ q ∧ q < 2 ^ 63 := by
  have hmax := maxValue_toUInt64_toNat
  rw [signedQuotient]
  by_cases hbig : quotient > Int64.maxValue.toUInt64
  · have hlarge := UInt64.lt_iff_toNat_lt.mp hbig
    rw [if_pos hbig]
    have hedge : quotient = Int64.maxValue.toUInt64 + 1 ↔ quotient.toNat = 2 ^ 63 := by
      rw [← UInt64.toNat_inj]
      rfl
    simp only [hedge]
    cases negative <;> by_cases hlast : quotient.toNat = 2 ^ 63 <;>
      simp [hlast] <;> omega
  · have hsmall : quotient.toNat < 2 ^ 63 := by
      have hle := UInt64.le_iff_toNat_le.mp (UInt64.not_lt.mp hbig)
      omega
    rw [if_neg hbig, Option.map_some]
    have hlow : -2 ^ 63 < quotient.toInt64.toInt := by rw [toInt_toInt64 hsmall]; omega
    cases negative
    · simp [toInt_toInt64 hsmall]
      omega
    · simp [toInt_neg_of_lt hlow, toInt_toInt64 hsmall]
      omega

/-! ### Conversion -/

/-- No step of a conversion leaves the range of its type. -/
structure ConversionExact (value : Int64) (source target : PhysicalUnit) : Prop where
  signs : SignsExact value
  factors : ∀ unit ∈ [source, target], ∃ f, factorToBase unit = some f ∧ f.toNat = factor unit
  product : ∀ f ∈ factorToBase source,
    (mulU64 (magnitude value) f).toNat = (magnitude value).toNat * f.toNat
  rounds : ∀ f ∈ factorToBase source, ∀ divisor ∈ factorToBase target,
    (mulU64 (magnitude value) f).hi < divisor → RoundsExact (mulU64 (magnitude value) f) divisor 128 0 0
  result : ∀ quotient : UInt64, quotient ≤ Int64.maxValue.toUInt64 →
    quotient.toInt64.toInt = quotient.toNat ∧ (-quotient.toInt64).toInt = -quotient.toInt64.toInt

section

variable {source target : PhysicalUnit} (value : Int64) (hsource : unitIsWellFormed source = true)
  (htarget : unitIsWellFormed target = true)

include value hsource htarget

theorem conversionExact : ConversionExact value source target where
  signs := signsExact value
  factors := by
    intro unit hunit
    have hwell : unitIsWellFormed unit = true := by
      rcases List.mem_pair.mp hunit with rfl | rfl <;> assumption
    exact factorToBase_eq hwell
  product := fun f _ => mulU64_toNat _ f
  rounds := by
    intro f _ divisor hdivisor hfits
    obtain ⟨known, hknown, hfactor⟩ := factorToBase_eq htarget
    cases Option.some.inj (hknown.symm.trans hdivisor)
    have hpos : 0 < divisor.toNat := hfactor ▸ factor_pos target
    exact (divU128Loop_eq (Nat.le_refl _) (U128.toNat_lt _) hpos ((quotient_lt_iff hpos).mpr hfits)).1
      (hfactor ▸ factor_le htarget)
  result := by
    intro quotient hle
    have hsmall : quotient.toNat < 2 ^ 63 :=
      Nat.lt_of_le_of_lt (UInt64.le_iff_toNat_le.mp hle) (by rw [maxValue_toUInt64_toNat]; decide)
    have hvalue := toInt_toInt64 hsmall
    exact ⟨hvalue, toInt_neg_of_lt (by rw [hvalue]; omega)⟩

/-- Past its checks, a conversion divides the scaled magnitude and puts the sign back. -/
theorem convertExact_of_units {f : UInt64} (hdimension : dimensionOf source.code = dimensionOf target.code)
    (hf : factorToBase source = some f) (hdivisor : factorToBase target = some divisor) :
    convertExact value source target =
      (divU128Exact (mulU64 (magnitude value) f) divisor).bind (signedQuotient (decide (value < 0))) := by
  rw [convertExact, hsource, htarget, if_neg (by decide), if_neg (not_not.mpr hdimension), hf, hdivisor]
  simp only [Option.bind_eq_bind, Option.bind_some, magnitude]
  congr 1
  funext quotient
  simp only [signedQuotient, decide_eq_true_eq]

end

/-- Over the integers, dividing the magnitudes and putting the sign back is dividing. -/
theorem signed_division {value q : Int} {quotient divisor : Nat} (hf : 0 < f) (hdivisor : 0 < divisor) :
    (value.natAbs * f = quotient * divisor ∧ q = if value < 0 then -(quotient : Int) else quotient) ↔
      value * f = q * divisor ∧ quotient = q.natAbs := by
  have hfPos : (0 : Int) < f := by exact_mod_cast hf
  have hdivisorPos : (0 : Int) < divisor := by exact_mod_cast hdivisor
  constructor
  · rintro ⟨hproduct, rfl⟩
    have hcast : (value.natAbs : Int) * f = quotient * divisor := by exact_mod_cast hproduct
    split
    · have habs : (value.natAbs : Int) = -value := by omega
      rw [habs] at hcast
      exact ⟨by linarith, by simp⟩
    · have habs : (value.natAbs : Int) = value := by omega
      rw [habs] at hcast
      exact ⟨hcast, by simp⟩
  · rintro ⟨hproduct, rfl⟩
    constructor
    · simpa [Int.natAbs_mul] using congrArg Int.natAbs hproduct
    · split
      · rename_i hneg
        have hscaled : value * f < 0 := Int.mul_neg_of_neg_of_pos hneg hfPos
        have hq : q ≤ 0 := by
          by_contra hpos
          have := Int.mul_pos (Int.not_le.mp hpos) hdivisorPos
          omega
        omega
      · rename_i hneg
        have hscaled : 0 ≤ value * f := Int.mul_nonneg (Int.not_lt.mp hneg) hfPos.le
        have hq : 0 ≤ q := by
          by_contra hpos
          have := Int.mul_neg_of_neg_of_pos (Int.not_le.mp hpos) hdivisorPos
          omega
        omega

theorem toInt_convertExact_iff (value : Int64) (source target : PhysicalUnit) (q : Int) :
    (convertExact value source target).map Int64.toInt = some q ↔
      unitIsWellFormed source = true ∧ unitIsWellFormed target = true ∧
      dimensionOf source.code = dimensionOf target.code ∧
      value.toInt * factor source = q * factor target ∧ -2 ^ 63 ≤ q ∧ q < 2 ^ 63 := by
  by_cases hunits : unitIsWellFormed source = true ∧ unitIsWellFormed target = true ∧
      dimensionOf source.code = dimensionOf target.code
  · obtain ⟨hsource, htarget, hdimension⟩ := hunits
    obtain ⟨f, hf, hfactor⟩ := factorToBase_eq hsource
    obtain ⟨divisor, hdivisor, htargetFactor⟩ := factorToBase_eq htarget
    have hpos : 0 < divisor.toNat := htargetFactor ▸ factor_pos target
    have hfPos : 0 < f.toNat := hfactor ▸ factor_pos source
    have hmagnitude : (magnitude value).toNat = value.toInt.natAbs := by
      have habs := (signsExact value).magnitude
      rw [Int.abs_eq_natAbs] at habs
      exact_mod_cast habs
    have hsign : value < 0 ↔ value.toInt < 0 := Int64.lt_iff_toInt_lt
    -- Each quotient of the word division stands for one signed quotient.
    have hquotient : ∀ quotient : UInt64, (divU128Exact (mulU64 (magnitude value) f) divisor = some quotient ∧
          (signedQuotient (decide (value < 0)) quotient).map Int64.toInt = some q) ↔
        (value.toInt * f.toNat = q * divisor.toNat ∧ quotient.toNat = q.natAbs) ∧ -2 ^ 63 ≤ q ∧ q < 2 ^ 63 := by
      intro quotient
      rw [divU128Exact_eq_some_iff hpos, mulU64_toNat, hmagnitude,
        signedQuotient_eq_some_iff, ← signed_division hfPos hpos, and_assoc]
      simp only [decide_eq_true_eq, hsign]
    rw [convertExact_of_units value hsource htarget hdimension hf hdivisor, ← hfactor, ← htargetFactor,
      Option.map_bind, Option.bind_eq_some_iff]
    simp only [Function.comp_apply, hquotient, hsource, htarget, hdimension, true_and]
    constructor
    · rintro ⟨quotient, ⟨hproduct, -⟩, hrange⟩
      exact ⟨hproduct, hrange⟩
    · rintro ⟨hproduct, hlow, hhigh⟩
      refine ⟨UInt64.ofNat q.natAbs, ⟨hproduct, ?_⟩, hlow, hhigh⟩
      rw [UInt64.toNat_ofNat', Nat.mod_eq_of_lt (by omega)]
  · have hnone : convertExact value source target = none := by
      rw [convertExact]
      split
      · rfl
      · split
        · rfl
        · rename_i hwell hdimension
          refine absurd ⟨?_, ?_, not_not.mp hdimension⟩ hunits
          all_goals simp_all
    rw [hnone]
    constructor
    · intro h
      cases h
    · rintro ⟨hsource, htarget, hdimension, -⟩
      exact absurd ⟨hsource, htarget, hdimension⟩ hunits

/-- A conversion returns `q` exactly when both units are well-formed and of one dimension and `q` is the integer
    quotient, in range; no step on the way wraps. -/
theorem convertExact_eq_some_iff (value : Int64) (source target : PhysicalUnit) :
    (∀ q : Int, (convertExact value source target).map Int64.toInt = some q ↔
      unitIsWellFormed source = true ∧ unitIsWellFormed target = true ∧
      dimensionOf source.code = dimensionOf target.code ∧
      value.toInt * factor source = q * factor target ∧ -2 ^ 63 ≤ q ∧ q < 2 ^ 63) ∧
    (unitIsWellFormed source = true → unitIsWellFormed target = true →
      ConversionExact value source target) :=
  ⟨toInt_convertExact_iff value source target, conversionExact value⟩

/-- The minimum converts like any other value. -/
theorem convertExact_minimum :
    (convertExact Int64.minValue ⟨.bit, .unity, 0⟩ ⟨.byte, .unity, 0⟩).map Int64.toInt = some (-2 ^ 60) ∧
    ConversionExact Int64.minValue ⟨.bit, .unity, 0⟩ ⟨.byte, .unity, 0⟩ := by
  have hexact := convertExact_eq_some_iff Int64.minValue ⟨.bit, .unity, 0⟩ ⟨.byte, .unity, 0⟩
  exact ⟨(hexact.1 _).mpr (by decide), hexact.2 rfl rfl⟩

/-! ### Comparison -/

/-- The value is a whole number of target units, in range. -/
def Converts (value : Int64) (source target : PhysicalUnit) : Prop :=
  ∃ q : Int64, value.toInt * factor source = q.toInt * factor target

/-- True order of two quantities, over the integers. -/
def trueOrder (lhs : Int64) (lhsUnit : PhysicalUnit) (rhs : Int64) (rhsUnit : PhysicalUnit) : Ordering :=
  compare (lhs.toInt * factor lhsUnit) (rhs.toInt * factor rhsUnit)

theorem compare_toInt (a b : Int64) : compare a b = compare a.toInt b.toInt := by
  rcases lt_trichotomy a.toInt b.toInt with h | h | h
  · rw [compare_lt_iff_lt.mpr h]
    exact Std.compare_eq_lt.mpr (Int64.lt_iff_toInt_lt.mpr h)
  · rw [Int64.toInt_inj.mp h, Std.compare_self, Std.compare_self]
  · rw [compare_gt_iff_gt.mpr h]
    exact Std.compare_eq_gt.mpr (Int64.lt_iff_toInt_lt.mpr h)

/-- A common positive factor does not change the order. -/
theorem compare_mul (a b : Int) (hf : 0 < f) : compare (a * f) (b * f) = compare a b := by
  have hpos : (0 : Int) < f := by exact_mod_cast hf
  rcases lt_trichotomy a b with h | rfl | h
  · rw [compare_lt_iff_lt.mpr h, compare_lt_iff_lt]
    exact Int.mul_lt_mul_of_pos_right h hpos
  · rw [Std.compare_self, Std.compare_self]
  · rw [compare_gt_iff_gt.mpr h, compare_gt_iff_gt]
    exact Int.mul_lt_mul_of_pos_right h hpos

section Comparison

variable {lhsUnit rhsUnit : PhysicalUnit} (lhs rhs : Int64) (hlhs : unitIsWellFormed lhsUnit = true)
  (hrhs : unitIsWellFormed rhsUnit = true) (hdimension : dimensionOf lhsUnit.code = dimensionOf rhsUnit.code)
include hlhs hrhs hdimension

theorem convertExact_some_iff (value q : Int64) :
    convertExact value lhsUnit rhsUnit = some q ↔ value.toInt * factor lhsUnit = q.toInt * factor rhsUnit := by
  have hexact := toInt_convertExact_iff value lhsUnit rhsUnit q.toInt
  have hlow := q.le_toInt
  have hhigh := q.toInt_lt
  rw [Option.map_eq_some_iff] at hexact
  simp only [hlhs, hrhs, hdimension, hlow, hhigh, true_and, and_true, Int64.toInt_inj, exists_eq_right] at hexact
  exact hexact

theorem convertExact_none_iff (value : Int64) :
    convertExact value lhsUnit rhsUnit = none ↔ ¬ Converts value lhsUnit rhsUnit := by
  simp only [Option.eq_none_iff_forall_ne_some, ne_eq, convertExact_some_iff hlhs hrhs hdimension, Converts, not_exists]

/-- Whatever the comparison returns is the true order, whichever side was converted. -/
theorem compareExact_sound {order : Ordering} (h : compareExact lhs lhsUnit rhs rhsUnit = some order) :
    order = trueOrder lhs lhsUnit rhs rhsUnit := by
  rw [compareExact] at h
  split at h
  next hunits =>
    cases h
    rw [trueOrder, hunits, compare_mul _ _ (factor_pos rhsUnit), compare_toInt]
  next hunits =>
    split at h
    next q hq =>
      cases h
      rw [trueOrder, (convertExact_some_iff hlhs hrhs hdimension lhs q).mp hq, compare_mul _ _ (factor_pos rhsUnit),
        compare_toInt]
    next =>
      obtain ⟨q, hq, rfl⟩ := Option.map_eq_some_iff.mp h
      rw [trueOrder, (convertExact_some_iff hrhs hlhs hdimension.symm rhs q).mp hq,
        compare_mul _ _ (factor_pos lhsUnit), compare_toInt]

theorem compareExact_none_iff : compareExact lhs lhsUnit rhs rhsUnit = none ↔
    lhsUnit ≠ rhsUnit ∧ ¬ Converts lhs lhsUnit rhsUnit ∧ ¬ Converts rhs rhsUnit lhsUnit := by
  rw [← convertExact_none_iff hlhs hrhs hdimension, ← convertExact_none_iff hrhs hlhs hdimension.symm, compareExact]
  split
  next hunits => simp [hunits]
  next hunits =>
    split
    next q hq => simp [hq]
    next hnone => simp [hunits, hnone]

/-- A comparison of quantities of one dimension is the true order where it is defined, it is reversed with its
    sides, and it is undefined exactly when the units differ and neither side converts into the other's unit. -/
theorem compareExact_correct :
    (∀ order, compareExact lhs lhsUnit rhs rhsUnit = some order → order = trueOrder lhs lhsUnit rhs rhsUnit) ∧
    compareExact rhs rhsUnit lhs lhsUnit = (compareExact lhs lhsUnit rhs rhsUnit).map Ordering.swap ∧
    (compareExact lhs lhsUnit rhs rhsUnit = none ↔
      lhsUnit ≠ rhsUnit ∧ ¬ Converts lhs lhsUnit rhsUnit ∧ ¬ Converts rhs rhsUnit lhsUnit) := by
  have hnone := compareExact_none_iff lhs rhs hlhs hrhs hdimension
  have hback := compareExact_none_iff rhs lhs hrhs hlhs hdimension.symm
  refine ⟨fun order => compareExact_sound lhs rhs hlhs hrhs hdimension, ?_, hnone⟩
  -- Both directions are defined together, and each is then the true order of its sides.
  have hboth : compareExact rhs rhsUnit lhs lhsUnit = none ↔ compareExact lhs lhsUnit rhs rhsUnit = none := by
    rw [hnone, hback]
    tauto
  cases hforth : compareExact lhs lhsUnit rhs rhsUnit with
  | none => exact hboth.mpr hforth
  | some order =>
    cases hreverse : compareExact rhs rhsUnit lhs lhsUnit with
    | none => cases hforth.symm.trans (hboth.mp hreverse)
    | some reversed =>
      rw [compareExact_sound rhs lhs hrhs hlhs hdimension.symm hreverse,
        compareExact_sound lhs rhs hlhs hrhs hdimension hforth, Option.map_some, trueOrder, trueOrder,
        Std.OrientedOrd.eq_swap]

end Comparison

/-- A kibibyte is no whole number of hectobits, nor the other way round. -/
theorem compareExact_kibibyte : compareExact 1 ⟨.bit, .decimal, 2⟩ 1 ⟨.byte, .binary, 1⟩ =
    (compareExact 1 ⟨.byte, .binary, 1⟩ 1 ⟨.bit, .decimal, 2⟩).map Ordering.swap :=
  (compareExact_correct 1 1 (show unitIsWellFormed ⟨.byte, .binary, 1⟩ = true from rfl)
    (show unitIsWellFormed ⟨.bit, .decimal, 2⟩ = true from rfl) rfl).2.1

/-! ### The helpers on 128 bits -/

theorem toNat_low : (word &&& 0xFFFFFFFF).toNat = word.toNat % 2 ^ 32 := by
  rw [UInt64.toNat_and]
  exact Nat.and_two_pow_sub_one_eq_mod _ 32

theorem toNat_high : (word >>> 32).toNat = word.toNat / 2 ^ 32 := by
  rw [UInt64.toNat_shiftRight, Nat.shiftRight_eq_div_pow]
  rfl

theorem toNat_raised : (word <<< 32).toNat = word.toNat * 2 ^ 32 % 2 ^ 64 := by
  rw [UInt64.toNat_shiftLeft, Nat.shiftLeft_eq]
  rfl

/-- The partial products add up to the product. -/
theorem mulU64Portable_toNat : (mulU64Portable a b).toNat = a.toNat * b.toNat := by
  have hbound : ∀ {x y : Nat}, x < 2 ^ 32 → y < 2 ^ 32 → x * y ≤ (2 ^ 32 - 1) * (2 ^ 32 - 1) :=
    fun hx hy => Nat.mul_le_mul (Nat.le_pred_of_lt hx) (Nat.le_pred_of_lt hy)
  have ha := a.toNat_lt
  have hb := b.toNat_lt
  have hproduct : a.toNat * b.toNat = a.toNat / 2 ^ 32 * (b.toNat / 2 ^ 32) * 2 ^ 64
      + (a.toNat % 2 ^ 32 * (b.toNat / 2 ^ 32) + a.toNat / 2 ^ 32 * (b.toNat % 2 ^ 32)) * 2 ^ 32
      + a.toNat % 2 ^ 32 * (b.toNat % 2 ^ 32) := by
    conv_lhs => rw [← Nat.div_add_mod a.toNat (2 ^ 32), ← Nat.div_add_mod b.toNat (2 ^ 32)]
    ring
  have haLow : a.toNat % 2 ^ 32 < 2 ^ 32 := Nat.mod_lt _ (by decide)
  have hbLow : b.toNat % 2 ^ 32 < 2 ^ 32 := Nat.mod_lt _ (by decide)
  have haHigh : a.toNat / 2 ^ 32 < 2 ^ 32 := by omega
  have hbHigh : b.toNat / 2 ^ 32 < 2 ^ 32 := by omega
  have h0 := hbound haLow hbLow
  have h1 := hbound haLow hbHigh
  have h2 := hbound haHigh hbLow
  have h3 := hbound haHigh hbHigh
  rw [hproduct]
  simp only [U128.toNat, mulU64Portable, UInt64.toNat_add, UInt64.toNat_mul, toNat_low, toNat_high, toNat_raised]
  -- With the four products as unknowns, what is left is linear.
  generalize a.toNat % 2 ^ 32 * (b.toNat % 2 ^ 32) = p0 at *
  generalize a.toNat % 2 ^ 32 * (b.toNat / 2 ^ 32) = p1 at *
  generalize a.toNat / 2 ^ 32 * (b.toNat % 2 ^ 32) = p2 at *
  generalize a.toNat / 2 ^ 32 * (b.toNat / 2 ^ 32) = p3 at *
  omega

/-- The product by halves is the product, and the long division returns a quotient exactly when the divisor is not
    zero, divides the value, and the quotient fits a word. -/
theorem wide_helpers_exact :
    (∀ a b : UInt64, (mulU64Portable a b).hi.toNat * 2 ^ 64 + (mulU64Portable a b).lo.toNat = a.toNat * b.toNat) ∧
    ∀ (value : U128) (divisor : UInt64) (q : Nat), (divU128Exact value divisor).map UInt64.toNat = some q ↔
      divisor ≠ 0 ∧ divisor.toNat ∣ value.toNat ∧ value.toNat / divisor.toNat = q ∧ q < 2 ^ 64 := by
  refine ⟨mulU64Portable_toNat, ?_⟩
  intro value divisor q
  by_cases hzero : divisor = 0
  · simp [divU128Exact, hzero]
  · have hpos : 0 < divisor.toNat := Nat.pos_of_ne_zero (fun h => hzero (UInt64.toNat.inj h))
    rw [Option.map_eq_some_iff]
    simp only [divU128Exact_eq_some_iff hpos]
    constructor
    · rintro ⟨quotient, hproduct, rfl⟩
      rw [hproduct, Nat.mul_div_cancel _ hpos]
      exact ⟨hzero, Nat.dvd_mul_left _ _, rfl, quotient.toNat_lt⟩
    · rintro ⟨-, hdvd, rfl, hlt⟩
      have hquotient : (UInt64.ofNat (value.toNat / divisor.toNat)).toNat = value.toNat / divisor.toNat := by
        rw [UInt64.toNat_ofNat', Nat.mod_eq_of_lt hlt]
      exact ⟨_, by rw [hquotient, Nat.div_mul_cancel hdvd], hquotient⟩

end Ocreg
