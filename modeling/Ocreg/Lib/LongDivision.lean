/-
Module: Ocreg.Lib.LongDivision
Purpose: Restoring long division on natural numbers, most significant bit first.
-/
import Mathlib.Tactic.Ring
import Mathlib.Tactic.Linarith

namespace LongDivision

variable {divisor numerator position : Nat} {state : Nat × Nat} {bits : Nat}

/-- Bit of the numerator at a position. -/
def bitAt (numerator position : Nat) : Nat := numerator / 2 ^ position % 2

/-- Remainder of a round after the next bit has been shifted in. -/
def shifted (numerator position remainder : Nat) : Nat := 2 * remainder + bitAt numerator position

/-- A round: shift the next bit in and subtract the divisor where it fits. -/
def round (numerator divisor position : Nat) (state : Nat × Nat) : Nat × Nat :=
  if divisor ≤ shifted numerator position state.1 then
    (shifted numerator position state.1 - divisor, state.2 + 2 ^ position)
  else (shifted numerator position state.1, state.2)

/-- The rounds from bit `position - 1` down to bit 0, on remainder and quotient. -/
def run (numerator divisor : Nat) : Nat → Nat × Nat → Nat × Nat
  | 0, state => state
  | position + 1, state => run numerator divisor position (round numerator divisor position state)

/-- What holds once the bits from `position` up have been scanned: the remainder is below the divisor, the
    quotient has no bit below `position`, and together they account for the scanned bits. -/
structure Scanned (numerator divisor position : Nat) (state : Nat × Nat) : Prop where
  small : state.1 < divisor
  aligned : 2 ^ position ∣ state.2
  account : numerator = state.2 * divisor + state.1 * 2 ^ position + numerator % 2 ^ position

theorem bitAt_lt (numerator position : Nat) : bitAt numerator position < 2 := Nat.mod_lt _ (by decide)

/-- The low bits, cut one position higher. -/
theorem mod_succ (numerator position : Nat) :
    numerator % 2 ^ (position + 1) = bitAt numerator position * 2 ^ position + numerator % 2 ^ position := by
  rw [Nat.pow_succ, Nat.mod_mul, bitAt]
  ring

section

variable (h : Scanned numerator divisor (position + 1) state)
include h

theorem Scanned.shifted_lt : shifted numerator position state.1 < 2 * divisor := by
  have hsmall := h.small
  have hbit := bitAt_lt numerator position
  simp only [shifted]
  omega

/-- The account of a state, with the next bit shifted into the remainder. -/
theorem Scanned.account_shifted : numerator = state.2 * divisor + shifted numerator position state.1 * 2 ^ position
      + numerator % 2 ^ position := by
  calc numerator
      = state.2 * divisor + state.1 * 2 ^ (position + 1) + numerator % 2 ^ (position + 1) := h.account
    _ = _ := by rw [mod_succ, shifted, Nat.pow_succ]; ring

end

theorem Scanned.initial (hdivisor : 0 < divisor) (hbits : numerator < 2 ^ bits) :
    Scanned numerator divisor bits (0, 0) where
  small := hdivisor
  aligned := Nat.dvd_zero _
  account := by simp [Nat.mod_eq_of_lt hbits]

theorem Scanned.round (h : Scanned numerator divisor (position + 1) state) :
    Scanned numerator divisor position (round numerator divisor position state) := by
  have hlt := h.shifted_lt
  have haccount := h.account_shifted
  have haligned : 2 ^ position ∣ state.2 := Nat.dvd_trans (Nat.pow_dvd_pow 2 (Nat.le_succ position)) h.aligned
  rw [LongDivision.round]
  split
  case isTrue hfits =>
    -- Subtracting the divisor from the remainder moves it into the quotient's new bit.
    obtain ⟨left, hleft⟩ := Nat.exists_eq_add_of_le hfits
    constructor
    · simp only
      omega
    · exact Nat.dvd_add haligned (Nat.dvd_refl _)
    · simp only [hleft, Nat.add_sub_cancel_left] at haccount ⊢
      calc numerator
          = state.2 * divisor + (divisor + left) * 2 ^ position + numerator % 2 ^ position := haccount
        _ = _ := by ring
  case isFalse hfits =>
    constructor
    · exact Nat.lt_of_not_le hfits
    · exact haligned
    · exact haccount

theorem Scanned.run (h : Scanned numerator divisor position state) :
    Scanned numerator divisor 0 (run numerator divisor position state) := by
  induction position generalizing state with
  | zero => exact h
  | succ position ih => exact ih h.round

/-- The quotient never exceeds the true one. -/
theorem Scanned.quotient_le (h : Scanned numerator divisor position state) : state.2 ≤ numerator / divisor := by
  have hpos : 0 < divisor := Nat.lt_of_le_of_lt (Nat.zero_le _) h.small
  rw [Nat.le_div_iff_mul_le hpos]
  have haccount := h.account
  omega

/-- The run from the numerator's highest bit ends with remainder and quotient. -/
theorem run_eq (hdivisor : 0 < divisor) (hbits : numerator < 2 ^ bits) :
    run numerator divisor bits (0, 0) = (numerator % divisor, numerator / divisor) := by
  have hdone := (Scanned.initial hdivisor hbits).run
  have haccount := hdone.account
  simp only [Nat.pow_zero, Nat.mul_one, Nat.mod_one, Nat.add_zero] at haccount
  have hunique := (Nat.div_mod_unique hdivisor (a := numerator)
    (c := (run numerator divisor bits (0, 0)).1) (d := (run numerator divisor bits (0, 0)).2)).mpr
    ⟨by rw [Nat.mul_comm]; omega, hdone.small⟩
  exact Prod.ext hunique.2.symm hunique.1.symm

end LongDivision
