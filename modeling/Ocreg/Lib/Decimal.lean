/-
Module: Ocreg.Lib.Decimal
Purpose: Decimal numerals as byte strings: their value, and the order of numerals without leading zeros.
-/
import Ocreg.Lib.ThreeWay
import Mathlib.Tactic.Ring

namespace Decimal

open List

variable {a b t : List UInt8}

/-- An ASCII digit. -/
def Digit (c : UInt8) : Prop := 48 ≤ c.toNat ∧ c.toNat ≤ 57

instance : DecidablePred Digit := fun c => inferInstanceAs (Decidable (48 ≤ c.toNat ∧ c.toNat ≤ 57))

/-- Value of a digit string, most significant digit first. -/
def value (digits : List UInt8) : Nat := digits.foldl (fun n c => n * 10 + (c.toNat - 48)) 0

/-- Digit strings without a leading zero, except for zero itself. -/
inductive Numeral : List UInt8 → Prop
  | zero : Numeral [48]
  | positive {c : UInt8} {rest : List UInt8} (hhead : Digit c) (hpos : c ≠ 48) (hrest : ∀ d ∈ rest, Digit d) :
      Numeral (c :: rest)

/-! ### Values -/

@[simp] theorem value_nil : value [] = 0 := rfl

theorem foldl_digits (digits : List UInt8) (n : Nat) :
    digits.foldl (fun n c => n * 10 + (c.toNat - 48)) n = n * 10 ^ digits.length + value digits := by
  induction digits generalizing n with
  | nil => simp
  | cons c digits ih =>
    simp only [value, foldl_cons, length_cons]
    rw [ih, ih (0 * 10 + (c.toNat - 48)), Nat.pow_succ]
    ring

theorem value_cons (c : UInt8) (digits : List UInt8) :
    value (c :: digits) = (c.toNat - 48) * 10 ^ digits.length + value digits := by
  rw [value, foldl_cons, foldl_digits, Nat.zero_mul, Nat.zero_add]

theorem value_append_singleton (digits : List UInt8) (c : UInt8) :
    value (digits ++ [c]) = value digits * 10 + (c.toNat - 48) := by
  simp [value]

theorem value_lt {digits : List UInt8} (h : ∀ c ∈ digits, Digit c) : value digits < 10 ^ digits.length := by
  induction digits with
  | nil => simp
  | cons c digits ih =>
    have hrest := ih (fun d hd => h d (mem_cons_of_mem c hd))
    have hdigit : c.toNat - 48 ≤ 9 := by
      have hc := h c mem_cons_self
      simp only [Digit] at hc
      omega
    rw [value_cons, length_cons, Nat.pow_succ']
    calc (c.toNat - 48) * 10 ^ digits.length + value digits
        < (c.toNat - 48) * 10 ^ digits.length + 10 ^ digits.length := Nat.add_lt_add_left hrest _
      _ = (c.toNat - 48 + 1) * 10 ^ digits.length := by ring
      _ ≤ 10 * 10 ^ digits.length := Nat.mul_le_mul_right _ (by omega)

/-! ### Numerals -/

theorem Numeral.digits (h : Numeral t) : ∀ c ∈ t, Digit c := by
  cases h with
  | zero => simp [Digit]
  | positive hhead hpos hrest => exact forall_mem_cons.mpr ⟨hhead, hrest⟩

theorem Numeral.ne_nil (h : Numeral t) : t ≠ [] := by
  cases h <;> simp

/-- Numerals are the non-empty digit strings without a zero in front of other digits. -/
theorem numeral_iff : Numeral t ↔ t ≠ [] ∧ (∀ c ∈ t, Digit c) ∧ ¬ (1 < t.length ∧ t.head? = some 48) := by
  constructor
  · intro h
    refine ⟨h.ne_nil, h.digits, ?_⟩
    cases h with
    | zero => simp
    | positive hhead hpos hrest => simp [hpos]
  · rintro ⟨hne, hdigits, hlead⟩
    cases t with
    | nil => exact absurd rfl hne
    | cons c rest =>
      obtain ⟨hhead, hrest⟩ := forall_mem_cons.mp hdigits
      by_cases hzero : c = 48
      · cases rest with
        | nil => rw [hzero]; exact .zero
        | cons d rest => simp [hzero] at hlead
      · exact .positive hhead hzero hrest

/-- A numeral of more than one digit has at least the value its length announces. -/
theorem Numeral.le_value (h : Numeral t) {k : Nat} (hlength : k + 1 < t.length) : 10 ^ (k + 1) ≤ value t := by
  cases h with
  | zero => simp at hlength
  | @positive c rest hhead hpos hrest =>
    have hne : c.toNat ≠ 48 := fun heq => hpos (UInt8.toNat.inj heq)
    have hdigit : 1 ≤ c.toNat - 48 := by
      simp only [Digit] at hhead
      omega
    rw [length_cons] at hlength
    calc 10 ^ (k + 1) ≤ 10 ^ rest.length := Nat.pow_le_pow_right (by decide) (by omega)
      _ ≤ (c.toNat - 48) * 10 ^ rest.length := Nat.le_mul_of_pos_left _ hdigit
      _ ≤ value (c :: rest) := by rw [value_cons]; exact Nat.le_add_right _ _

theorem value_lt_of_length_lt (ha : Numeral a) (hb : Numeral b) (h : a.length < b.length) : value a < value b := by
  obtain ⟨k, hk⟩ := Nat.exists_eq_succ_of_ne_zero (Nat.pos_iff_ne_zero.mp (length_pos_iff.mpr ha.ne_nil))
  calc value a < 10 ^ a.length := value_lt ha.digits
    _ = 10 ^ (k + 1) := by rw [hk]
    _ ≤ value b := hb.le_value (by omega)

/-- Digit strings of one length are ordered like their values. -/
theorem value_lt_of_lt (ha : ∀ c ∈ a, Digit c) (hb : ∀ c ∈ b, Digit c)
    (hlength : a.length = b.length) (h : a < b) : value a < value b := by
  induction a generalizing b with
  | nil =>
    rw [eq_nil_of_length_eq_zero hlength.symm] at h
    exact absurd h (lt_irrefl _)
  | cons c a ih =>
    cases b with
    | nil => cases hlength
    | cons d b =>
      obtain ⟨hc, haRest⟩ := forall_mem_cons.mp ha
      obtain ⟨hd, hbRest⟩ := forall_mem_cons.mp hb
      have hrest : a.length = b.length := by simpa using hlength
      rw [value_cons, value_cons, hrest]
      rcases cons_lt_cons_iff.mp h with hlt | ⟨rfl, hlt⟩
      · -- the first digit decides: the rest stays below its weight
        have hstep : c.toNat - 48 + 1 ≤ d.toNat - 48 := by
          have := UInt8.lt_iff_toNat_lt.mp hlt
          simp only [Digit] at hc
          omega
        calc (c.toNat - 48) * 10 ^ b.length + value a
            < (c.toNat - 48) * 10 ^ b.length + 10 ^ b.length :=
              Nat.add_lt_add_left (hrest ▸ value_lt haRest) _
          _ = (c.toNat - 48 + 1) * 10 ^ b.length := by ring
          _ ≤ (d.toNat - 48) * 10 ^ b.length := Nat.mul_le_mul_right _ hstep
          _ ≤ _ := Nat.le_add_right _ _
      · exact Nat.add_lt_add_left (ih haRest hbRest hrest hlt) _

/-- Length first, then digit by digit: the order of values. -/
theorem compares_value (ha : Numeral a) (hb : Numeral b) :
    ((compare a.length b.length).then (compare a b)).Compares (value a) (value b) := by
  rcases Nat.lt_trichotomy a.length b.length with hlt | heq | hgt
  · rw [Nat.compare_eq_lt.mpr hlt]
    exact value_lt_of_length_lt ha hb hlt
  · rw [Nat.compare_eq_eq.mpr heq]
    have hcompares := ThreeWay.compares_bytes a b
    rw [Ordering.then]
    cases hcompare : compare a b with
    | lt =>
      rw [hcompare] at hcompares
      exact value_lt_of_lt ha.digits hb.digits heq hcompares
    | eq =>
      rw [hcompare] at hcompares
      exact congrArg value hcompares
    | gt =>
      rw [hcompare] at hcompares
      exact value_lt_of_lt hb.digits ha.digits heq.symm hcompares
  · rw [Nat.compare_eq_gt.mpr hgt]
    exact value_lt_of_length_lt hb ha hgt

/-- A numeral is determined by its value. -/
theorem Numeral.eq_of_value_eq (ha : Numeral a) (hb : Numeral b) (h : value a = value b) : a = b := by
  have hcompares := compares_value ha hb
  have heq := hcompares.eq_eq.mpr h
  rw [Ordering.then_eq_eq] at heq
  exact (ThreeWay.compares_bytes a b).eq_eq.mp heq.2

/-! ### Reading -/

/-- The loop that reads digits into an accumulator, and stops at another character. -/
def accumulate {α : Type} (step : α → Nat → α) : List UInt8 → α → Option α
  | [], acc => some acc
  | c :: rest, acc => if c < 48 ∨ c > 57 then none else accumulate step rest (step acc (c.toNat - 48))

theorem accumulate_eq {α : Type} (step : α → Nat → α) (digits : List UInt8) (acc : α) : accumulate step digits acc =
      if ∀ c ∈ digits, Digit c then some (digits.foldl (fun acc c => step acc (c.toNat - 48)) acc) else none := by
  induction digits generalizing acc with
  | nil => simp [accumulate]
  | cons c digits ih =>
    have hdigit : Digit c ↔ ¬ (c < 48 ∨ c > 57) := by
      rw [Digit, not_or, not_lt, not_lt, UInt8.le_iff_toNat_le, UInt8.le_iff_toNat_le]
      rfl
    rw [accumulate, ih]
    simp only [forall_mem_cons, foldl_cons, hdigit]
    split <;> simp [*]

end Decimal
