/-
Module: Ocreg.Core.Checked
Purpose: The integral types of the source language with their conversions, and the checked operations on them: a
  result is returned exactly when it is representable, and nothing overflows on the way. The narrowing refuses more.
-/
import Mathlib

namespace Ocreg

variable {cond Q : Prop} {test : Int → Prop} {next : Option (Option Int)} {bound : Int}

/-- An integral type of at most 64 bits. -/
structure IntType where
  signed : Bool
  bits : Nat
  bits_pos : 0 < bits
  bits_le : bits ≤ 64
deriving DecidableEq

namespace IntType

variable (T : IntType) {U : IntType} {x a b : Int}

/-- `numeric_limits<T>::min`. -/
def min : Int := if T.signed then -2 ^ (T.bits - 1) else 0

/-- `numeric_limits<T>::max`. -/
def max : Int := T.min + 2 ^ T.bits - 1

/-- Representable in the type. -/
def Holds (x : Int) : Prop := T.min ≤ x ∧ x ≤ T.max

instance : DecidablePred T.Holds := fun x => inferInstanceAs (Decidable (T.min ≤ x ∧ x ≤ T.max))

abbrev Value := { x : Int // T.Holds x }

/-- `static_cast<T>`: the value of the type that is congruent modulo `2 ^ bits`. -/
def cast (x : Int) : Int := (x - T.min) % 2 ^ T.bits + T.min

/-- Integral promotion, with an `int` of 32 bits. -/
def promote : IntType := if T.bits < 32 then ⟨true, 32, by decide, by decide⟩ else T

/-- `common_type_t`: the type itself, or what the usual arithmetic conversions give: the wider promoted type, and of
    two types of one width the unsigned one. -/
def commonType (A B : IntType) : IntType :=
  if A = B then A
  else if B.promote.bits < A.promote.bits ∨ B.promote.bits = A.promote.bits ∧ B.promote.signed then A.promote
  else B.promote

/-! ### Ranges -/

theorem two_pow_bits : (2 : Int) ^ T.bits = 2 * 2 ^ (T.bits - 1) := by
  rw [← pow_succ', Nat.sub_add_cancel T.bits_pos]

theorem cast_of_holds {T : IntType} (h : T.Holds x) : T.cast x = x := by
  obtain ⟨hmin, hmax⟩ := h
  rw [max] at hmax
  rw [cast, Int.emod_eq_of_lt (by omega) (by omega), sub_add_cancel]

/-- A wider type holds the values of a narrower one, up to the negative ones an unsigned type has not. -/
theorem Holds.widen {T : IntType} (h : T.Holds x) (hbits : T.bits ≤ U.bits)
    (hsigned : U.signed = true → T.signed = true ∨ T.bits < U.bits) (hlow : U.signed = true ∨ 0 ≤ x) : U.Holds x := by
  obtain ⟨hmin, hmax⟩ := h
  have hwide : (2 : Int) ^ T.bits ≤ 2 ^ U.bits := pow_le_pow_right₀ (by decide) hbits
  have hT := T.two_pow_bits
  have hU := U.two_pow_bits
  have hpos : (0 : Int) < 2 ^ (T.bits - 1) := by positivity
  rw [max] at hmax
  rw [Holds, max]
  cases hu : U.signed with
  | false =>
    have hzero : 0 ≤ x := hlow.resolve_left (by simp [hu])
    simp only [min, hu] at hmin hmax ⊢
    split at hmax <;> simp at hmax ⊢ <;> omega
  | true =>
    cases ht : T.signed with
    | true =>
      simp only [min, hu, ht, if_true] at hmin hmax ⊢
      omega
    | false =>
      have hnarrow : T.bits < U.bits := (hsigned hu).resolve_left (by simp [ht])
      have hhalf : (2 : Int) ^ T.bits ≤ 2 ^ (U.bits - 1) := pow_le_pow_right₀ (by decide) (by omega)
      simp only [min, hu, ht, if_true] at hmin hmax ⊢
      simp at hmin hmax
      omega

theorem Holds.promote {T : IntType} (h : T.Holds x) : T.promote.Holds x := by
  rw [IntType.promote]
  split
  next hbits => exact h.widen (Nat.le_of_lt hbits) (fun _ => .inr hbits) (.inl rfl)
  next => exact h

theorem Holds.common_left {A B : IntType} (h : A.Holds x) (hlow : (commonType A B).signed = true ∨ 0 ≤ x) :
    (commonType A B).Holds x := by
  rw [commonType] at hlow ⊢
  split at hlow
  next heq => rwa [if_pos heq]
  next hne =>
    rw [if_neg hne]
    split at hlow
    next hchosen => exact if_pos hchosen ▸ h.promote
    next hother =>
      rw [if_neg hother]
      exact h.promote.widen (by omega) (fun hs => .inr (by simp [hs] at hother; omega)) hlow

theorem Holds.common_right {A B : IntType} (h : B.Holds x) (hlow : (commonType A B).signed = true ∨ 0 ≤ x) :
    (commonType A B).Holds x := by
  rw [commonType] at hlow ⊢
  split at hlow
  next heq => rwa [if_pos heq, heq]
  next hne =>
    rw [if_neg hne]
    split at hlow
    next hchosen =>
      rw [if_pos hchosen]
      exact h.promote.widen (by omega) (fun _ => hchosen.symm.imp (·.2) id) hlow
    next hother => exact if_neg hother ▸ h.promote

/-! ### Checked operations -/

/-- Value of an arithmetic expression over the type, which is computed in the promoted type. Nothing when it
    overflows there. -/
def arith (x : Int) : Option Int := if T.promote.Holds x then some x else none

/-- A guard of the code: under `cond` the bound is computed, and refused with. The outer option is an overflow, the
    inner one a refusal. -/
def refuseIf (cond : Prop) [Decidable cond] (bound : Int) (test : Int → Prop) [DecidablePred test]
    (next : Option (Option Int)) : Option (Option Int) :=
  if cond then (T.arith bound).bind fun bound => if test bound then some none else next else next

/-- `out = static_cast<T>(…); return true`. -/
def result (x : Int) : Option (Option Int) := (T.arith x).map fun x => some (T.cast x)

def checkedAdd (a b : Int) : Option (Option Int) :=
  if T.signed then
    T.refuseIf (b > 0) (T.max - b) (fun bound => a > T.cast bound) <|
    T.refuseIf (b < 0) (T.min - b) (fun bound => a < T.cast bound) <|
    T.result (a + b)
  else T.refuseIf True (T.max - b) (fun bound => a > T.cast bound) (T.result (a + b))

def checkedSub (a b : Int) : Option (Option Int) :=
  if T.signed then
    T.refuseIf (b < 0) (T.max + b) (fun bound => a > T.cast bound) <|
    T.refuseIf (b > 0) (T.min + b) (fun bound => a < T.cast bound) <|
    T.result (a - b)
  else if a < b then some none
  else T.result (a - b)

def checkedMul (a b : Int) : Option (Option Int) :=
  if a = 0 ∨ b = 0 then some (some 0)
  else if T.signed then
    if a > 0 then
      if b > 0 then T.refuseIf True (T.max.tdiv b) (fun bound => a > bound) (T.result (a * b))
      else T.refuseIf True (T.min.tdiv a) (fun bound => b < bound) (T.result (a * b))
    else
      if b > 0 then T.refuseIf True (T.min.tdiv b) (fun bound => a < bound) (T.result (a * b))
      else T.refuseIf (a ≠ 0) (T.max.tdiv a) (fun bound => b < bound) (T.result (a * b))
  else T.refuseIf True (T.max.tdiv b) (fun bound => a > T.cast bound) (T.result (a * b))

def checkedDiv (a b : Int) : Option (Option Int) :=
  if b = 0 then some none
  else if T.signed ∧ a = T.min ∧ b = -1 then some none
  else T.result (a.tdiv b)

/-- What a checked operation is for: the exact result, or a refusal. -/
def exact (x : Int) : Option (Option Int) := some (if T.Holds x then some x else none)

variable {T}

theorem refuseIf_eq [Decidable cond] [DecidablePred test]
    (h : cond → T.Holds x) :
    T.refuseIf cond x test next = if cond ∧ test x then some none else next := by
  by_cases hcond : cond
  · simp [refuseIf, arith, hcond, (h hcond).promote]
  · simp [refuseIf, hcond]

/-- A guard that refuses exactly the results that miss `Q`, which is part of fitting the type. -/
theorem refuseIf_exact [Decidable cond] [DecidablePred test]
     (hbound : cond → T.Holds bound) (htest : cond → (test bound ↔ ¬ Q))
    (hskip : ¬ cond → Q) (hQ : T.Holds x → Q) (hnext : Q → next = T.exact x) :
    T.refuseIf cond bound test next = T.exact x := by
  rw [refuseIf_eq hbound]
  split
  next h => rw [exact, if_neg fun hx => (htest h.1).mp h.2 (hQ hx)]
  next h =>
    refine hnext ?_
    by_contra hfails
    have hcond : cond := by_contra fun hcond => hfails (hskip hcond)
    exact h ⟨hcond, (htest hcond).mpr hfails⟩

theorem result_eq (h : T.Holds x) : T.result x = T.exact x := by
  simp [result, arith, exact, h, h.promote, cast_of_holds h]

theorem min_le (T : IntType) : T.min ≤ 0 := by
  rw [min]
  split
  · have : (0 : Int) < 2 ^ (T.bits - 1) := by positivity
    omega
  · exact le_refl 0

theorem max_of_signed (h : T.signed = true) : T.max = -T.min - 1 ∧ T.min ≤ -1 := by
  have hbits := T.two_pow_bits
  have hpos : (0 : Int) < 2 ^ (T.bits - 1) := by positivity
  rw [max, min, if_pos h]
  omega

theorem min_of_unsigned (h : T.signed = false) : T.min = 0 ∧ 0 ≤ T.max := by
  have hpos : (0 : Int) < 2 ^ T.bits := by positivity
  simp only [max, min, h]
  simp
  omega

/-- The two guards of a signed sum or difference. -/
theorem guards_exact {high low : Prop} [Decidable high] [Decidable low] {hi lo : Int}
    (hhigh : high → T.Holds hi ∧ (a > hi ↔ ¬ x ≤ T.max)) (hlow : low → T.Holds lo ∧ (a < lo ↔ ¬ T.min ≤ x))
    (hnohigh : ¬ high → x ≤ T.max) (hnolow : ¬ low → T.min ≤ x) :
    T.refuseIf high hi (fun bound => a > T.cast bound) (T.refuseIf low lo (fun bound => a < T.cast bound) (T.result x)) =
      T.exact x := by
  refine refuseIf_exact (fun h => (hhigh h).1) (fun h => ?_) hnohigh (·.2) fun hmax =>
    refuseIf_exact (fun h => (hlow h).1) (fun h => ?_) hnolow (·.1) fun hmin => result_eq ⟨hmin, hmax⟩
  · rw [cast_of_holds (hhigh h).1]
    exact (hhigh h).2
  · rw [cast_of_holds (hlow h).1]
    exact (hlow h).2

theorem max_nonneg (T : IntType) : 0 ≤ T.max := by
  cases hs : T.signed with
  | true =>
    have hmax := max_of_signed hs
    omega
  | false => exact (min_of_unsigned hs).2

theorem checkedAdd_exact (ha : T.Holds a) (hb : T.Holds b) : T.checkedAdd a b = T.exact (a + b) := by
  unfold Holds at ha hb
  rw [checkedAdd]
  split
  next hs =>
    obtain ⟨hmax, hmin⟩ := max_of_signed hs
    exact guards_exact (fun h => ⟨⟨by omega, by omega⟩, by omega⟩) (fun h => ⟨⟨by omega, by omega⟩, by omega⟩)
      (by omega) (by omega)
  next hs =>
    have hmin := min_of_unsigned (Bool.eq_false_of_not_eq_true hs)
    have hbound : T.Holds (T.max - b) := ⟨by omega, by omega⟩
    refine refuseIf_exact (fun _ => hbound) (fun _ => ?_) (absurd trivial) (·.2) fun hmax => result_eq ⟨by omega, hmax⟩
    rw [cast_of_holds hbound]
    omega

theorem checkedSub_exact (ha : T.Holds a) (hb : T.Holds b) : T.checkedSub a b = T.exact (a - b) := by
  unfold Holds at ha hb
  rw [checkedSub]
  split
  next hs =>
    obtain ⟨hmax, hmin⟩ := max_of_signed hs
    exact guards_exact (fun h => ⟨⟨by omega, by omega⟩, by omega⟩) (fun h => ⟨⟨by omega, by omega⟩, by omega⟩)
      (by omega) (by omega)
  next hs =>
    have hmin := min_of_unsigned (Bool.eq_false_of_not_eq_true hs)
    split
    next hlt => rw [exact, if_neg fun h => absurd h.1 (by omega)]
    next => exact result_eq ⟨by omega, by omega⟩

/-- A product is above a bound when a factor is above the quotient. -/
theorem tdiv_lt_iff {m p q : Int} (hm : 0 ≤ m) (hq : 0 < q) : m.tdiv q < p ↔ m < p * q := by
  rw [Int.tdiv_eq_ediv_of_nonneg hm, Int.ediv_lt_iff_lt_mul hq]

theorem tdiv_mem {m q : Int} (hm : 0 ≤ m) (hq : 0 < q) : 0 ≤ m.tdiv q ∧ m.tdiv q ≤ m := by
  rw [Int.tdiv_eq_ediv_of_nonneg hm]
  exact ⟨Int.ediv_nonneg hm (le_of_lt hq), Int.ediv_le_self q hm⟩

/-- A guard of a product, which computes its bound for two factors of known signs. -/
theorem product_exact [Decidable cond] [DecidablePred test]
    (hcond : cond) (hbound : T.Holds bound) (htest : test bound ↔ ¬ Q) (hQ : T.Holds x → Q) (hfits : Q → T.Holds x) :
    T.refuseIf cond bound test (T.result x) = T.exact x :=
  refuseIf_exact (fun _ => hbound) (fun _ => htest) (absurd hcond) hQ fun h => result_eq (hfits h)

theorem negative_exact [Decidable cond] {m p q : Int} (hcond : cond) (hm : 0 ≤ m)
    (hmin : m ≤ -T.min) (hq : 0 < q) (htest : m < -p * q ↔ ¬ Q) (hQ : T.Holds x → Q) (hfits : Q → T.Holds x) :
    T.refuseIf cond (-m.tdiv q) (fun bound => p < bound) (T.result x) = T.exact x := by
  have hmem := tdiv_mem hm hq
  have hmax := T.max_nonneg
  refine product_exact hcond ⟨by omega, by omega⟩ ?_ hQ hfits
  rw [lt_neg, tdiv_lt_iff hm hq, htest]

theorem checkedMul_exact (ha : T.Holds a) (hb : T.Holds b) : T.checkedMul a b = T.exact (a * b) := by
  unfold Holds at ha hb
  have hlow := T.min_le
  have hhigh := T.max_nonneg
  rw [checkedMul]
  split
  next h =>
    have hproduct : a * b = 0 := mul_eq_zero.mpr h
    rw [hproduct, exact, if_pos ⟨hlow, hhigh⟩]
  next hne =>
    obtain ⟨ha0, hb0⟩ := not_or.mp hne
    split
    next hs =>
      obtain ⟨hmax, hmin⟩ := max_of_signed hs
      have hmirror : ∀ q, T.min.tdiv q = -(-T.min).tdiv q := fun q => by rw [Int.neg_tdiv, neg_neg]
      split
      next hpos =>
        split
        next hpos' =>
          have hq := tdiv_mem hhigh hpos'
          exact product_exact trivial ⟨by omega, hq.2⟩ ((tdiv_lt_iff hhigh hpos').trans not_le.symm) (·.2)
            fun h => ⟨by nlinarith, h⟩
        next hneg =>
          rw [hmirror]
          refine negative_exact trivial (by omega) (le_refl _) hpos ?_ (·.1) fun h => ⟨h, by nlinarith⟩
          rw [neg_mul, mul_comm b a]
          omega
      next hneg =>
        split
        next hpos =>
          rw [hmirror]
          refine negative_exact trivial (by omega) (le_refl _) hpos ?_ (·.1) fun h => ⟨h, by nlinarith⟩
          rw [neg_mul]
          omega
        next hneg' =>
          rw [← neg_neg a, Int.tdiv_neg, neg_neg]
          refine negative_exact (by omega) hhigh (by omega) (by omega) ?_ (·.2) fun h => ⟨by nlinarith, h⟩
          rw [neg_mul_neg, mul_comm b a]
          omega
    next hs =>
      have hmin := min_of_unsigned (Bool.eq_false_of_not_eq_true hs)
      have hpos : 0 < b := by omega
      have hbound : T.Holds (T.max.tdiv b) := ⟨by have := tdiv_mem hhigh hpos; omega, (tdiv_mem hhigh hpos).2⟩
      refine product_exact trivial hbound ?_ (·.2) fun h => ⟨by nlinarith, h⟩
      rw [cast_of_holds hbound]
      exact (tdiv_lt_iff hhigh hpos).trans not_le.symm

/-- A quotient leaves the type in one case only. -/
theorem checkedDiv_exact (ha : T.Holds a) (hb : T.Holds b) :
    T.checkedDiv a b = if b = 0 then some none else T.exact (a.tdiv b) := by
  unfold Holds at ha hb
  rw [checkedDiv]
  split
  next => rfl
  next hb0 =>
    split
    next h =>
      obtain ⟨hs, rfl, rfl⟩ := h
      have hmax := max_of_signed hs
      rw [exact, if_neg fun h => absurd h.2 (by rw [Int.tdiv_neg, Int.tdiv_one]; omega)]
    next h =>
      refine result_eq ?_
      by_cases hunit : b.natAbs = 1
      · rcases Int.natAbs_eq_iff.mp hunit with rfl | rfl
        · rw [Nat.cast_one, Int.tdiv_one]
          exact ha
        · rw [Nat.cast_one, Int.tdiv_neg, Int.tdiv_one]
          have hs : T.signed = true := by
            by_contra hs
            have hmin := min_of_unsigned (Bool.eq_false_of_not_eq_true hs)
            omega
          have hmax := max_of_signed hs
          have hne : a ≠ T.min := fun heq => h ⟨hs, heq, rfl⟩
          exact ⟨by omega, by omega⟩
      · have habs : (a.tdiv b).natAbs ≤ a.natAbs / 2 :=
          (Int.natAbs_tdiv a b).trans_le (Nat.div_le_div_left (by omega) (by decide))
        cases hs : T.signed with
        | true =>
          have hmax := max_of_signed hs
          exact ⟨by omega, by omega⟩
        | false =>
          have hmin := min_of_unsigned hs
          have hquotient : 0 ≤ a.tdiv b := Int.tdiv_nonneg (by omega) (by omega)
          exact ⟨by omega, by omega⟩

/-- For every type and all operands: a checked operation refuses exactly the results that are not representable, returns
    the others exactly, and no expression it computes overflows. -/
theorem checked_operations_exact (T : IntType) (a b : T.Value) :
    T.checkedAdd a b = T.exact (a + b) ∧ T.checkedSub a b = T.exact (a - b) ∧ T.checkedMul a b = T.exact (a * b) ∧
    T.checkedDiv a b = if b.1 = 0 then some none else T.exact (a.1.tdiv b) :=
  ⟨checkedAdd_exact a.2 b.2, checkedSub_exact a.2 b.2, checkedMul_exact a.2 b.2, checkedDiv_exact a.2 b.2⟩

/-! ### Narrowing -/

def checkedNarrow (To From : IntType) (value : Int) : Option Int :=
  if From.signed ∧ ¬ To.signed ∧ value < 0 then none
  else
    let common := commonType To From
    if common.cast value < common.cast To.min then none
    else if common.cast value > common.cast To.max then none
    else some (To.cast value)

theorem min_holds (T : IntType) : T.Holds T.min := ⟨le_refl _, T.min_le.trans T.max_nonneg⟩

theorem max_holds (T : IntType) : T.Holds T.max := ⟨T.min_le.trans T.max_nonneg, le_refl _⟩

/-- Where the common type holds what it compares, the narrowing is exact. -/
theorem checkedNarrow_of_holds {To From : IntType} (hvalue : (commonType To From).Holds x)
    (hmin : (commonType To From).Holds To.min) (hsign : ¬ To.signed → 0 ≤ x) :
    checkedNarrow To From x = if To.Holds x then some x else none := by
  have hmax := To.max_holds.common_left (B := From) (.inr To.max_nonneg)
  rw [checkedNarrow, if_neg fun h => absurd h.2.2 (not_lt.mpr (hsign h.2.1))]
  dsimp only
  rw [cast_of_holds hvalue, cast_of_holds hmin, cast_of_holds hmax]
  by_cases hfits : To.Holds x
  · rw [if_neg (not_lt.mpr hfits.1), if_neg (not_lt.mpr hfits.2), if_pos hfits, cast_of_holds hfits]
  · rw [if_neg hfits]
    split
    · rfl
    · split
      · rfl
      · next hlow hhigh => exact absurd ⟨not_lt.mp hlow, not_lt.mp hhigh⟩ hfits

theorem le_commonType (A B : IntType) : A.bits ≤ (commonType A B).bits := by
  have hpromote : A.bits ≤ A.promote.bits := by
    rw [promote]
    split
    next h => exact Nat.le_of_lt h
    next => exact le_refl _
  rw [commonType]
  split_ifs <;> omega

theorem commonType_signed {A B : IntType} (ha : A.signed = true) (hb : B.signed = true) :
    (commonType A B).signed = true := by
  have hpromote : ∀ T : IntType, T.signed = true → T.promote.signed = true := by
    intro T h
    rw [promote]
    split_ifs <;> simp [h]
  rw [commonType]
  split_ifs <;> simp [ha, hpromote _ ha, hpromote _ hb]

/-- An unsigned common type turns a negative minimum into a bound that no representable value reaches. -/
theorem checkedNarrow_of_wrapped {To From : IntType} (hto : To.signed = true)
    (hcommon : (commonType To From).signed = false) (h : From.Holds x) (hx : 0 ≤ x) : checkedNarrow To From x = none := by
  have hlimits := max_of_signed hto
  have hzero := min_of_unsigned hcommon
  have hpow : (2 : Int) ^ To.bits ≤ 2 ^ (commonType To From).bits := pow_le_pow_right₀ (by decide) (le_commonType ..)
  have hspan : To.max = To.min + 2 ^ To.bits - 1 := rfl
  have hwrapped : (commonType To From).cast To.min = 2 ^ (commonType To From).bits + To.min := by
    rw [cast, hzero.1, Int.sub_zero, Int.add_zero, Int.emod_eq_add_self_emod, Int.emod_eq_of_lt (by omega) (by omega)]
    omega
  rw [checkedNarrow, if_neg fun h => h.2.1 hto]
  dsimp only
  rw [cast_of_holds (h.common_right (.inr hx)), hwrapped,
    cast_of_holds (To.max_holds.common_left (.inr To.max_nonneg))]
  split
  · rfl
  · exact if_pos (by omega)

/-- The narrowing is exact except where the target is signed and the common type is not: there it refuses every value,
    also the representable ones. -/
theorem checkedNarrow_exact_iff (To From : IntType) (value : From.Value) :
    checkedNarrow To From value = (if To.Holds value then some value.1 else none) ↔
      ¬ (To.signed = true ∧ (commonType To From).signed = false ∧ To.Holds value) := by
  obtain ⟨x, hx⟩ := value
  dsimp only
  cases hto : To.signed with
  | false =>
    have hmin := min_of_unsigned hto
    refine iff_of_true ?_ (by simp)
    by_cases hneg : x < 0
    · have hfrom : From.signed = true := by
        by_contra hfrom
        have hzero := min_of_unsigned (Bool.eq_false_of_not_eq_true hfrom)
        exact absurd hx.1 (by omega)
      rw [checkedNarrow, if_pos ⟨hfrom, by simp [hto], hneg⟩, if_neg fun h => absurd h.1 (by omega)]
    · have hpos := not_lt.mp hneg
      exact checkedNarrow_of_holds (hx.common_right (.inr hpos)) (To.min_holds.common_left (.inr (by omega)))
        fun _ => hpos
  | true =>
    cases hcommon : (commonType To From).signed with
    | true =>
      refine iff_of_true ?_ (by simp)
      exact checkedNarrow_of_holds (hx.common_right (.inl hcommon)) (To.min_holds.common_left (.inl hcommon))
        fun h => absurd hto h
    | false =>
      have hfrom : From.signed = false := by
        by_contra hfrom
        simp [commonType_signed hto (Bool.eq_true_of_not_eq_false hfrom)] at hcommon
      rw [checkedNarrow_of_wrapped hto hcommon hx ((min_of_unsigned hfrom).1.symm.trans_le hx.1)]
      simp

/-- Narrowing an unsigned five to the signed type of the same width. -/
theorem checkedNarrow_refuses_five :
    let int64 : IntType := ⟨true, 64, by decide, by decide⟩
    let uint64 : IntType := ⟨false, 64, by decide, by decide⟩
    uint64.Holds 5 ∧ int64.Holds 5 ∧ checkedNarrow int64 uint64 5 = none := by
  decide +kernel

end IntType

end Ocreg
