/-
Module: Ocreg.Lib.Crc
Purpose: Reflected cyclic redundancy checks on words of any width: shift steps are linear and, for a polynomial
  with its top bit set, injective; a table over the low bits replaces a run of steps; one changed symbol is
  always noticed.
-/
import Mathlib

namespace Crc

open List

variable {w : Nat} {poly s : BitVec w} {count : Nat}

/-- One shift of the remainder. -/
def step (poly c : BitVec w) : BitVec w := if c.getLsbD 0 then (c >>> 1) ^^^ poly else c >>> 1

def steps (poly : BitVec w) : Nat → BitVec w → BitVec w
  | 0, c => c
  | count + 1, c => steps poly count (step poly c)

/-! ### Linearity -/

theorem step_xor (poly a b : BitVec w) : step poly (a ^^^ b) = step poly a ^^^ step poly b := by
  simp only [step, BitVec.getLsbD_xor, BitVec.ushiftRight_xor_distrib]
  cases a.getLsbD 0 <;> cases b.getLsbD 0
  · simp
  · simp [BitVec.xor_assoc]
  · simp [BitVec.xor_assoc, BitVec.xor_comm poly]
  · have hcancel : poly ^^^ (b >>> 1 ^^^ poly) = b >>> 1 := by
      rw [BitVec.xor_comm (b >>> 1), ← BitVec.xor_assoc, BitVec.xor_self, BitVec.zero_xor]
    simp [BitVec.xor_assoc, hcancel]

theorem steps_xor (poly : BitVec w) (count : Nat) (a b : BitVec w) :
    steps poly count (a ^^^ b) = steps poly count a ^^^ steps poly count b := by
  induction count generalizing a b with
  | zero => rfl
  | succ count ih => rw [steps, steps, steps, step_xor, ih]

/-- A remainder with clear low bits only moves down. -/
theorem steps_of_clear (poly : BitVec w) {c : BitVec w} (h : ∀ i < count, c.getLsbD i = false) :
    steps poly count c = c >>> count := by
  induction count generalizing c with
  | zero => simp [steps]
  | succ count ih =>
    have hstep : step poly c = c >>> 1 := if_neg (by simp [h 0 (Nat.zero_lt_succ _)])
    rw [steps, hstep, ih]
    · rw [← BitVec.shiftRight_add, Nat.add_comm]
    · intro i hi
      rw [BitVec.getLsbD_ushiftRight]
      exact h _ (by omega)

/-- A run of steps is the table's entry for the low bits, and the rest moved down. -/
theorem steps_eq_table (poly : BitVec w) {mask : BitVec w}
    (hmask : ∀ i < w, mask.getLsbD i = decide (i < count)) (c : BitVec w) :
    steps poly count c = steps poly count (c &&& mask) ^^^ (c >>> count) := by
  have hsplit : c = (c &&& mask) ^^^ (c &&& ~~~mask) := by
    apply BitVec.eq_of_getLsbD_eq
    intro i hi
    simp only [BitVec.getLsbD_xor, BitVec.getLsbD_and, BitVec.getLsbD_not, hi, decide_true, Bool.true_and]
    cases c.getLsbD i <;> cases mask.getLsbD i <;> rfl
  have hclear : ∀ i < count, (c &&& ~~~mask).getLsbD i = false := by
    intro i hi
    rw [BitVec.getLsbD_and, BitVec.getLsbD_not]
    by_cases hw : i < w
    · simp [hmask i hw, hi]
    · simp [hw]
  have hshift : (c &&& ~~~mask) >>> count = c >>> count := by
    apply BitVec.eq_of_getLsbD_eq
    intro i hi
    rw [BitVec.getLsbD_ushiftRight, BitVec.getLsbD_ushiftRight, BitVec.getLsbD_and, BitVec.getLsbD_not]
    by_cases hw : count + i < w
    · rw [hmask _ hw]
      simp
      exact fun _ => hw
    · simp [hw, BitVec.getLsbD_of_ge c (count + i) (Nat.le_of_not_lt hw)]
  calc steps poly count c = steps poly count ((c &&& mask) ^^^ (c &&& ~~~mask)) := by rw [← hsplit]
    _ = _ := by rw [steps_xor, steps_of_clear poly hclear, hshift]

/-! ### Injectivity -/

/-- The top bit of a step is the bit that was shifted out. -/
theorem msb_step (h : poly.msb = true) (c : BitVec w) : (step poly c).msb = c.getLsbD 0 := by
  have hwidth : 0 < w := by
    rcases Nat.eq_zero_or_pos w with rfl | hpos
    · simp [BitVec.msb_eq_getLsbD_last] at h
    · exact hpos
  have hshift : (c >>> 1).msb = false := by
    rw [BitVec.msb_eq_getLsbD_last, BitVec.getLsbD_ushiftRight]
    exact BitVec.getLsbD_of_ge c _ (by omega)
  rw [step]
  cases c.getLsbD 0 <;> simp [hshift, h]

theorem step_injective (h : poly.msb = true) : Function.Injective (step poly) := by
  intro a b heq
  have hlow : a.getLsbD 0 = b.getLsbD 0 := by rw [← msb_step h a, ← msb_step h b, heq]
  have hrest : a >>> 1 = b >>> 1 := by
    simp only [step, hlow] at heq
    split at heq
    · exact (BitVec.xor_left_inj poly).mp heq
    · exact heq
  apply BitVec.eq_of_getLsbD_eq
  intro i hi
  cases i with
  | zero => exact hlow
  | succ i =>
    have hbit := congrArg (fun c => c.getLsbD i) hrest
    simpa [Nat.add_comm] using hbit

theorem steps_injective (h : poly.msb = true) (count : Nat) : Function.Injective (steps poly count) := by
  induction count with
  | zero => exact Function.injective_id
  | succ count ih => exact ih.comp (step_injective h)

/-! ### One changed symbol -/

section Fold

variable {σ α : Type*} {update : σ → α → σ}

theorem foldl_injective (hstate : ∀ symbol, Function.Injective (update · symbol)) (symbols : List α) :
    Function.Injective (symbols.foldl update) := by
  induction symbols with
  | nil => exact Function.injective_id
  | cons symbol symbols ih => exact fun a b heq => hstate symbol (ih heq)

/-- A fold that is injective in the state and in the symbol notices one changed symbol. -/
theorem foldl_set_ne (hstate : ∀ symbol, Function.Injective (update · symbol))
    (hsymbol : ∀ state, Function.Injective (update state)) {symbols : List α} {position : Nat} {symbol : α}
    (hposition : position < symbols.length) (hchanged : symbols[position]? ≠ some symbol) (start : σ) :
    (symbols.set position symbol).foldl update start ≠ symbols.foldl update start := by
  induction symbols generalizing position start with
  | nil => exact absurd hposition (Nat.not_lt_zero _)
  | cons first symbols ih =>
    cases position with
    | zero =>
      intro heq
      have hsame := hsymbol start (foldl_injective hstate symbols heq)
      exact hchanged (congrArg some hsame.symm)
    | succ position =>
      exact ih (Nat.lt_of_succ_lt_succ hposition) hchanged (update start first)

end Fold

/-! ### One bit at a time -/

/-- The division takes one bit of the message: it is mixed into the low end, and the remainder shifts. -/
def feed (poly c : BitVec w) (bit : Bool) : BitVec w := step poly (c ^^^ (BitVec.ofBool bit).setWidth w)

theorem mix_ushiftRight (c : BitVec w) (bit : Bool) : (c ^^^ (BitVec.ofBool bit).setWidth w) >>> 1 = c >>> 1 := by
  apply BitVec.eq_of_getLsbD_eq
  intro i hi
  simp [BitVec.getLsbD_ushiftRight]

theorem feed_injective (h : poly.msb = true) (bit : Bool) : Function.Injective (feed poly · bit) :=
  fun _ _ heq => (BitVec.xor_left_inj _).mp (step_injective h heq)

/-- Feeding the low bits of a word, least significant first, is mixing in the word and shifting. -/
theorem foldl_feed (poly c x : BitVec w) (count : Nat) :
    ((range count).map x.getLsbD).foldl (feed poly) c = steps poly count (c ^^^ x) ^^^ x >>> count := by
  induction count generalizing c x with
  | zero => simp [steps]
  | succ count ih =>
    have hbits : (range (count + 1)).map x.getLsbD = x.getLsbD 0 :: (range count).map (x >>> 1).getLsbD := by
      rw [range_succ_eq_map, map_cons, map_map]
      congr 2
      funext i
      simp [Nat.add_comm]
    have hclear : step poly (x ^^^ (BitVec.ofBool (x.getLsbD 0)).setWidth w) = x >>> 1 := by
      rw [step, if_neg, mix_ushiftRight]
      rcases Nat.eq_zero_or_pos w with rfl | hpos <;> simp [*]
    have hstep : step poly (c ^^^ x) = feed poly c (x.getLsbD 0) ^^^ x >>> 1 := by
      rw [← hclear, feed, ← step_xor, BitVec.xor_comm x, ← BitVec.xor_assoc, BitVec.xor_assoc c, BitVec.xor_self,
        BitVec.xor_zero]
    rw [hbits, foldl_cons, ih, steps, hstep, ← BitVec.shiftRight_add, Nat.add_comm 1]

/-- Two registers that agree from bit `j` on after a bit was fed took the same feedback, and agreed one bit further up
    before. -/
theorem feed_agree {t : BitVec w} {a b : Bool} {j : Nat} (h : poly.msb = true) (hj : j < w)
    (heq : feed poly s a >>> j = feed poly t b >>> j) :
    (s ^^^ (BitVec.ofBool a).setWidth w).getLsbD 0 = (t ^^^ (BitVec.ofBool b).setWidth w).getLsbD 0 ∧
      s >>> (1 + j) = t >>> (1 + j) := by
  have htop := congrArg (fun c => c.getLsbD (w - 1 - j)) heq
  simp only [BitVec.getLsbD_ushiftRight, show j + (w - 1 - j) = w - 1 by omega, ← BitVec.msb_eq_getLsbD_last] at htop
  rw [feed, feed, msb_step h, msb_step h] at htop
  refine ⟨htop, ?_⟩
  rw [feed, feed, step, step, htop, mix_ushiftRight, mix_ushiftRight] at heq
  rw [BitVec.shiftRight_add, BitVec.shiftRight_add]
  split at heq
  · rw [BitVec.ushiftRight_xor_distrib, BitVec.ushiftRight_xor_distrib] at heq
    exact (BitVec.xor_left_inj _).mp heq
  · exact heq

section

variable {v u : List Bool} (h : poly.msb = true) (hlength : u.length = v.length)

include h hlength

theorem foldl_feed_agree {t : BitVec w} (hw : u.length ≤ w) (heq : u.foldl (feed poly) s = v.foldl (feed poly) t) :
    s >>> u.length = t >>> u.length := by
  induction u generalizing v s t with
  | nil =>
    rw [eq_nil_of_length_eq_zero hlength.symm] at heq
    have hsame : s = t := heq
    rw [hsame]
  | cons a u ih =>
    cases v with
    | nil => cases hlength
    | cons b v =>
      rw [length_cons, Nat.add_comm]
      exact (feed_agree h hw (ih (Nat.succ.inj hlength) (Nat.le_of_succ_le hw) heq)).2

/-- From one remainder, different bits of at most the width lead to different remainders. -/
theorem foldl_feed_injective (hw : u.length ≤ w) (heq : u.foldl (feed poly) s = v.foldl (feed poly) s) : u = v := by
  induction u generalizing v s with
  | nil => exact (eq_nil_of_length_eq_zero hlength.symm).symm
  | cons a u ih =>
    cases v with
    | nil => cases hlength
    | cons b v =>
      have hrest := foldl_feed_agree h (Nat.succ.inj hlength) (Nat.le_of_succ_le hw) heq
      have hbit := (feed_agree h hw hrest).1
      have hsame : a = b := by simpa [Nat.lt_of_lt_of_le (Nat.zero_lt_succ _) hw] using hbit
      subst hsame
      rw [ih (Nat.succ.inj hlength) (Nat.le_of_succ_le hw) heq]

/-- Two messages that differ only in a window of the width have different remainders. -/
theorem foldl_feed_window {k : Nat} (hwindow : ∀ i, i < k ∨ k + w ≤ i → u[i]? = v[i]?)
    (heq : u.foldl (feed poly) s = v.foldl (feed poly) s) : u = v := by
  have hfront : u.take k = v.take k := by
    apply ext_getElem?
    intro i
    rw [getElem?_take, getElem?_take]
    split
    next hi => exact hwindow i (.inl hi)
    next => rfl
  have hback : (u.drop k).drop w = (v.drop k).drop w := by
    apply ext_getElem?
    intro i
    rw [drop_drop, drop_drop, getElem?_drop, getElem?_drop]
    exact hwindow _ (.inr (by omega))
  have hsplit : ∀ m : List Bool, m = m.take k ++ ((m.drop k).take w ++ (m.drop k).drop w) := by
    intro m
    rw [take_append_drop, take_append_drop]
  rw [hsplit u, hsplit v, hfront, hback] at heq
  simp only [foldl_append] at heq
  have hmiddle := foldl_feed_injective h (by simp [hlength]) (by simp) (foldl_injective (feed_injective h) _ heq)
  rw [hsplit u, hsplit v, hfront, hmiddle, hback]

end

end Crc
