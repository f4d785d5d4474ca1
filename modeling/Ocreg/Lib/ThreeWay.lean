/-
Module: Ocreg.Lib.ThreeWay
Purpose: Three-way comparisons that decide a linear order, and how they compose.
-/
import Ocreg.Lib.MachineOrder

namespace ThreeWay

open List

section Compose

variable {α β : Type*} [LinearOrder α] [LinearOrder β]

/-- Comparing first parts, then second parts, decides the lexicographic order of pairs. -/
theorem compares_pair {first second : Ordering} {a a' : α} {b b' : β} (hfirst : first.Compares a a')
    (hsecond : a = a' → second.Compares b b') : (first.then second).Compares (toLex (a, b)) (toLex (a', b')) := by
  cases first with
  | lt | gt => exact Prod.Lex.toLex_lt_toLex.mpr (.inl hfirst)
  | eq =>
    cases hfirst
    have hrest := hsecond rfl
    cases second with
    | lt => exact Prod.Lex.toLex_lt_toLex.mpr (.inr ⟨rfl, hrest⟩)
    | eq => exact congrArg (fun b => toLex (a, b)) hrest
    | gt => exact Prod.Lex.toLex_lt_toLex.mpr (.inr ⟨rfl, hrest⟩)

/-- Comparing heads, then tails, decides the lexicographic order of lists. -/
theorem compares_cons {first rest : Ordering} {a a' : α} {as as' : List α} (hfirst : first.Compares a a')
    (hrest : rest.Compares as as') : (first.then rest).Compares (a :: as) (a' :: as') := by
  cases first with
  | lt | gt => exact cons_lt_cons_iff.mpr (.inl hfirst)
  | eq =>
    cases hfirst
    cases rest with
    | lt => exact cons_lt_cons_iff.mpr (.inr ⟨rfl, hrest⟩)
    | eq => exact congrArg (List.cons a) hrest
    | gt => exact cons_lt_cons_iff.mpr (.inr ⟨rfl, hrest⟩)

end Compose

theorem compares_word32 (a b : UInt32) : (compare a b).Compares a b := (compare_iff a b).mp rfl

/-- Byte strings compare byte by byte, a proper beginning first. -/
theorem compares_bytes (a b : List UInt8) : (compare a b).Compares a b := by
  induction a generalizing b with
  | nil =>
    cases b with
    | nil => rfl
    | cons d b => exact nil_lt_cons d b
  | cons c a ih =>
    cases b with
    | nil => exact nil_lt_cons c a
    | cons d b =>
      rw [List.compare_cons_cons]
      exact compares_cons ((compare_iff c d).mp rfl) (ih b)

end ThreeWay
