/-
Module: Ocreg.Lib.MachineOrder
Purpose: Linear orders on fixed-width unsigned integers, and the first-difference order on lists of them.
-/
import Mathlib

instance instLinearOrderWord8 : LinearOrder UInt8 where
  le_refl a := UInt8.le_refl a
  le_trans _ _ _ := UInt8.le_trans
  le_antisymm _ _ := UInt8.le_antisymm
  le_total a b := UInt8.le_total a b
  lt_iff_le_not_ge a b := by grind
  toDecidableLE := inferInstance
  toDecidableLT := inferInstance
  toDecidableEq := inferInstance

instance instLinearOrderWord16 : LinearOrder UInt16 where
  le_refl a := UInt16.le_refl a
  le_trans _ _ _ := UInt16.le_trans
  le_antisymm _ _ := UInt16.le_antisymm
  le_total a b := UInt16.le_total a b
  lt_iff_le_not_ge a b := by grind
  toDecidableLE := inferInstance
  toDecidableLT := inferInstance
  toDecidableEq := inferInstance

instance instLinearOrderWord32 : LinearOrder UInt32 where
  le_refl a := UInt32.le_refl a
  le_trans _ _ _ := UInt32.le_trans
  le_antisymm _ _ := UInt32.le_antisymm
  le_total a b := UInt32.le_total a b
  lt_iff_le_not_ge a b := by grind
  toDecidableLE := inferInstance
  toDecidableLT := inferInstance
  toDecidableEq := inferInstance

instance instLinearOrderWord64 : LinearOrder UInt64 where
  le_refl a := UInt64.le_refl a
  le_trans _ _ _ := UInt64.le_trans
  le_antisymm _ _ := UInt64.le_antisymm
  le_total a b := UInt64.le_total a b
  lt_iff_le_not_ge a b := by grind
  toDecidableLE := inferInstance
  toDecidableLT := inferInstance
  toDecidableEq := inferInstance

-- The word types are finite, but a bounded quantifier over words is decided on the container it ranges over.
section Bounded

variable {α : Type} {p : α → Prop} [DecidablePred p]

instance (priority := high) forallMemOption (a : Option α) : Decidable (∀ x ∈ a, p x) :=
  Option.decidableForallMem a

instance (priority := high) existsMemOption (a : Option α) : Decidable (∃ x ∈ a, p x) :=
  Option.decidableExistsMem a

instance (priority := high) forallMemList (as : List α) : Decidable (∀ x ∈ as, p x) :=
  List.decidableBAll p as

end Bounded
