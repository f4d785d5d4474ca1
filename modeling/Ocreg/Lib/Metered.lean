/-
Module: Ocreg.Lib.Metered
Purpose: Decoders that count what they create, and bounds on the count by the bytes consumed.
-/
import Ocreg.Lib.Codec

/-- A decoder with a meter: the result, and how many elements were created on the way to it. -/
structure Metered (ε α : Type) where
  run : Bytes → Except ε (α × Bytes) × Nat

namespace Metered

open List

variable {ε α β : Type}

variable {d : Metered ε α}

instance : Monad (Metered ε) where
  pure a := ⟨fun input => (.ok (a, input), 0)⟩
  bind d f := ⟨fun input =>
    match d.run input with
    | (.ok (a, rest), created) => (((f a).run rest).1, created + ((f a).run rest).2)
    | (.error e, created) => (.error e, created)⟩

/-- The decoder without its meter. -/
def erase (d : Metered ε α) : Decoder ε α := ⟨fun input => (d.run input).1⟩

/-- Elements created on an input, whatever the result. -/
def created (d : Metered ε α) (input : Bytes) : Nat := (d.run input).2

/-- A decoder that creates no elements. -/
def lift (d : Decoder ε α) : Metered ε α := ⟨fun input => (d.run input, 0)⟩

/-- Create elements at once. -/
def create (count : Nat) : Metered ε Unit := ⟨fun input => (.ok ((), input), count)⟩

/-- Run a decoder `count` times. -/
def times (d : Metered ε α) : Nat → Metered ε (List α)
  | 0 => pure []
  | count + 1 => do
    let a ← d
    let rest ← times d count
    pure (a :: rest)

/-! ### Erasure -/

theorem decoder_bind_assoc {γ : Type} (d : Decoder ε α) (f : α → Decoder ε β) (g : β → Decoder ε γ) :
    (d >>= f) >>= g = d >>= fun a => f a >>= g := by
  apply congrArg Decoder.mk
  funext input
  simp only [Decoder.run_bind]
  rcases d.run input with e | ⟨a, rest⟩ <;> rfl

@[simp] theorem erase_pure (a : α) : erase (pure a : Metered ε α) = pure a := rfl

@[simp] theorem erase_lift (d : Decoder ε α) : erase (lift d) = d := rfl

@[simp] theorem erase_create_bind (count : Nat) (f : Unit → Decoder ε β) : (erase (create count) >>= f) = f () := rfl

@[simp] theorem erase_bind (d : Metered ε α) (f : α → Metered ε β) :
    erase (d >>= f) = erase d >>= fun a => erase (f a) := by
  apply congrArg Decoder.mk
  funext input
  simp only [bind, erase]
  rcases d.run input with ⟨_ | ⟨a, rest⟩, created⟩ <;> rfl

@[simp] theorem erase_times (d : Metered ε α) (count : Nat) : erase (times d count) = repeatN (erase d) count := by
  induction count with
  | zero => rfl
  | succ count ih => simp [times, repeatN, ih]

/-! ### What is created along a sequence -/

theorem created_bind_of_ok (f : α → Metered ε β) {input mid : Bytes} {a : α}
    (h : d.erase.run input = .ok (a, mid)) : (d >>= f).created input = d.created input + (f a).created mid := by
  simp only [created, erase, Bind.bind] at h ⊢
  rcases hrun : d.run input with ⟨result, count⟩
  rw [hrun] at h
  cases h
  rfl

theorem created_bind_of_error (f : α → Metered ε β) {input : Bytes} {e : ε}
    (h : d.erase.run input = .error e) : (d >>= f).created input = d.created input := by
  simp only [created, erase, Bind.bind] at h ⊢
  rcases hrun : d.run input with ⟨result, count⟩
  rw [hrun] at h
  cases h
  rfl

/-! ### Bounds -/

/-- With `credit` in hand, at most `rate` elements more are created for each byte consumed. A refused input counts
    as consumed. A class, so that the bound of a sequence is found from those of its parts. -/
class Allots (rate credit : Nat) (d : Metered ε α) : Prop where
  accepted : ∀ {input a rest}, d.erase.run input = .ok (a, rest) →
    ∃ used, input = used ++ rest ∧ d.created input ≤ credit + rate * used.length
  refused : ∀ {input e}, d.erase.run input = .error e → d.created input ≤ credit + rate * input.length

variable {rate credit : Nat}

/-- In every case the whole input pays. -/
theorem Allots.created_le (h : Allots rate credit d) (input : Bytes) :
    d.created input ≤ credit + rate * input.length := by
  cases hrun : d.erase.run input with
  | error e => exact h.refused hrun
  | ok result =>
    obtain ⟨used, rfl, hle⟩ := h.accepted hrun
    have hmore : rate * used.length ≤ rate * (used ++ result.2).length := by
      rw [length_append]
      exact Nat.mul_le_mul_left rate (Nat.le_add_right _ _)
    omega

/-- Sequencing: what the first decoder leaves of the credit, with what it earned, is the credit of the second. -/
theorem Allots.sequence {f : α → Metered ε β}
    (haccepted : ∀ {input a rest}, d.erase.run input = .ok (a, rest) → ∃ used left, input = used ++ rest ∧
      d.created input + left ≤ credit + rate * used.length ∧ Allots rate left (f a))
    (hrefused : ∀ {input e}, d.erase.run input = .error e → d.created input ≤ credit + rate * input.length) :
    Allots rate credit (d >>= f) where
  accepted := by
    intro input b rest hrun
    rw [erase_bind] at hrun
    obtain ⟨a, mid, hfirst, hsecond⟩ := Decoder.bind_eq_ok hrun
    obtain ⟨used, left, rfl, hle, hf⟩ := haccepted hfirst
    obtain ⟨more, rfl, hmore⟩ := hf.accepted hsecond
    refine ⟨used ++ more, (append_assoc _ _ _).symm, ?_⟩
    rw [created_bind_of_ok f hfirst, length_append, Nat.mul_add]
    omega
  refused := by
    intro input e hrun
    cases hfirst : d.erase.run input with
    | error e' =>
      rw [created_bind_of_error f hfirst]
      exact hrefused hfirst
    | ok result =>
      obtain ⟨used, left, rfl, hle, hf⟩ := haccepted hfirst
      rw [erase_bind, Decoder.bind_of_ok _ hfirst] at hrun
      have hmore := hf.refused hrun
      rw [created_bind_of_ok f hfirst, length_append, Nat.mul_add]
      omega

instance (a : α) : Allots rate credit (pure a : Metered ε α) where
  accepted := by
    intro input b rest hrun
    cases hrun
    exact ⟨[], rfl, Nat.zero_le _⟩
  refused := by
    intro input e hrun
    cases hrun

instance {d : Metered ε α} {f : α → Metered ε β} [hd : Allots rate credit d] [hf : ∀ a, Allots rate 0 (f a)] :
    Allots rate credit (d >>= f) := by
  refine Allots.sequence (fun hrun => ?_) hd.refused
  obtain ⟨used, hinput, hle⟩ := hd.accepted hrun
  exact ⟨used, 0, hinput, hle, hf _⟩

/-- What a decoder without elements consumes is credit for what comes after it. -/
theorem Allots.lift_bind {d : Decoder ε α} {f : α → Metered ε β} {P : α → Bytes → Prop} (hd : d.Consumes P)
    (hf : ∀ a used, P a used → Allots rate (credit + rate * used.length) (f a)) :
    Allots rate credit (lift d >>= f) := by
  refine Allots.sequence (fun {input a rest} hrun => ?_) fun _ => Nat.zero_le _
  obtain ⟨used, hinput, hP⟩ := hd input a rest hrun
  exact ⟨used, credit + rate * used.length, hinput, Nat.le_of_eq (Nat.zero_add _), hf a used hP⟩

theorem Allots.ensure_bind {cond : Prop} [Decidable cond] {e : ε} {f : Unit → Metered ε β}
    (hf : cond → Allots rate credit (f ())) : Allots rate credit (lift (Decoder.ensure cond e) >>= f) := by
  refine Allots.sequence (fun {input a rest} hrun => ?_) fun _ => Nat.zero_le _
  obtain ⟨hcond, rfl⟩ := Decoder.ensure_eq_ok hrun
  exact ⟨[], credit, rfl, Nat.le_of_eq (Nat.zero_add _), hf hcond⟩

/-- Creating elements uses up credit. -/
theorem Allots.create_bind {count : Nat} {f : Unit → Metered ε β} (hcount : count ≤ credit)
    (hf : Allots rate 0 (f ())) : Allots rate credit (create count >>= f) := by
  refine Allots.sequence (fun {input a rest} hrun => ?_) fun hrun => ?_
  · cases hrun
    exact ⟨[], 0, rfl, Nat.le_add_right_of_le hcount, hf⟩
  · cases hrun

/-- A decoder without elements. -/
theorem Allots.lift {d : Decoder ε α} {P : α → Bytes → Prop} (hd : d.Consumes P) : Allots rate credit (lift d) where
  accepted := by
    intro input a rest hrun
    obtain ⟨used, hinput, -⟩ := hd input a rest hrun
    exact ⟨used, hinput, Nat.zero_le _⟩
  refused := fun _ => Nat.zero_le _

instance {d : Metered ε α} [Allots rate 0 d] (count : Nat) : Allots rate 0 (times d count) := by
  induction count with
  | zero => exact inferInstanceAs (Allots rate 0 (pure []))
  | succ count ih =>
    unfold times
    infer_instance

end Metered
