/-
Module: Ocreg.Lib.Streaming
Purpose: Decoders that read their input from left to right: what they accept is settled by the bytes they use, and an
  input cut inside these bytes is reported as short.
-/
import Ocreg.Lib.Codec

namespace Decoder

open List

variable {ε α β : Type} {short : ε}

/-- An accepted run uses a first part of its input. The same part with anything after it gives the same value, and
    the part cut anywhere before its end gives the error `short`. A class, so that a decoder put together from steady
    ones is steady without further proof. -/
class Steady (short : ε) (d : Decoder ε α) : Prop where
  cut : ∀ input a rest, d.run input = .ok (a, rest) → ∃ used, input = used ++ rest ∧
    (∀ other, d.run (used ++ other) = .ok (a, other)) ∧
    ∀ front more, used = front ++ more → more ≠ [] → d.run front = .error short

/-- A decoder that looks at no byte is steady. -/
theorem Steady.of_still {d : Decoder ε α}
    (h : ∀ input a rest, d.run input = .ok (a, rest) → rest = input ∧ ∀ other, d.run other = .ok (a, other)) :
    Steady short d := by
  constructor
  intro input a rest hrun
  obtain ⟨rfl, hother⟩ := h input a rest hrun
  refine ⟨[], rfl, hother, ?_⟩
  intro front more hcut hmore
  exact absurd (append_eq_nil_iff.mp hcut.symm).2 hmore

instance (a : α) : Steady short (pure a : Decoder ε α) := by
  apply Steady.of_still
  intro input b rest hrun
  cases hrun
  exact ⟨rfl, fun _ => rfl⟩

instance (e : ε) : Steady short (fail e : Decoder ε α) := by
  constructor
  intro input a rest hrun
  cases hrun

instance {cond : Prop} [Decidable cond] {e : ε} : Steady short (ensure cond e) := by
  apply Steady.of_still
  intro input u rest hrun
  obtain ⟨hcond, hrest⟩ := ensure_eq_ok hrun
  exact ⟨hrest, fun other => ensure_of e other hcond⟩

instance {e : ε} {value : Option α} : Steady short (expect e value) := by
  cases value with
  | none => exact inferInstanceAs (Steady short (fail e))
  | some a => exact inferInstanceAs (Steady short (pure a))

instance {cond : Prop} [Decidable cond] {d d' : Decoder ε α} [Steady short d] [Steady short d'] :
    Steady short (if cond then d else d') := by
  split <;> infer_instance

instance {cond : Prop} [Decidable cond] {d : cond → Decoder ε α} {d' : ¬ cond → Decoder ε α} [∀ h, Steady short (d h)]
    [∀ h, Steady short (d' h)] : Steady short (if h : cond then d h else d' h) := by
  split <;> infer_instance

/-- Sequencing: a cut falls into the part of the first decoder, which reports it, or into the part of the second. -/
instance {d : Decoder ε α} {f : α → Decoder ε β} [hd : Steady short d] [hf : ∀ a, Steady short (f a)] :
    Steady short (d >>= f) := by
  constructor
  intro input b rest hrun
  obtain ⟨a, mid, hfirst, hsecond⟩ := bind_eq_ok hrun
  obtain ⟨used, rfl, hsame, hcut⟩ := hd.cut input a mid hfirst
  obtain ⟨more, rfl, hsame', hcut'⟩ := (hf a).cut mid b rest hsecond
  refine ⟨used ++ more, (append_assoc used more rest).symm, ?_, ?_⟩
  · intro other
    rw [append_assoc, bind_of_ok _ (hsame _), hsame' other]
  · intro front last heq hlast
    rcases append_eq_append_iff.mp heq with ⟨inner, hfront, hmore⟩ | ⟨inner, hused, hinner⟩
    · rw [hfront, bind_of_ok _ (hsame inner)]
      exact hcut' inner last hmore hlast
    · rcases eq_nil_or_concat inner with rfl | hne
      · -- the cut falls between the two parts
        rw [append_nil] at hused
        rw [nil_append] at hinner
        have hfront := hsame []
        rw [append_nil, hused] at hfront
        rw [bind_of_ok _ hfront]
        exact hcut' [] last hinner.symm hlast
      · have hinner' : inner ≠ [] := by
          obtain ⟨init, c, rfl⟩ := hne
          simp
        rw [run_bind, hcut front inner hused hinner']

end Decoder

open Decoder

section Rules

variable {ε α κ : Type} {short : ε}

instance (count : Nat) : Steady short (takeBytes short count) := by
  constructor
  intro input bytes rest hrun
  obtain ⟨used, rfl, rfl, hlength⟩ := takeBytes_consumes short count input bytes rest hrun
  refine ⟨bytes, rfl, fun other => takeBytes_append short other hlength, ?_⟩
  intro front more hcut hmore
  have hfewer : front.length < count := by
    have hsum := congrArg List.length hcut
    have hpos := List.length_pos_iff.mpr hmore
    rw [List.length_append] at hsum
    omega
  exact if_pos hfewer

instance (width : Nat) : Steady short (takeBE short width) := by
  unfold takeBE
  infer_instance

instance {dec : Decoder ε α} [Steady short dec] (count : Nat) : Steady short (repeatN dec count) := by
  induction count with
  | zero => exact inferInstanceAs (Steady short (pure []))
  | succ count ih =>
    unfold repeatN
    infer_instance

instance [LinearOrder κ] {dec : Decoder ε α} {key : α → κ} {disorder : ε} [Steady short dec] (count : Nat)
    (last : Option κ) : Steady short (repeatAscending dec key disorder count last) := by
  induction count generalizing last with
  | zero => exact inferInstanceAs (Steady short (pure []))
  | succ count ih =>
    unfold repeatAscending
    infer_instance

/-- A steady decoder that reads an encoding back reports every strict beginning of it as short. -/
theorem RoundTrip.truncated {enc : α → Bytes} {dec : Decoder ε α} {a : α} (h : RoundTrip enc dec a)
    [hsteady : Steady short dec] {front more : Bytes} (hcut : enc a = front ++ more) (hmore : more ≠ []) :
    dec.run front = .error short := by
  have hrun := h []
  rw [List.append_nil] at hrun
  obtain ⟨used, hused, -, hshort⟩ := hsteady.cut _ _ _ hrun
  rw [List.append_nil] at hused
  exact hshort front more (hused ▸ hcut) hmore

end Rules
