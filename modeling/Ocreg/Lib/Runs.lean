/-
Module: Ocreg.Lib.Runs
Purpose: Runs of a deterministic machine: conditions that hold along a run, the events a run emits, and the
  rules that lift facts about one step to facts about a whole run.
-/
import Mathlib

namespace Ocreg.Runs

variable {σ α β κ γ : Type} {step : σ → α → σ} {P : σ → α → Prop} {Q : σ → α → Prop}

variable {run : List α} {s : σ}

/-- The condition holds at every step of the run. -/
def Along (step : σ → α → σ) (P : σ → α → Prop) : σ → List α → Prop
  | _, [] => True
  | s, a :: rest => P s a ∧ Along step P (step s a) rest

/-- What the run emits, in order. -/
def events (step : σ → α → σ) (event : σ → α → Option β) : σ → List α → List β
  | _, [] => []
  | s, a :: rest => (event s a).toList ++ events step event (step s a) rest

theorem Along.mono (himp : ∀ s a, P s a → Q s a) (h : Along step P s run) : Along step Q s run := by
  induction run generalizing s with
  | nil => trivial
  | cons a rest ih => exact ⟨himp s a h.1, ih h.2⟩

theorem Along.of_forall (h : ∀ s a, P s a) (s : σ) (run : List α) : Along step P s run := by
  induction run generalizing s with
  | nil => trivial
  | cons a rest ih => exact ⟨h s a, ih (step s a)⟩

theorem Along.and (hP : Along step P s run) (hQ : Along step Q s run) :
    Along step (fun s a => P s a ∧ Q s a) s run := by
  induction run generalizing s with
  | nil => trivial
  | cons a rest ih => exact ⟨⟨hP.1, hQ.1⟩, ih hP.2 hQ.2⟩

theorem Along.append {first rest : List α} :
    Along step P s (first ++ rest) ↔ Along step P s first ∧ Along step P (first.foldl step s) rest := by
  induction first generalizing s with
  | nil => exact ⟨fun h => ⟨trivial, h⟩, And.right⟩
  | cons a first ih => exact (and_congr_right fun _ => ih).trans and_assoc.symm

/-- An invariant of the steps that meet the condition holds at the end of the run. -/
theorem Along.invariant {I : σ → Prop} (hstep : ∀ s a, I s → P s a → I (step s a))
    (hs : I s) (h : Along step P s run) : I (run.foldl step s) := by
  induction run generalizing s with
  | nil => exact hs
  | cons a rest ih => exact ih (hstep s a hs h.1) h.2

/-- Two conditions that agree where an invariant holds, and of which the first keeps the invariant, hold along the
    same runs. -/
theorem Along.iff_of_invariant {I : σ → Prop} {F : σ → α → Prop} (hiff : ∀ s a, I s → F s a → (P s a ↔ Q s a))
    (hkeep : ∀ s a, I s → F s a → P s a → I (step s a)) (hs : I s) (hF : Along step F s run) :
    Along step P s run ↔ Along step Q s run := by
  induction run generalizing s with
  | nil => exact Iff.rfl
  | cons a rest ih =>
    constructor
    · rintro ⟨hfirst, hrest⟩
      exact ⟨(hiff s a hs hF.1).mp hfirst, (ih (hkeep s a hs hF.1 hfirst) hF.2).mp hrest⟩
    · rintro ⟨hfirst, hrest⟩
      have hfirst' := (hiff s a hs hF.1).mpr hfirst
      exact ⟨hfirst', (ih (hkeep s a hs hF.1 hfirst') hF.2).mpr hrest⟩

/-- Events that raise the level of their key to their own value, along a run on which no level falls, have
    increasing values key by key. -/
theorem events_increase [Preorder γ] (I : σ → Prop) (level : σ → κ → γ) {event : σ → α → Option (κ × γ)}
    (hstep : ∀ s a, I s → P s a → I (step s a))
    (hlevel : ∀ s a, I s → P s a → ∀ key, level s key ≤ level (step s a) key)
    (hevent : ∀ s a, I s → P s a → ∀ key value, event s a = some (key, value) →
      level s key < value ∧ value ≤ level (step s a) key) (hs : I s) (h : Along step P s run) :
    (∀ entry ∈ events step event s run, level s entry.1 < entry.2) ∧
      (events step event s run).Pairwise (fun a b => a.1 = b.1 → a.2 < b.2) := by
  induction run generalizing s with
  | nil =>
    rw [events]
    exact ⟨by simp, List.Pairwise.nil⟩
  | cons a rest ih =>
    obtain ⟨habove, hincrease⟩ := ih (hstep s a hs h.1) h.2
    have hlater : ∀ entry ∈ events step event (step s a) rest, level s entry.1 < entry.2 :=
      fun entry hentry => lt_of_le_of_lt (hlevel s a hs h.1 entry.1) (habove entry hentry)
    rw [events]
    cases hemitted : event s a with
    | none => exact ⟨hlater, hincrease⟩
    | some first =>
      obtain ⟨key, value⟩ := first
      obtain ⟨hlow, hhigh⟩ := hevent s a hs h.1 key value hemitted
      refine ⟨?_, List.pairwise_cons.mpr ⟨?_, hincrease⟩⟩
      · intro entry hentry
        rcases List.mem_cons.mp hentry with rfl | hentry
        · exact hlow
        · exact hlater entry hentry
      · intro entry hentry hkey
        have hkey' : key = entry.1 := hkey
        subst hkey'
        exact lt_of_le_of_lt hhigh (habove entry hentry)

end Ocreg.Runs
