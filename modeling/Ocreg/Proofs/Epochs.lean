/-
Module: Ocreg.Proofs.Epochs
Purpose: The registry epoch as a version of the authority context. Every operation but adoption either keeps the policy,
  the boot and the current incarnations or moves the epoch up by one; adoption takes the epoch of the state it is given.
-/
import Ocreg.Proofs.CurrentEvidence
import Ocreg.Proofs.Incarnations

namespace Ocreg

open Registry Lab

/-- The operations that move the epoch when they change something. -/
def Op.movesEpoch : Op → Bool
  | .setRuleGeneration _ | .advanceEpoch | .setLimits _ => true
  | op => op.editsDevices || op.editsSources

namespace Registry

variable {s t u : Registry} {op : Op}

/-! ### One step -/

/-- `t` has the authority context of `s`: a device known to `s` is known to `t` under the same incarnation. -/
structure SameContext (s t : Registry) : Prop where
  epoch : t.epoch = s.epoch
  policy : t.policy = s.policy
  bootEpoch : t.bootEpoch = s.bootEpoch
  current : ∀ device incarnation, (s.findDevice device).map DeviceIncarnationEntry.current = some incarnation →
    (t.findDevice device).map DeviceIncarnationEntry.current = some incarnation

namespace SameContext

theorem refl (s : Registry) : SameContext s s := ⟨rfl, rfl, rfl, fun _ _ h => h⟩

theorem trans (hst : SameContext s t) (htu : SameContext t u) : SameContext s u where
  epoch := htu.epoch.trans hst.epoch
  policy := htu.policy.trans hst.policy
  bootEpoch := htu.bootEpoch.trans hst.bootEpoch
  current := fun device incarnation h => htu.current device incarnation (hst.current device incarnation h)

theorem registered {device : DeviceIncarnationRef} (h : s.registerIncarnation device = .ok t) : SameContext s t := by
  have hcurrent := @registerIncarnation_current device s t h
  obtain ⟨table, next, rfl⟩ := registerIncarnation_frame h
  exact ⟨rfl, rfl, rfl, fun known incarnation => hcurrent⟩

theorem of_table (htable : u.incarnationTable = t.incarnationTable) (h : SameContext s t) (hepoch : u.epoch = t.epoch)
    (hpolicy : u.policy = t.policy) (hboot : u.bootEpoch = t.bootEpoch) : SameContext s u := by
  refine h.trans ⟨hepoch, hpolicy, hboot, ?_⟩
  intro device incarnation hcurrent
  rw [findDevice, htable]
  exact hcurrent

end SameContext

theorem Touches.context (h : Touches s op t) (hop : op.movesEpoch = false) :
    t.epoch = s.epoch ∧ t.policy = s.policy ∧ t.bootEpoch = s.bootEpoch := by
  cases h with
  | admitted hframe =>
    obtain ⟨_, _, _, _, _, _, _, rfl, _⟩ := hframe
    exact ⟨rfl, rfl, rfl⟩
  | incarnated hedits _ _ _ _ _ _ | configured hedits _ _ _ _ _ => cases op <;> cases hedits <;> cases hop
  | ruled _ | advanced | limited _ => cases hop
  | _ => exact ⟨rfl, rfl, rfl⟩

section

variable (s)

theorem admitRequest_context (request : AdmissionRequest) (now : Tick) :
    SameContext s (s.admitRequest request now).2 := by
  have htouches : Touches s (.admitRequest request now) (s.admitRequest request now).2 :=
    .admitted (s.admitRequest_frame request now)
  obtain ⟨hepoch, hpolicy, hboot⟩ := htouches.context rfl
  rcases s.admitRequest_devices request now with ⟨-, htable, -⟩ | ⟨-, t, hregistered, htable, -⟩
  · exact (SameContext.refl s).of_table htable hepoch hpolicy hboot
  · have hsame := SameContext.registered hregistered
    exact hsame.of_table htable (hepoch.trans hsame.epoch.symm) (hpolicy.trans hsame.policy.symm)
      (hboot.trans hsame.bootEpoch.symm)

/-- The two ways an operation other than adoption can go. -/
def Moves (s t : Registry) : Prop := SameContext s t ∨ t.epoch = s.epoch + 1

theorem beginDeviceIncarnation_moves (device : DeviceIdentity) (now : Tick) :
    Moves s (s.beginDeviceIncarnation device now).2 := by
  generalize hop : s.beginDeviceIncarnation device now = result
  cases s.beginDeviceIncarnation_view hop with
  | entered _ _ => exact .inr rfl
  | begun _ _ => exact .inr (refreshAllConflicts_epoch _ now)
  | _ => exact .inl (.refl s)

theorem setCurrent_epoch (device : DeviceIncarnationRef) : (s.setCurrent device).epoch = s.epoch := by
  rw [setCurrent]
  split <;> rfl

theorem setDeviceIncarnation_moves (device : DeviceIdentity) (incarnation : IncarnationId)
    (now : Tick) : Moves s (s.setDeviceIncarnation device incarnation now).2 := by
  generalize hop : s.setDeviceIncarnation device incarnation now = result
  cases s.setDeviceIncarnation_view hop with
  | refused => exact .inl (.refl s)
  | kept _ hregistered _ => exact .inl (.registered hregistered)
  | changed _ hregistered _ =>
    right
    dsimp only
    rw [refreshAllConflicts_epoch, bumpPolicyRevision, setCurrent_epoch, (SameContext.registered hregistered).epoch]

theorem withSources_moves (sources : List SourcePolicy) (now : Tick) :
    Moves s ((s.withSources sources).bumpPolicyRevision.refreshAllConflicts now) :=
  .inr (refreshAllConflicts_epoch _ now)

theorem updateSource_moves (source : SourceId) (settled : SourcePolicy → Bool) (change : SourcePolicy → SourcePolicy)
    (now : Tick) : Moves s (s.updateSource source settled change now).2 := by
  generalize hop : s.updateSource source settled change now = result
  cases s.updateSource_view hop with
  | changed _ _ => exact s.withSources_moves _ now
  | _ => exact .inl (.refl s)

theorem upsertSourcePolicy_moves (policy : SourcePolicy) (now : Tick) :
    Moves s (s.upsertSourcePolicy policy now).2 := by
  generalize hop : s.upsertSourcePolicy policy now = result
  cases s.upsertSourcePolicy_view hop with
  | refused => exact .inl (.refl s)
  | _ => exact s.withSources_moves _ now

theorem setRuleGeneration_moves (generation : RuleGeneration) : Moves s (s.setRuleGeneration generation).2 := by
  rw [setRuleGeneration]
  split
  · exact .inl (.refl s)
  · split
    · exact .inl (.refl s)
    · split
      · exact .inl (.refl s)
      · exact .inr rfl

/-- An operation other than adoption keeps the context, or is one of those that move the epoch and moves it by
    one. -/
theorem step_context (hadopt : op.Ordinary) :
    SameContext s (s.step op) ∨ op.movesEpoch = true ∧ (s.step op).epoch = s.epoch + 1 := by
  cases hop : op.movesEpoch with
  | false =>
    left
    rcases op.made_or .admitRequest with ⟨request, now, rfl⟩ | hadmitted
    · exact s.admitRequest_context request now
    · have htouches := s.step_touches hadopt
      obtain ⟨hepoch, hpolicy, hboot⟩ := htouches.context hop
      have hedits : op.editsDevices = false := by
        cases op <;> first | rfl | cases hop
      exact (SameContext.refl s).of_table (htouches.devices hedits hadmitted).1 hepoch hpolicy hboot
  | true =>
    have hmoves : Moves s (s.step op) := by
      cases op with
      | beginDeviceIncarnation device now => exact s.beginDeviceIncarnation_moves device now
      | setDeviceIncarnation device incarnation now => exact s.setDeviceIncarnation_moves device incarnation now
      | revokeSource source now => exact s.updateSource_moves source _ _ now
      | restoreSource source now => exact s.updateSource_moves source _ _ now
      | setSourceAuthority source authority now => exact s.updateSource_moves source _ _ now
      | upsertSourcePolicy policy now => exact s.upsertSourcePolicy_moves policy now
      | setRuleGeneration generation => exact s.setRuleGeneration_moves generation
      | advanceEpoch | setLimits limits => exact .inr rfl
      | _ => cases hop
    exact hmoves.imp_right fun hepoch => ⟨rfl, hepoch⟩

end

/-! ### Whole runs -/

/-- The epoch after which the counter starts over. -/
def lastEpoch : RegistryEpoch := 18446744073709551615

theorem epoch_lt_succ {epoch other : RegistryEpoch} (hle : other ≤ epoch) (hlast : epoch ≠ lastEpoch) :
    other < epoch + 1 := by
  have hne : epoch.toNat ≠ lastEpoch.toNat := fun heq => hlast (UInt64.toNat_inj.mp heq)
  have hbound : lastEpoch.toNat = 18446744073709551615 := rfl
  have hlt := epoch.toNat_lt
  rw [UInt64.le_iff_toNat_le] at hle
  rw [UInt64.lt_iff_toNat_lt, UInt64.toNat_add]
  have hone : (1 : UInt64).toNat = 1 := rfl
  omega

/-- The counter has room for the step, and a state that is adopted is not behind the registry. -/
def KeepsEpochs (s : Registry) : Op → Prop
  | .adoptState state _ => s.epoch ≤ state.epoch ∧ state.epoch ≠ lastEpoch
  | op => op.movesEpoch = true → s.epoch ≠ lastEpoch

/-- `t` comes after `s`: under a later epoch, or in the same context. -/
def Follows (s t : Registry) : Prop := s.epoch < t.epoch ∨ SameContext s t

theorem Follows.le (h : Follows s t) : s.epoch ≤ t.epoch := by
  rcases h with hlt | hsame
  · exact hlt.le
  · exact hsame.epoch.ge

theorem Follows.same (h : Follows s t) (hepoch : s.epoch = t.epoch) : SameContext s t := by
  rcases h with hlt | hsame
  · exact absurd hepoch hlt.ne
  · exact hsame

theorem Follows.trans (hst : Follows s t) (htu : Follows t u) : Follows s u := by
  rcases hst with hlt | hsame
  · exact .inl (hlt.trans_le htu.le)
  · rcases htu with hlt | hnext
    · exact .inl (hsame.epoch ▸ hlt)
    · exact .inr (hsame.trans hnext)

theorem adoptState_epoch (s : Registry) (state : RegistryState) (now : Tick) :
    (s.adoptState state now).2.epoch = state.epoch + 1 := refreshAllConflicts_epoch _ _

theorem follows_step (h : s.KeepsEpochs op) : Follows s (s.step op) := by
  rcases op.made_or .adoptState with ⟨state, now, rfl⟩ | hadopt
  · left
    rw [step, adoptState_epoch]
    exact epoch_lt_succ h.1 h.2
  · rcases s.step_context hadopt with hsame | ⟨hmoves, hepoch⟩
    · exact .inr hsame
    · left
      have hroom : s.epoch ≠ lastEpoch := by
        cases op with
        | adoptState state now => exact absurd rfl (hadopt state now)
        | _ => exact h hmoves
      rw [hepoch]
      exact epoch_lt_succ le_rfl hroom

/-- Everything on a run comes after its start. -/
theorem follows_run {ops : List Op} (h : Runs.Along step KeepsEpochs s ops) : Follows s (s.run ops) :=
  Runs.Along.invariant (fun _ _ hs hstep => hs.trans (follows_step hstep)) (.inr (.refl s)) h

end Registry

/-- As long as the epoch counter does not run over and no state is adopted that is behind the registry, the epoch never
    decreases, and two points of a run with the same epoch have the same policy, the same boot and the same current
    incarnation of every device known to both. -/
theorem equal_epochs_share_context {start : Registry} {first rest : List Op}
    (h : Runs.Along step Registry.KeepsEpochs start (first ++ rest)) :
    (start.run first).epoch ≤ (start.run (first ++ rest)).epoch ∧
      ((start.run first).epoch = (start.run (first ++ rest)).epoch →
        (start.run first).policy = (start.run (first ++ rest)).policy ∧
        (start.run first).bootEpoch = (start.run (first ++ rest)).bootEpoch ∧
        ∀ device entry other, (start.run first).findDevice device = some entry →
          (start.run (first ++ rest)).findDevice device = some other → entry.current = other.current) := by
  have hfollows : Follows (start.run first) ((start.run first).run rest) :=
    follows_run (Runs.Along.append.mp h).2
  rw [show (start.run first).run rest = start.run (first ++ rest) from List.foldl_append.symm] at hfollows
  refine ⟨hfollows.le, ?_⟩
  intro hepoch
  have hsame := hfollows.same hepoch
  refine ⟨hsame.policy.symm, hsame.bootEpoch.symm, ?_⟩
  intro device entry other hentry hother
  have hcurrent := hsame.current device entry.current (by rw [hentry]; rfl)
  rw [hother] at hcurrent
  exact (Option.some.inj hcurrent).symm

/-- A report after the epoch was advanced is taken in the same context. -/
theorem equal_epochs_share_context_report :
    ((init policy).run [.advanceEpoch]).bootEpoch =
      ((init policy).run ([.advanceEpoch] ++ [.admitRequest (request 0 1 5) 5])).bootEpoch := by
  have hkeeps : Runs.Along step KeepsEpochs (init policy)
      ([.advanceEpoch] ++ [.admitRequest (request 0 1 5) 5]) := by
    refine ⟨?_, ?_, trivial⟩
    · intro _
      decide
    · intro hmoves
      cases hmoves
  exact ((equal_epochs_share_context hkeeps).2 (by decide +kernel)).2.1

namespace Lab

/-- Bounds no registry starts with. -/
def tightened : RegistryLimits := { policy.limits with maxDevices := 1 }

/-- What a registry stores before anything happens to it. -/
def pristine : RegistryState := (init policy).toState

end Lab

/-- Adopting the stored state of a younger registry brings an epoch back under another policy and another boot, or
    takes the epoch down. -/
theorem adopted_state_repeats_epoch :
    (let changed := (init policy).run [.setLimits tightened]
      let adopted := (init policy).run [.setLimits tightened, .adoptState pristine 0]
      changed.epoch = adopted.epoch ∧ changed.policy.limits.maxDevices ≠ adopted.policy.limits.maxDevices ∧
        changed.bootEpoch ≠ adopted.bootEpoch) ∧
      ((init policy).run [.advanceEpoch, .advanceEpoch, .adoptState pristine 0]).epoch <
        ((init policy).run [.advanceEpoch, .advanceEpoch]).epoch := by
  decide +kernel

end Ocreg
