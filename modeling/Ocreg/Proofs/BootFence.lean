/-
Module: Ocreg.Proofs.BootFence
Purpose: After a restart, evidence of sources that are not durable stays fenced in every stream none of whose
  admitted records claims the boot that begins, until the stream accepts a new admission; a record that
  claims that boot is taken for current evidence.
-/
import Ocreg.Lib.Runs
import Ocreg.Registry.Step

namespace Ocreg

open Registry Lab

/-- What keeps a stream's old evidence fenced: conservative fencing, and no admitted record of the stream that
    was taken in under the current boot. -/
structure BootFenced (key : EvidenceKey) (s : Registry) : Prop where
  keyed : s.AllStreams Stream.Keyed
  conservative : s.policy.bootPolicy = .conservativeFence
  older : ∀ record ∈ (s.streamAt key).records, record.lifecycle = .admitted →
    record.evidence.bootAtIngest ≠ s.bootEpoch

namespace BootFenced

variable {key : EvidenceKey} {s : Registry}

/-- No record of the stream is active while its source is not durable. -/
theorem inactive (h : BootFenced key s) {device : DeviceIncarnationRef} {kind : CapabilityKind}
    {now override : Tick} {fact : DerivedFact} (hfact : fact ∈ (s.derive device kind now override).facts)
    (hkey : fact.record.evidence.key = key)
    (hvolatile : ∀ source, s.policy.findSource key.source = some source → source.durableAcrossBoot = false) :
    fact.state ≠ .active := by
  intro hactive
  obtain ⟨key', stream, source, hfind, _, _, hmem, heligible⟩ :=
    derive_facts_eligible hfact (.inl hactive)
  have hkey' : key' = key := (h.keyed key' stream hfind _ hmem).symm.trans hkey
  subst hkey'
  have hold := h.older fact.record ((streamAt_of_find hfind).symm ▸ hmem) heligible.admitted
  refine heligible.unfenced ⟨lt_of_le_of_ne heligible.booted hold, ?_, h.conservative⟩
  rw [hvolatile source heligible.configured]
  exact Bool.false_ne_true

/-- The fence after `adopt_state`, whatever state is adopted. -/
theorem adoptState (host : Registry) {state : RegistryState} (now : Tick) (hsources : state.policy.sources ≠ [])
    (hconservative : state.policy.bootPolicy = .conservativeFence)
    (hboot : ∀ record ∈ state.records, record.evidence.key = key → record.lifecycle = .admitted →
      record.evidence.bootAtIngest ≠ state.bootEpoch + 1) :
    BootFenced key (host.adoptState state now).2 := by
  have hrefresh := refreshAllConflicts_evidence (resumeTick state now) (.refl (host.rebooted state now))
  have hstreams : (host.adoptState state now).2.streams = restoreStreams state.records := hrefresh.streams
  refine ⟨?_, ?_, ?_⟩
  · intro key stream hfind record hrecord
    rw [hstreams] at hfind
    exact ((mem_restored hfind).mp hrecord).2
  · refine hrefresh.bootPolicy.trans ?_
    rw [rebooted]
    dsimp only
    rw [if_neg hsources]
    exact hconservative
  · intro record hrecord hadmitted
    obtain ⟨stream, hfind, hmem⟩ := find_of_mem_streamAt hrecord
    rw [hstreams] at hfind
    obtain ⟨hstored, hkey⟩ := (mem_restored hfind).mp hmem
    have hepoch : (host.adoptState state now).2.bootEpoch = state.bootEpoch + 1 := hrefresh.bootEpoch
    rw [hepoch]
    exact hboot record hstored hkey hadmitted

/-- One operation keeps the fence, unless the stream accepts an admission. -/
theorem step (h : BootFenced key s) {op : Op} (hadopt : op.Ordinary)
    (hquiet : ∀ generation, s.acceptance op ≠ some (key, generation)) : BootFenced key (s.step op) := by
  have hkeyed := keyed_step h.keyed hadopt
  rcases s.step_cases hadopt with ⟨request, now, rfl, hstep⟩ | ⟨retirement, now, _, hstep⟩ | hframe
  · obtain ⟨_, _, _, _, _, _, _, hframe, _⟩ := s.admitRequest_frame request now
    rw [hstep] at hkeyed ⊢
    refine ⟨hkeyed, by rw [hframe]; exact h.conservative, ?_⟩
    intro record hrecord hadmitted
    have hepoch : (s.admitRequest request now).2.bootEpoch = s.bootEpoch := by rw [hframe]
    rw [hepoch]
    rcases mem_streamAt_admitRequest hrecord with hold | ⟨rfl, _, hrejected | haccepted⟩
    · exact h.older record hold hadmitted
    · rw [hrejected] at hadmitted
      cases hadmitted
    · exact absurd (by rw [acceptance, if_pos haccepted]) (hquiet request.generation)
  · obtain ⟨_, _, _, _, hframe⟩ := s.retire_frame retirement now
    rw [hstep] at hkeyed ⊢
    refine ⟨hkeyed, by rw [hframe]; exact h.conservative, ?_⟩
    intro record hrecord hadmitted
    obtain ⟨old, hold, hevidence, rfl | hretired⟩ := mem_streamAt_retire hrecord
    · rw [hframe]
      exact h.older record hold hadmitted
    · rw [hretired] at hadmitted
      cases hadmitted
  · refine ⟨hkeyed, hframe.bootPolicy.trans h.conservative, ?_⟩
    rw [hframe.streamAt, hframe.bootEpoch]
    exact h.older

theorem run (h : BootFenced key s) {ops : List Op}
    (hquiet : Runs.Along Registry.step (fun s op => op.Ordinary ∧
      ∀ generation, s.acceptance op ≠ some (key, generation)) s ops) : BootFenced key (s.run ops) :=
  hquiet.invariant (fun _ _ hfenced hcond => hfenced.step hcond.1 hcond.2) h

end BootFenced

/-- After `adopt_state` of a state with sources and conservative fencing, at every tick and under every age
    override, no record of a source that is not durable is active in a stream none of whose admitted records
    claims the boot that begins. This lasts through all operations but another adoption, until the stream
    accepts an admission. -/
theorem boot_fence (host : Registry) {state : RegistryState} (now : Tick) {key : EvidenceKey}
    (hsources : state.policy.sources ≠ []) (hconservative : state.policy.bootPolicy = .conservativeFence)
    (hboot : ∀ record ∈ state.records, record.evidence.key = key → record.lifecycle = .admitted →
      record.evidence.bootAtIngest ≠ state.bootEpoch + 1)
    (ops : List Op)
    (hquiet : Runs.Along Registry.step (fun s op => op.Ordinary ∧
      ∀ generation, s.acceptance op ≠ some (key, generation)) (host.adoptState state now).2 ops) :
    let later := (host.adoptState state now).2.run ops
    ∀ device kind tick override, ∀ fact ∈ (later.derive device kind tick override).facts,
      fact.record.evidence.key = key →
      (∀ source, later.policy.findSource key.source = some source → source.durableAcrossBoot = false) →
      fact.state ≠ .active := by
  intro later device kind tick override fact hfact hkey hvolatile
  exact ((BootFenced.adoptState host now hsources hconservative hboot).run hquiet).inactive hfact hkey hvolatile

/-- The snapshot of a registry with one record is fenced when it is adopted. -/
theorem boot_fence_one_record :
    let state := oneReport.toState
    let restarted := ((init policy).adoptState state 7).2
    (restarted.derive (device 0) .packetClassification 7 0).facts.length = 1 ∧
      ∀ fact ∈ (restarted.derive (device 0) .packetClassification 7 0).facts,
        fact.record.evidence.key = (request 0 1 5).key → fact.state ≠ .active :=
  ⟨by decide +kernel, fun fact hfact hkey =>
    boot_fence (init policy) 7 (by decide) (by decide) (by decide +kernel)
      [] trivial _ _ _ _ fact hfact hkey (by decide +kernel)⟩

/-- A stored state whose record claims the next boot: it decodes, and the record is active after adoption
    although its source is not durable. -/
theorem future_boot_not_fenced :
    let state := { oneReport.toState with bootEpoch := 0 }
    let restarted := ((init policy).adoptState state 7).2
    RegistryState.decode.run state.encode = .ok (state, []) ∧ state.policy.sources ≠ [] ∧
      state.policy.bootPolicy = .conservativeFence ∧
      (restarted.policy.findSource source).map SourcePolicy.durableAcrossBoot = some false ∧
      (restarted.derive (device 0) .packetClassification 7 0).facts.map DerivedFact.state = [.active] := by
  decide +kernel

end Ocreg
