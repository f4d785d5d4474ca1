/-
Module: Ocreg.Proofs.Restarts
Purpose: A registry and the one its snapshot restores to: both have the same snapshot and give the same answers. The
  tables a run leaves are in snapshot order, and streams without records, which a snapshot does not show, count for
  nothing in an answer.
-/
import Ocreg.Proofs.Adoption
import Ocreg.Proofs.RetirementFence

namespace Ocreg

open List Registry SortedMap Lab Scan

variable {op : Op}

/-! ### Tables in order -/

theorem ascends_of_map_eq {α κ : Type} [LinearOrder κ] {keyOf : α → κ} {as bs : List α}
    (hmap : as.map keyOf = bs.map keyOf) (h : bs.Pairwise (fun a b => keyOf a ≤ keyOf b)) :
    as.Pairwise (fun a b => keyOf a ≤ keyOf b) := by
  have hkeys : (bs.map keyOf).Pairwise (· ≤ ·) := pairwise_map.mpr h
  rw [← hmap] at hkeys
  exact pairwise_map.mp hkeys

namespace Registry

/-- The tables beside the evidence: sources, conflicts and resolutions ascend by id, device entries stand under their
    own devices, and the rule generation is the policy's. -/
structure Tabled (s : Registry) : Prop where
  sources : s.policy.sources.Pairwise (fun a b => a.id ≤ b.id)
  rules : s.ruleGeneration = s.policy.ruleGeneration
  devices : ∀ device entry, s.findDevice device = some entry → entry.device = device
  conflicts : s.conflictTable.Pairwise (fun a b => a.id ≤ b.id)
  resolutions : s.resolutionTable.Pairwise (fun a b => a.id ≤ b.id)

variable {s t u : Registry} {request : AdmissionRequest} {now : Tick}

theorem Tabled.init (policy : RegistryPolicy) : (init policy).Tabled where
  sources := insertionSort_ascends SourcePolicy.id policy.sources
  rules := rfl
  devices := fun _ _ hfind => nomatch hfind
  conflicts := Pairwise.nil
  resolutions := Pairwise.nil

theorem Tabled.congr (h : s.Tabled) (hsources : t.policy.sources = s.policy.sources := by rfl)
    (hrules : t.ruleGeneration = s.ruleGeneration ∧ t.policy.ruleGeneration = s.policy.ruleGeneration := by
      exact ⟨rfl, rfl⟩)
    (hdevices : t.incarnationTable = s.incarnationTable := by rfl)
    (hconflicts : t.conflictTable = s.conflictTable := by rfl)
    (hresolutions : t.resolutionTable = s.resolutionTable := by rfl) : t.Tabled where
  sources := hsources ▸ h.sources
  rules := by
    rw [hrules.1, hrules.2]
    exact h.rules
  devices := by
    intro device entry hfind
    rw [findDevice, hdevices] at hfind
    exact h.devices device entry hfind
  conflicts := hconflicts ▸ h.conflicts
  resolutions := hresolutions ▸ h.resolutions

/-- Bringing one group up to date keeps the conflict table in order. -/
theorem conflicts_ascend_refreshed (h : s.conflictTable.Pairwise (fun a b => a.id ≤ b.id))
    (device : DeviceIncarnationRef) (kind : CapabilityKind) (now : Tick) :
    (s.refreshedConflicts device kind now).1.Pairwise (fun a b => a.id ≤ b.id) := by
  generalize hop : s.refreshedConflicts device kind now = result
  cases s.refreshedConflicts_view hop with
  | settled _ => exact h.sublist eraseP_sublist
  | replaced _ hfind hsame =>
    refine ascends_of_map_eq (map_replaceFirst ConflictGroup.id ?_) h
    intro found hfound
    rw [findConflict, Option.mem_def.mp hfound] at hfind
    cases hfind
    exact hsame
  | dropped _ _ _ => exact h
  | _ => exact insertionSort_ascends ConflictGroup.id _

section

variable (h : s.Tabled)

include h

theorem Tabled.refreshConflict (device : DeviceIncarnationRef) (kind : CapabilityKind) (now : Tick) :
    (s.refreshConflict device kind now).Tabled :=
  { h with conflicts := conflicts_ascend_refreshed h.conflicts device kind now }

theorem Tabled.refreshAllConflicts (now : Tick) : (s.refreshAllConflicts now).Tabled := by
  rw [Registry.refreshAllConflicts]
  have hstart : { s with conflictTable := [] }.Tabled := { h with conflicts := Pairwise.nil }
  generalize { s with conflictTable := [] } = start at hstart
  induction s.groupKeys generalizing start with
  | nil => exact hstart
  | cons group groups ih => exact ih _ (hstart.refreshConflict group.1 group.2 now)

/-- A device entry goes in under its device. -/
theorem Tabled.enter {entry : DeviceIncarnationEntry} {device : DeviceIdentity}
    (htable : t.incarnationTable = s.incarnationTable.insert device entry) (hpolicy : t.policy = s.policy)
    (hrules : t.ruleGeneration = s.ruleGeneration) (hconflicts : t.conflictTable = s.conflictTable)
    (hresolutions : t.resolutionTable = s.resolutionTable) (hentry : entry.device = device) : t.Tabled where
  sources := hpolicy ▸ h.sources
  rules := by
    rw [hrules, hpolicy]
    exact h.rules
  devices := by
    intro other found hfind
    rw [findDevice, htable, find?_insert] at hfind
    split at hfind
    next hother =>
      cases hfind
      exact hentry.trans hother.symm
    next => exact h.devices other found hfind
  conflicts := hconflicts ▸ h.conflicts
  resolutions := hresolutions ▸ h.resolutions

theorem Tabled.registerIncarnation {device : DeviceIncarnationRef}
    (hregistered : s.registerIncarnation device = .ok t) : t.Tabled := by
  cases registerView_of_ok hregistered with
  | entered _ _ => exact h.enter rfl rfl rfl rfl rfl rfl
  | known _ _ => exact h.congr
  | @added entry hsome _ _ => exact h.enter rfl rfl rfl rfl rfl (h.devices device.device entry hsome)

theorem Tabled.setCurrent (device : DeviceIncarnationRef) : (s.setCurrent device).Tabled := by
  rw [Registry.setCurrent]
  split
  next entry hentry => exact h.enter rfl rfl rfl rfl rfl (h.devices device.device entry hentry)
  next => exact h

theorem Tabled.admitRequest (request : AdmissionRequest) (now : Tick) : (s.admitRequest request now).2.Tabled := by
  have hinserted : ∀ {t u : Registry} {ids : List EvidenceId}, t.Tabled →
      t.Displaces request now u ids → u.Tabled := by
    intro t u ids ht hevicts
    obtain ⟨streams, total, ledger, _, _, rfl⟩ := hevicts.frame
    exact ht.congr
  generalize hop : s.admitRequest request now = result
  cases s.admitRequest_view hop with
  | fenced _ hregistered _ =>
    exact (h.registerIncarnation hregistered).congr
  | duplicate ht _ | rejected ht _ _ _ =>
    exact (h.registerIncarnation ht.registered).congr
  | retained ht _ _ _ =>
    apply Tabled.refreshConflict
    exact (h.registerIncarnation ht.registered).congr
  | exhausted ht _ hbudget =>
    have hu := hinserted (h.registerIncarnation ht.registered) (evicts_of_budget hbudget)
    exact hu.congr
  | accepted ht _ hbudget =>
    have hu := hinserted (h.registerIncarnation ht.registered) (evicts_of_budget hbudget)
    apply Tabled.refreshConflict
    exact hu.congr
  | _ => exact h.congr

theorem Tabled.retire (retirement : RetirementRequest) (now : Tick) : (s.retire retirement now).2.Tabled := by
  generalize hop : s.retire retirement now = result
  cases s.retire_view hop with
  | retired _ _ _ _ =>
    apply Tabled.refreshConflict
    obtain ⟨_, _, hpush⟩ := s.retired_frame retirement now
    rw [hpush]
    exact h.congr
  | _ => exact h.congr

theorem Tabled.withSources {sources : List SourcePolicy} (hsources : sources.Pairwise (fun a b => a.id ≤ b.id))
    (now : Tick) : ((s.withSources sources).bumpPolicyRevision.refreshAllConflicts now).Tabled := by
  apply Tabled.refreshAllConflicts
  exact ⟨hsources, h.rules, h.devices, h.conflicts, h.resolutions⟩

theorem Tabled.updateSource (source : SourceId) (settled : SourcePolicy → Bool) (change : SourcePolicy → SourcePolicy)
    (now : Tick) (hchange : ∀ entry, (change entry).id = entry.id) :
    (s.updateSource source settled change now).2.Tabled := by
  generalize hop : s.updateSource source settled change now = result
  cases s.updateSource_view hop with
  | missing _ | kept _ _ => exact h
  | @changed target htarget _ =>
    refine h.withSources (ascends_of_map_eq ?_ h.sources) now
    -- the last entry of the source is the first one from the back
    rw [map_reverse, map_replaceFirst SourcePolicy.id, map_reverse, reverse_reverse]
    intro found hfound
    cases htarget.symm.trans (Option.mem_def.mp hfound)
    exact (hchange target).symm

theorem Tabled.upsertSourcePolicy (policy : SourcePolicy) (now : Tick) :
    (s.upsertSourcePolicy policy now).2.Tabled := by
  generalize hop : s.upsertSourcePolicy policy now = result
  cases s.upsertSourcePolicy_view hop with
  | refused => exact h
  | replaced _ =>
    refine h.withSources (ascends_of_map_eq (map_replaceFirst SourcePolicy.id ?_) h.sources) now
    intro found hfound
    simpa using List.find?_some (Option.mem_def.mp hfound)
  | added _ _ => exact h.withSources (insertionSort_ascends SourcePolicy.id _) now

theorem Tabled.beginDeviceIncarnation (device : DeviceIdentity) (now : Tick) :
    (s.beginDeviceIncarnation device now).2.Tabled := by
  generalize hop : s.beginDeviceIncarnation device now = result
  cases s.beginDeviceIncarnation_view hop with
  | entered _ _ => exact h.enter rfl rfl rfl rfl rfl rfl
  | @begun entry hsome _ =>
    apply Tabled.refreshAllConflicts
    exact h.enter rfl rfl rfl rfl rfl (h.devices device entry hsome)
  | _ => exact h

theorem Tabled.setDeviceIncarnation (device : DeviceIdentity) (incarnation : IncarnationId) (now : Tick) :
    (s.setDeviceIncarnation device incarnation now).2.Tabled := by
  generalize hop : s.setDeviceIncarnation device incarnation now = result
  cases s.setDeviceIncarnation_view hop with
  | refused => exact h
  | kept _ hregistered _ => exact h.registerIncarnation hregistered
  | changed _ hregistered _ =>
    apply Tabled.refreshAllConflicts
    exact ((h.registerIncarnation hregistered).setCurrent ⟨device, incarnation⟩).congr

end

theorem resolutions_ascend_push (h : s.resolutionTable.Pairwise (fun a b => a.id ≤ b.id))
    (resolution : ConflictResolution) :
    (s.pushResolution resolution).resolutionTable.Pairwise (fun a b => a.id ≤ b.id) := by
  rw [pushResolution]
  dsimp only
  split
  · refine ascends_of_map_eq (map_replaceFirst ConflictResolution.id ?_) h
    intro found hfound
    simpa using List.find?_some (Option.mem_def.mp hfound)
  · exact insertionSort_ascends ConflictResolution.id _

theorem Tabled.resolveConflict (h : s.Tabled) (conflict : ConflictId) (chosen : EvidenceId) (resolver : SourceId)
    (now : Tick) : (s.resolveConflict conflict chosen resolver now).2.Tabled := by
  have hpush : ∀ resolution, (s.pushResolution resolution).Tabled := by
    intro resolution
    have hascend := resolutions_ascend_push h.resolutions resolution
    obtain ⟨resolutions, dropped, hpushed⟩ := s.pushResolution_frame resolution
    rw [hpushed] at hascend ⊢
    exact { h with resolutions := hascend }
  generalize hop : s.resolveConflict conflict chosen resolver now = result
  cases s.resolveConflict_view hop with
  | refused _ => exact h
  | resolved _ => exact (hpush _).congr

theorem Tabled.evaluate (h : s.Tabled) (requirement : CapabilityRequirement) (now : Tick) :
    (s.evaluate requirement now).2.Tabled := by
  obtain ⟨_, _, _, _, hevaluate⟩ := s.evaluate_frame requirement now
  rw [hevaluate]
  exact h.congr

theorem Tabled.step (h : s.Tabled) (hadopt : op.Ordinary) : (s.step op).Tabled := by
  cases op with
  | admitRequest request now => exact h.admitRequest request now
  | retire retirement now => exact h.retire retirement now
  | beginDeviceIncarnation device now => exact h.beginDeviceIncarnation device now
  | setDeviceIncarnation device incarnation now => exact h.setDeviceIncarnation device incarnation now
  | revokeSource source now | restoreSource source now | setSourceAuthority source authority now =>
    refine h.updateSource source _ _ now ?_
    exact fun _ => rfl
  | upsertSourcePolicy policy now => exact h.upsertSourcePolicy policy now
  | resolveConflict conflict chosen resolver now => exact h.resolveConflict conflict chosen resolver now
  | setRuleGeneration generation =>
    rw [Registry.step, setRuleGeneration]
    split
    · exact h
    · split
      · exact h
      · split
        · exact h
        · exact { h with rules := rfl }
  | advanceEpoch => exact h.congr
  | setLogicalTick now =>
    rw [Registry.step, setLogicalTick]
    split
    · exact h
    · exact h.congr
  | setLimits limits => exact h.congr
  | evaluate requirement now => exact h.evaluate requirement now
  | adoptState state now => exact absurd rfl (hadopt state now)

/-! ### Evidence in order -/

/-- The evidence: what ties it to tombstones, and streams whose records and maxima are in order. -/
structure Filed (s : Registry) : Prop where
  fenced : FenceInvariant s
  sorted : s.AllStreams (fun _ stream => SortedRecords stream.records)
  levelled : s.Levelled

theorem Filed.init (policy : RegistryPolicy) : (init policy).Filed where
  fenced := .init policy
  sorted := fun _ _ hfind => nomatch hfind
  levelled := fun _ _ hfind => nomatch hfind

section

variable (h : s.AllStreams (fun _ stream => SortedRecords stream.records))
include h

theorem sorted_admitRequest (request : AdmissionRequest) (now : Tick) :
    (s.admitRequest request now).2.AllStreams (fun _ stream => SortedRecords stream.records) := by
  refine admitRequest_allStreams h (fun _ _ _ => Pairwise.nil) ?_ ?_ ?_
  · intro key stream id hsorted
    exact Pairwise.sublist eraseP_sublist hsorted
  · intro reason _ hfresh _ hsorted
    exact insertRecord_sorted hsorted hfresh
  · intro reason _ hfresh _ _ hsorted
    exact insertRecord_sorted hsorted hfresh

theorem sorted_retire (retirement : RetirementRequest) (now : Tick) :
    (s.retire retirement now).2.AllStreams (fun _ stream => SortedRecords stream.records) := by
  rcases s.streams_retire retirement now with hsame | ⟨-, hstreams⟩
  · exact h.of_streams_eq hsame
  · refine h.of_insert ?_ hstreams
    -- retiring changes neither generation nor id
    have hsorted : SortedRecords (s.streamAt (s.tombstoneOf retirement now).key).records :=
      AllStreams.at h (fun _ => Pairwise.nil) _
    refine pairwise_map.mpr (hsorted.imp ?_)
    intro a b hab
    rw [generationLess_iff, StoredEvidence.rank, StoredEvidence.rank] at hab ⊢
    simpa using hab

end

theorem Filed.step (h : s.Filed) (hadopt : op.Ordinary) : (s.step op).Filed := by
  refine ⟨h.fenced.move (.op s op hadopt), ?_, ?_⟩
  · rcases s.step_cases hadopt with ⟨request, now, -, hstep⟩ | ⟨retirement, now, -, hstep⟩ | hframe
    · rw [hstep]
      exact sorted_admitRequest h.sorted request now
    · rw [hstep]
      exact sorted_retire h.sorted retirement now
    · exact AllStreams.of_streams_eq h.sorted hframe.streams
  · rcases s.step_cases hadopt with ⟨request, now, -, hstep⟩ | ⟨retirement, now, -, hstep⟩ | hframe
    · rw [hstep]
      exact h.levelled.admitRequest request now
    · rw [hstep]
      exact h.levelled.retire retirement now
    · exact AllStreams.of_streams_eq h.levelled hframe.streams

/-! ### Snapshots in order -/

/-- The values of a map whose entries stand under their own keys ascend. -/
theorem values_ascend {κ β : Type} [LinearOrder κ] {keyOf : β → κ} {m : SortedMap κ β}
    (h : ∀ key value, m.find? key = some value → keyOf value = key) :
    m.values.Pairwise (fun a b => keyOf a < keyOf b) := by
  refine pairwise_map.mpr (m.ordered.imp_of_mem ?_)
  intro a b ha hb hab
  rw [h a.1 a.2 (mem_entries_iff.mp ha), h b.1 b.2 (mem_entries_iff.mp hb)]
  exact hab

theorem toState_canonical (htabled : s.Tabled) (hfiled : s.Filed) (hnext : s.nextIncarnation ≠ 0) :
    s.toState.Canonical where
  sources := htabled.sources
  nextIncarnation := hnext
  incarnations := values_ascend htabled.devices
  records := by
    refine flattenRecords_listed hfiled.fenced.keyed ?_
    intro key stream hfind
    refine (hfiled.sorted key stream hfind).imp ?_
    exact fun {a b} hab => le_of_lt ((generationLess_iff a b).mp hab)
  tombstones := values_ascend hfiled.fenced.tombstones
  conflicts := htabled.conflicts
  resolutions := htabled.resolutions

/-! ### Answers -/

/-- Two registries with the same facts and the same of everything else an answer is made of. -/
structure Alike (s t : Registry) : Prop where
  epoch : t.epoch = s.epoch
  ruleGeneration : t.ruleGeneration = s.ruleGeneration
  policyRevision : t.policyRevision = s.policyRevision
  devices : t.incarnationTable = s.incarnationTable
  resolutions : t.resolutionTable = s.resolutionTable
  evictions : t.evictionTable = s.evictionTable
  facts : ∀ device kind now override, t.rawFacts device kind now override = s.rawFacts device kind now override

section

variable (h : Alike s t)
include h

theorem Alike.findDevice : t.findDevice = s.findDevice := by
  funext device
  rw [Registry.findDevice, h.devices]
  rfl

theorem Alike.derive : t.derive = s.derive := by
  funext device kind now override
  rw [Registry.derive, h.facts]
  rfl

theorem Alike.sawEvicted : t.sawEvicted = s.sawEvicted := by
  funext device kind
  rw [Registry.sawEvicted, h.evictions]
  rfl

theorem Alike.query (request : CapabilityQuery) (now : Tick) : t.query request now = s.query request now := by
  simp only [Registry.query, queryUnknownReasons, h.findDevice, h.derive, h.sawEvicted, h.ruleGeneration, h.epoch,
    h.policyRevision]

theorem Alike.decideRequirement (requirement : CapabilityRequirement) (now : Tick) :
    t.decideRequirement requirement now = s.decideRequirement requirement now := by
  have hresolution : t.findResolution = s.findResolution := by
    funext id
    rw [findResolution, h.resolutions]
    rfl
  simp only [Registry.decideRequirement, verdict, unknownReasons, stampDecision, h.findDevice, h.derive, h.sawEvicted,
    hresolution, h.ruleGeneration, h.epoch, h.policyRevision]

end

/-! ### The restored registry -/

/-- The streams a snapshot shows: those with records. -/
theorem entries_restored (hfiled : s.Filed) :
    (restoreStreams s.flattenRecords).entries = s.streams.entries.filter (fun entry => entry.2.records ≠ []) := by
  apply entries_eq_of_mem_iff
  · exact (restoreStreams s.flattenRecords).ordered
  · exact s.streams.ordered.filter _
  · intro entry
    rw [mem_entries_iff, restoreStreams_flatten hfiled.fenced.keyed hfiled.sorted hfiled.levelled,
      mem_filter, mem_entries_iff, decide_eq_true_iff]
    constructor
    · intro hrestored
      split at hrestored
      · cases hrestored
      next hrecords =>
        have hat : s.streamAt entry.1 = entry.2 := Option.some.inj hrestored
        rw [hat] at hrecords
        refine ⟨?_, hrecords⟩
        cases hfind : s.streams.find? entry.1 with
        | none =>
          rw [← hat, streamAt_of_find_none hfind] at hrecords
          exact absurd rfl hrecords
        | some stream => rw [← hat, streamAt_of_find hfind]
    · rintro ⟨hfind, hrecords⟩
      rw [streamAt_of_find hfind, if_neg hrecords]

/-- Facts are made of the streams with records, the policy, the boot and the device table. -/
theorem rawFacts_congr (hpolicy : t.policy = s.policy) (hboot : t.bootEpoch = s.bootEpoch)
    (hdevices : t.incarnationTable = s.incarnationTable)
    (hstreams : t.streams.entries = s.streams.entries.filter (fun entry => entry.2.records ≠ []))
    (device : DeviceIncarnationRef) (kind : CapabilityKind) (now override : Tick) :
    t.rawFacts device kind now override = s.rawFacts device kind now override := by
  have hfact : t.factOf = s.factOf := by
    cases s
    cases t
    dsimp only at hpolicy hboot hdevices
    subst hpolicy hboot hdevices
    rfl
  rw [rawFacts, rawFacts, groupStreams, groupStreams, hstreams, hfact, filter_comm]
  apply flatMap_filter
  intro entry _ hempty
  have hnil : entry.2.records = [] := by simpa using hempty
  rw [hnil]
  rfl

theorem alike_restore (htabled : s.Tabled) (hfiled : s.Filed) : Alike s (restore s.policy s.toState) := by
  have hpolicy : (restore s.policy s.toState).policy = s.policy := by
    have hsources : sortSources s.policy.sources = s.policy.sources :=
      (insertionSort_eq_iff SourcePolicy.id _).mpr htabled.sources
    rw [restore, hsources]
  have hdevices : (restore s.policy s.toState).incarnationTable = s.incarnationTable :=
    foldl_insert_values DeviceIncarnationEntry.device s.incarnationTable htabled.devices
  constructor
  · rfl
  · exact htabled.rules.symm
  · rfl
  · exact hdevices
  · exact (insertionSort_eq_iff ConflictResolution.id _).mpr htabled.resolutions
  · rfl
  · exact rawFacts_congr hpolicy rfl hdevices (entries_restored hfiled)

end Registry

/-- After any run of operations other than adoption, restoring the snapshot under the registry's own policy gives a
    registry with the same snapshot, the same answer to every query and the same decision on every requirement. -/
theorem restored_registry_alike (policy : RegistryPolicy) (ops : List Op)
    (hops : ∀ op ∈ ops, op.Ordinary)
    (hnext : ((init policy).run ops).nextIncarnation ≠ 0) :
    let s := (init policy).run ops
    let restored := restore s.policy s.toState
    restored.toState = s.toState ∧
      (∀ request now, restored.query request now = s.query request now) ∧
      (∀ requirement now, (restored.evaluate requirement now).1 = (s.evaluate requirement now).1) := by
  intro s restored
  have hrun : ∀ (ops : List Op) (s : Registry), (∀ op ∈ ops, op.Ordinary) →
      s.Tabled → s.Filed → (s.run ops).Tabled ∧ (s.run ops).Filed := by
    intro ops
    induction ops with
    | nil => exact fun s _ htabled hfiled => ⟨htabled, hfiled⟩
    | cons op ops ih =>
      intro s hops htabled hfiled
      have hop := hops op mem_cons_self
      exact ih (s.step op) (fun other hother => hops other (mem_cons_of_mem op hother)) (htabled.step hop)
        (hfiled.step hop)
  obtain ⟨htabled, hfiled⟩ := hrun ops (init policy) hops (.init policy) (.init policy)
  have halike := alike_restore htabled hfiled
  refine ⟨?_, halike.query, halike.decideRequirement⟩
  have hcanonical := toState_canonical htabled hfiled hnext
  refine hcanonical.toState_restore.trans ?_
  have hrules : s.toState.policy.ruleGeneration = s.toState.ruleGeneration := htabled.rules.symm
  rw [hrules]

/-- Three reports of two devices, one of them superseded. -/
theorem restored_registry_alike_three_reports : threeReports.totalRecords = 3 ∧
      (restore threeReports.policy threeReports.toState).toState = threeReports.toState :=
  ⟨by decide +kernel,
    (restored_registry_alike policy reports (by simp [reports, Op.Ordinary]) (by decide +kernel)).1⟩

end Ocreg
