/-
Module: Ocreg.Registry.Step
Purpose: The public operations as one transition function, runs of them, and what each kind of operation can
  do to the stored evidence.
-/
import Ocreg.Registry.Evaluate
import Ocreg.Registry.Restore

namespace Ocreg

open List Registry SortedMap

variable {u : Registry} {key : EvidenceKey} {evidence : CapabilityEvidence} {record : StoredEvidence}

variable {s t : Registry}

/-- The public operations that can change a registry. -/
inductive Op where
  | admitRequest (request : AdmissionRequest) (now : Tick)
  | retire (request : RetirementRequest) (now : Tick)
  | beginDeviceIncarnation (device : DeviceIdentity) (now : Tick)
  | setDeviceIncarnation (device : DeviceIdentity) (incarnation : IncarnationId) (now : Tick)
  | revokeSource (source : SourceId) (now : Tick)
  | restoreSource (source : SourceId) (now : Tick)
  | setSourceAuthority (source : SourceId) (authority : AuthorityRank) (now : Tick)
  | upsertSourcePolicy (policy : SourcePolicy) (now : Tick)
  | resolveConflict (conflict : ConflictId) (chosen : EvidenceId) (resolver : SourceId) (now : Tick)
  | setRuleGeneration (generation : RuleGeneration)
  | advanceEpoch
  | setLogicalTick (now : Tick)
  | setLimits (limits : RegistryLimits)
  | evaluate (requirement : CapabilityRequirement) (now : Tick)
  | adoptState (state : RegistryState) (now : Tick)

variable {op : Op}

/-- Any operation but adoption. -/
abbrev Op.Ordinary (op : Op) : Prop := ∀ state now, op ≠ .adoptState state now

/-- An operation is one of a kind or none of it. -/
theorem Op.made_or {α β : Type} (op : Op) (make : α → β → Op) : (∃ a b, op = make a b) ∨ ∀ a b, op ≠ make a b := by
  by_cases h : ∃ a b, op = make a b
  · exact .inl h
  · push Not at h
    exact .inr h

namespace Registry

/-- The registry after an operation. -/
def step (s : Registry) : Op → Registry
  | .admitRequest request now => (s.admitRequest request now).2
  | .retire request now => (s.retire request now).2
  | .beginDeviceIncarnation device now => (s.beginDeviceIncarnation device now).2
  | .setDeviceIncarnation device incarnation now => (s.setDeviceIncarnation device incarnation now).2
  | .revokeSource source now => (s.revokeSource source now).2
  | .restoreSource source now => (s.restoreSource source now).2
  | .setSourceAuthority source authority now => (s.setSourceAuthority source authority now).2
  | .upsertSourcePolicy policy now => (s.upsertSourcePolicy policy now).2
  | .resolveConflict conflict chosen resolver now => (s.resolveConflict conflict chosen resolver now).2
  | .setRuleGeneration generation => (s.setRuleGeneration generation).2
  | .advanceEpoch => s.advanceEpoch.2
  | .setLogicalTick now => (s.setLogicalTick now).2
  | .setLimits limits => s.setLimits limits
  | .evaluate requirement now => (s.evaluate requirement now).2
  | .adoptState state now => (s.adoptState state now).2

/-- A run of operations. -/
def run (s : Registry) (ops : List Op) : Registry := ops.foldl step s

end Registry

/-- The admission was accepted as a new or a superseding record. -/
def Outcome.isAccepted : Outcome AdmissionOutcome → Bool
  | .success outcome _ => outcome.reason = .acceptedNew || outcome.reason = .acceptedSuperseding
  | .failure _ _ => false

/-- The retirement was accepted and is no repetition of an earlier one. -/
def Outcome.tookEffect : Outcome RetirementOutcome → Bool
  | .success outcome _ => !outcome.idempotent
  | .failure _ _ => false

/-- The stream and generation a step accepts. -/
def Registry.acceptance (s : Registry) : Op → Option (EvidenceKey × RecordGeneration)
  | .admitRequest request now =>
    if (s.admitRequest request now).1.isAccepted then some (request.key, request.generation) else none
  | _ => none

/-! ### Operations that leave the evidence alone -/

/-- `t` has the evidence of `s`, under the same boot. -/
structure EvidenceFrame (s t : Registry) : Prop where
  streams : t.streams = s.streams
  tombstones : t.tombstones = s.tombstones
  totalRecords : t.totalRecords = s.totalRecords
  bootEpoch : t.bootEpoch = s.bootEpoch
  bootPolicy : t.policy.bootPolicy = s.policy.bootPolicy
  tombstonesDropped : t.counters.tombstonesDropped = s.counters.tombstonesDropped

namespace EvidenceFrame

theorem refl (s : Registry) : EvidenceFrame s s := ⟨rfl, rfl, rfl, rfl, rfl, rfl⟩

theorem trans (hst : EvidenceFrame s t) (htu : EvidenceFrame t u) : EvidenceFrame s u :=
  ⟨htu.streams.trans hst.streams, htu.tombstones.trans hst.tombstones,
    htu.totalRecords.trans hst.totalRecords, htu.bootEpoch.trans hst.bootEpoch,
    htu.bootPolicy.trans hst.bootPolicy, htu.tombstonesDropped.trans hst.tombstonesDropped⟩

theorem streamAt {s t : Registry} (h : EvidenceFrame s t) (key : EvidenceKey) : t.streamAt key = s.streamAt key := by
  rw [Registry.streamAt, Registry.findStream, h.streams]
  rfl

end EvidenceFrame

namespace Registry

/-- Recomputing all conflicts touches the conflict table and one counter only. -/
theorem refreshAllConflicts_frame (s : Registry) (now : Tick) : ∃ conflicts dropped, s.refreshAllConflicts now =
      { s with conflictTable := conflicts, counters := { s.counters with conflictsDropped := dropped } } := by
  rw [refreshAllConflicts]
  have hfold : ∀ (groups : List (DeviceIncarnationRef × CapabilityKind)) (t : Registry), (∃ conflicts dropped, t =
        { s with conflictTable := conflicts, counters := { s.counters with conflictsDropped := dropped } }) →
      ∃ conflicts dropped, groups.foldl (fun s group => s.refreshConflict group.1 group.2 now) t =
        { s with conflictTable := conflicts, counters := { s.counters with conflictsDropped := dropped } } := by
    intro groups
    induction groups with
    | nil => exact fun t ht => ht
    | cons group groups ih =>
      rintro t ⟨conflicts, dropped, rfl⟩
      obtain ⟨conflicts', dropped', hrefresh⟩ :=
        refreshConflict_frame { s with conflictTable := conflicts,
                                       counters := { s.counters with conflictsDropped := dropped } }
          group.1 group.2 now
      exact ih _ ⟨conflicts', dropped', hrefresh⟩
  exact hfold _ _ ⟨[], s.counters.conflictsDropped, rfl⟩

theorem refreshAllConflicts_epoch (s : Registry) (now : Tick) : (s.refreshAllConflicts now).epoch = s.epoch := by
  obtain ⟨_, _, hrefresh⟩ := s.refreshAllConflicts_frame now
  rw [hrefresh]

theorem refreshAllConflicts_evidence (now : Tick) (h : EvidenceFrame s t) :
    EvidenceFrame s (t.refreshAllConflicts now) := by
  obtain ⟨conflicts, dropped, hrefresh⟩ := t.refreshAllConflicts_frame now
  rw [hrefresh]
  exact h.trans ⟨rfl, rfl, rfl, rfl, rfl, rfl⟩

theorem refreshConflict_evidence (s : Registry) (device : DeviceIncarnationRef) (kind : CapabilityKind)
    (now : Tick) : EvidenceFrame s (s.refreshConflict device kind now) := by
  obtain ⟨conflicts, dropped, hrefresh⟩ := s.refreshConflict_frame device kind now
  rw [hrefresh]
  exact ⟨rfl, rfl, rfl, rfl, rfl, rfl⟩

theorem registerIncarnation_evidence {device : DeviceIncarnationRef}
    (h : s.registerIncarnation device = .ok t) : EvidenceFrame s t := by
  obtain ⟨table, next, rfl⟩ := registerIncarnation_frame h
  exact ⟨rfl, rfl, rfl, rfl, rfl, rfl⟩

end Registry

/-! ### What each operation may change -/

/-- The operations on device incarnations. -/
def Op.editsDevices : Op → Bool
  | .beginDeviceIncarnation _ _ | .setDeviceIncarnation _ _ _ => true
  | _ => false

/-- The operations on the source list of the policy. -/
def Op.editsSources : Op → Bool
  | .revokeSource _ _ | .restoreSource _ _ | .setSourceAuthority _ _ _ | .upsertSourcePolicy _ _ => true
  | _ => false

/-- The fields each operation but adoption may change. -/
inductive Registry.Touches (s : Registry) : Op → Registry → Prop
  | unchanged {op : Op} : Touches s op s
  | admitted {request : AdmissionRequest} {now : Tick} {t : Registry} (h : Registry.AdmitFrame s t) :
      Touches s (.admitRequest request now) t
  | retired (request : RetirementRequest) (now : Tick) (streams : SortedMap EvidenceKey Stream)
      (tombstones : SortedMap EvidenceKey RetirementRecord) (conflicts : List ConflictGroup)
      (counters : RegistryCounters) :
      Touches s (.retire request now) { s with streams, tombstones, conflictTable := conflicts, counters }
  | incarnated {op : Op} (hop : op.editsDevices = true)
      (table : SortedMap DeviceIdentity DeviceIncarnationEntry) (next : UInt64) (epoch : RegistryEpoch)
      (revision : PolicyRevision) (conflicts : List ConflictGroup) (dropped : UInt64) :
      Touches s op
        { s with
          incarnationTable := table
          nextIncarnation := next
          epoch
          policyRevision := revision
          conflictTable := conflicts
          counters := { s.counters with conflictsDropped := dropped } }
  | configured {op : Op} (hop : op.editsSources = true) (sources : List SourcePolicy) (epoch : RegistryEpoch)
      (revision : PolicyRevision) (conflicts : List ConflictGroup) (dropped : UInt64) :
      Touches s op
        { s with
          policy := { s.policy with sources }
          epoch
          policyRevision := revision
          conflictTable := conflicts
          counters := { s.counters with conflictsDropped := dropped } }
  | resolved (conflict : ConflictId) (chosen : EvidenceId) (resolver : SourceId) (now : Tick)
      (resolutions : List ConflictResolution) (dropped resolved : UInt64) :
      Touches s (.resolveConflict conflict chosen resolver now)
        { s with
          resolutionTable := resolutions
          counters := { s.counters with resolutionsDropped := dropped, conflictsResolved := resolved } }
  | ruled (generation : RuleGeneration) :
      Touches s (.setRuleGeneration generation)
        { s with
          ruleGeneration := generation
          policy := { s.policy with ruleGeneration := generation } }.bumpPolicyRevision
  | advanced : Touches s .advanceEpoch s.bumpPolicyRevision
  | ticked (now : Tick) : Touches s (.setLogicalTick now) { s with logicalTick := now }
  | limited (limits : RegistryLimits) : Touches s (.setLimits limits) (s.setLimits limits)
  | decided (requirement : CapabilityRequirement) (now : Tick)
      (decisions : SortedMap DecisionId CompatibilityDecision) (order : List DecisionId)
      (evicted emitted : UInt64) :
      Touches s (.evaluate requirement now)
        { s with
          decisions
          decisionOrder := order
          counters := { s.counters with decisionsEvicted := evicted, decisionsEmitted := emitted } }

namespace Registry

section

variable (s)

theorem retire_frame (request : RetirementRequest) (now : Tick) :
    ∃ streams tombstones conflicts counters, (s.retire request now).2 =
      { s with streams := streams, tombstones := tombstones, conflictTable := conflicts, counters := counters } := by
  generalize hop : s.retire request now = result
  cases s.retire_view hop with
  | retired _ _ _ _ =>
    obtain ⟨tombstones, dropped, hpush⟩ := s.retired_frame request now
    rw [settleRetired, hpush]
    obtain ⟨conflicts, lost, hrefresh⟩ := refreshConflict_frame (countRetired
      { s.retireStream (s.tombstoneOf request now) with
        tombstones := tombstones
        counters := { s.counters with tombstonesDropped := dropped } })
      (s.tombstoneOf request now).key.device (s.tombstoneOf request now).key.kind
      (s.tombstoneOf request now).retiredAt
    exact ⟨_, _, _, _, hrefresh⟩
  | _ => exact ⟨_, _, _, _, rfl⟩

theorem dropDecisions_frame (fuel : Nat) : ∃ decisions order evicted, s.dropDecisions fuel =
      { s with
        decisions := decisions
        decisionOrder := order
        counters := { s.counters with decisionsEvicted := evicted } } := by
  induction fuel generalizing s with
  | zero => exact ⟨_, _, _, rfl⟩
  | succ fuel ih =>
    rw [dropDecisions]
    split
    · split
      · exact ⟨_, _, _, rfl⟩
      · exact ih _
    · exact ⟨_, _, _, rfl⟩

/-- An evaluation touches the retained decisions and their counters only. -/
theorem evaluate_frame (requirement : CapabilityRequirement) (now : Tick) :
    ∃ decisions order evicted emitted, (s.evaluate requirement now).2 =
      { s with
        decisions := decisions
        decisionOrder := order
        counters := { s.counters with decisionsEvicted := evicted, decisionsEmitted := emitted } } := by
  rw [evaluate]
  dsimp only
  rw [pushDecision]
  split
  · exact ⟨_, _, _, _, rfl⟩
  · obtain ⟨decisions, order, evicted, hdropped⟩ := s.dropDecisions_frame s.decisionOrder.length
    dsimp only
    rw [hdropped]
    exact ⟨_, _, _, _, rfl⟩

theorem resolveConflict_touches (conflict : ConflictId) (chosen : EvidenceId) (resolver : SourceId) (now : Tick) :
    Touches s (.resolveConflict conflict chosen resolver now) (s.resolveConflict conflict chosen resolver now).2 := by
  generalize hop : s.resolveConflict conflict chosen resolver now = result
  cases s.resolveConflict_view hop with
  | refused _ => exact .unchanged
  | @resolved group _ =>
    obtain ⟨resolutions, dropped, hpushed⟩ := s.pushResolution_frame (s.resolutionOf group chosen resolver now)
    dsimp only
    rw [hpushed]
    exact .resolved _ _ _ _ _ _ _

theorem beginDeviceIncarnation_touches (device : DeviceIdentity) (now : Tick) :
    Touches s (.beginDeviceIncarnation device now) (s.beginDeviceIncarnation device now).2 := by
  generalize hop : s.beginDeviceIncarnation device now = result
  cases s.beginDeviceIncarnation_view hop with
  | entered _ _ => exact .incarnated rfl _ _ _ _ _ _
  | begun _ _ =>
    dsimp only
    obtain ⟨conflicts, dropped, hrefresh⟩ := refreshAllConflicts_frame (bumpPolicyRevision { s with
      incarnationTable := _
      nextIncarnation := _ }) now
    rw [hrefresh]
    exact .incarnated rfl _ _ _ _ _ _
  | _ => exact .unchanged

theorem setDeviceIncarnation_touches (device : DeviceIdentity) (incarnation : IncarnationId) (now : Tick) :
    Touches s (.setDeviceIncarnation device incarnation now) (s.setDeviceIncarnation device incarnation now).2 := by
  generalize hop : s.setDeviceIncarnation device incarnation now = result
  cases s.setDeviceIncarnation_view hop with
  | refused => exact .unchanged
  | kept _ hregistered _ =>
    obtain ⟨table, next, rfl⟩ := registerIncarnation_frame hregistered
    exact .incarnated rfl _ _ _ _ _ _
  | changed _ hregistered _ =>
    obtain ⟨table, next, rfl⟩ := registerIncarnation_frame hregistered
    dsimp only
    obtain ⟨conflicts, dropped, hrefresh⟩ := refreshAllConflicts_frame
      (setCurrent { s with incarnationTable := table, nextIncarnation := next }
        ⟨device, incarnation⟩).bumpPolicyRevision now
    rw [hrefresh, setCurrent]
    split
    · exact .incarnated rfl _ _ _ _ _ _
    · exact .incarnated rfl _ _ _ _ _ _

theorem withSources_touches (hop : op.editsSources = true) (sources : List SourcePolicy)
    (now : Tick) : Touches s op ((s.withSources sources).bumpPolicyRevision.refreshAllConflicts now) := by
  obtain ⟨conflicts, dropped, hrefresh⟩ := (s.withSources sources).bumpPolicyRevision.refreshAllConflicts_frame now
  rw [hrefresh]
  exact .configured hop _ _ _ _ _

theorem updateSource_touches (hedits : op.editsSources = true) (source : SourceId) (settled : SourcePolicy → Bool)
    (change : SourcePolicy → SourcePolicy) (now : Tick) :
    Touches s op (s.updateSource source settled change now).2 := by
  generalize hop : s.updateSource source settled change now = result
  cases s.updateSource_view hop with
  | changed _ _ => exact s.withSources_touches hedits _ now
  | _ => exact .unchanged

theorem upsertSourcePolicy_touches (policy : SourcePolicy) (now : Tick) :
    Touches s (.upsertSourcePolicy policy now) (s.upsertSourcePolicy policy now).2 := by
  generalize hop : s.upsertSourcePolicy policy now = result
  cases s.upsertSourcePolicy_view hop with
  | refused => exact .unchanged
  | _ => exact s.withSources_touches rfl _ now

/-- Inversion of a step, by the fields it changes. -/
theorem step_touches (hadopt : op.Ordinary) : Touches s op (s.step op) := by
  cases op with
  | admitRequest request now => exact .admitted (s.admitRequest_frame request now)
  | retire request now =>
    obtain ⟨streams, tombstones, conflicts, counters, hretire⟩ := s.retire_frame request now
    rw [step, hretire]
    exact .retired _ _ _ _ _ _
  | beginDeviceIncarnation device now => exact s.beginDeviceIncarnation_touches device now
  | setDeviceIncarnation device incarnation now => exact s.setDeviceIncarnation_touches device incarnation now
  | revokeSource source now | restoreSource source now | setSourceAuthority source _ now =>
    exact s.updateSource_touches rfl source _ _ now
  | upsertSourcePolicy policy now => exact s.upsertSourcePolicy_touches policy now
  | resolveConflict conflict chosen resolver now => exact s.resolveConflict_touches conflict chosen resolver now
  | setRuleGeneration generation =>
    rw [step, setRuleGeneration]
    split
    · exact .unchanged
    · split
      · exact .unchanged
      · split
        · exact .unchanged
        · exact .ruled generation
  | advanceEpoch => exact .advanced
  | setLogicalTick now =>
    rw [step, setLogicalTick]
    split
    · exact .unchanged
    · exact .ticked now
  | setLimits limits => exact .limited limits
  | evaluate requirement now =>
    obtain ⟨decisions, order, evicted, emitted, hevaluate⟩ := s.evaluate_frame requirement now
    rw [step, hevaluate]
    exact .decided _ _ _ _ _ _
  | adoptState state now => exact absurd rfl (hadopt state now)

end

/-- Only resolutions and adoption touch the resolution table. -/
theorem Touches.resolutions (h : Touches s op t)
    (hresolve : ∀ conflict chosen resolver now, op ≠ .resolveConflict conflict chosen resolver now) :
    t.resolutionTable = s.resolutionTable := by
  cases h with
  | admitted hframe =>
    obtain ⟨_, _, _, _, _, _, _, rfl, _⟩ := hframe
    rfl
  | resolved conflict chosen resolver now _ _ _ => exact absurd rfl (hresolve conflict chosen resolver now)
  | _ => rfl

/-- Only admissions and adoption touch the ledger. -/
theorem Touches.ledger (h : Touches s op t)
    (hadmits : ∀ request now, op ≠ .admitRequest request now) : t.evictionTable = s.evictionTable := by
  cases h with
  | admitted _ => exact absurd rfl (hadmits _ _)
  | _ => rfl

/-- Every operation but admission, retirement and adoption leaves the evidence alone. -/
theorem step_frame (s : Registry) (hadmitted : ∀ request now, op ≠ .admitRequest request now)
    (hretire : ∀ request now, op ≠ .retire request now) (hadopt : op.Ordinary) : EvidenceFrame s (s.step op) := by
  have htouches := s.step_touches hadopt
  generalize s.step op = t at htouches
  cases htouches with
  | unchanged => exact .refl s
  | admitted _ => exact absurd rfl (hadmitted _ _)
  | retired request now _ _ _ _ => exact absurd rfl (hretire request now)
  | _ => exact ⟨rfl, rfl, rfl, rfl, rfl, rfl⟩

/-- A step other than adoption is an admission, a retirement, or leaves the evidence alone. -/
theorem step_cases (s : Registry) (hadopt : op.Ordinary) :
    (∃ request now, op = .admitRequest request now ∧ s.step op = (s.admitRequest request now).2) ∨
    (∃ request now, op = .retire request now ∧ s.step op = (s.retire request now).2) ∨
    EvidenceFrame s (s.step op) := by
  rcases op.made_or .admitRequest with ⟨request, now, rfl⟩ | hadmitted
  · exact .inl ⟨request, now, rfl, rfl⟩
  · rcases op.made_or .retire with ⟨request, now, rfl⟩ | hretire
    · exact .inr (.inl ⟨request, now, rfl, rfl⟩)
    · exact .inr (.inr (s.step_frame hadmitted hretire hadopt))

/-! ### What an admission does to the streams -/

variable {P : EvidenceKey → Stream → Prop} {s t : Registry} {request : AdmissionRequest} {now : Tick}

theorem streamAt_insertInStream (s : Registry) (key : EvidenceKey) (record : StoredEvidence)
    (maxGeneration : RecordGeneration) : (s.insertInStream key record maxGeneration).streamAt key =
      ⟨insertRecord record (s.streamAt key).records, maxGeneration⟩ := by
  apply streamAt_of_find
  rw [insertInStream, find?_insert_self]

theorem streamAt_insertInStream_of_ne {key' : EvidenceKey} (s : Registry) (record : StoredEvidence)
    (maxGeneration : RecordGeneration) (h : key' ≠ key) :
    (s.insertInStream key record maxGeneration).streamAt key' = s.streamAt key' := by
  rw [streamAt, findStream, insertInStream, find?_insert_of_ne _ _ h]
  rfl

/-- An insertion adds its record to one stream and leaves the rest. -/
theorem mem_insertInStream {own : EvidenceKey} {inserted : StoredEvidence} {maxGeneration : RecordGeneration} :
    record ∈ ((s.insertInStream own inserted maxGeneration).streamAt key).records ↔
      record ∈ (s.streamAt key).records ∨ key = own ∧ record = inserted := by
  by_cases hkey : key = own
  · subst hkey
    rw [streamAt_insertInStream]
    simp [mem_insertRecord, or_comm]
  · rw [streamAt_insertInStream_of_ne _ _ _ hkey]
    simp [hkey]

theorem tombstones_admitRequest (s : Registry) (request : AdmissionRequest) (now : Tick) :
    (s.admitRequest request now).2.tombstones = s.tombstones := by
  obtain ⟨_, _, _, _, _, _, _, hframe, _⟩ := s.admitRequest_frame request now
  rw [hframe]

/-- Keeping a rejected record takes nothing away. -/
theorem mem_retainRejected (hrecord : record ∈ (s.streamAt key).records)
    (evidence : CapabilityEvidence) (now : Tick) :
    record ∈ ((s.retainRejected evidence now).streamAt key).records := by
  rw [retainRejected, (refreshConflict_evidence _ _ _ _).streamAt]
  exact mem_insertInStream.mpr (.inl hrecord)

theorem retainRejected_stores (s : Registry) (evidence : CapabilityEvidence) (now : Tick) :
    ∃ record ∈ ((s.retainRejected evidence now).streamAt evidence.key).records,
      record.lifecycle = .rejected ∧ record.id = evidence.id := by
  rw [retainRejected, (refreshConflict_evidence _ _ _ _).streamAt, streamAt_insertInStream]
  exact ⟨_, mem_insertRecord.mpr (.inl rfl), rfl, rfl⟩

/-- A rollback leaves a stream without the record, or no stream. -/
theorem rollbackAdmission_allStreams {id : EvidenceId} (hs : s.AllStreams P)
    (hrest : P key ((s.streamAt key).without id)) : (s.rollbackAdmission key id).AllStreams P := by
  by_cases hempty : ((s.streamAt key).without id).records = []
  · have herase : (s.rollbackAdmission key id).streams = s.streams.erase key := by
      rw [rollbackAdmission, if_pos hempty]
    exact hs.of_erase herase
  · have hinsert : (s.rollbackAdmission key id).streams = s.streams.insert key ((s.streamAt key).without id) := by
      rw [rollbackAdmission, if_neg hempty]
    exact hs.of_insert hrest hinsert

section

variable (s)

theorem streamAt_rollbackAdmission (key : EvidenceKey) (id : EvidenceId) :
    ((s.rollbackAdmission key id).streamAt key).records = ((s.streamAt key).without id).records := by
  by_cases hempty : ((s.streamAt key).without id).records = []
  · have hnone : (s.rollbackAdmission key id).streams.find? key = none := by
      rw [rollbackAdmission, if_pos hempty, find?_erase, if_pos rfl]
    rw [streamAt_of_find_none hnone, hempty]
    rfl
  · have hsome : (s.rollbackAdmission key id).streams.find? key = some ((s.streamAt key).without id) := by
      rw [rollbackAdmission, if_neg hempty, find?_insert_self]
    rw [streamAt_of_find hsome]

theorem streamAt_rollbackAdmission_of_ne {other : EvidenceKey} (id : EvidenceId)
    (hne : other ≠ key) : (s.rollbackAdmission key id).streamAt other = s.streamAt other := by
  rw [streamAt, findStream, rollbackAdmission]
  dsimp only
  split
  · rw [find?_erase_of_ne _ hne]
    rfl
  · rw [find?_insert_of_ne _ _ hne]
    rfl

@[simp] theorem evidenceOf_key (request : AdmissionRequest) : (s.evidenceOf request).key = request.key := rfl

@[simp] theorem evidenceOf_generation (request : AdmissionRequest) :
    (s.evidenceOf request).generation = request.generation := rfl

end

/-- The registered registry asserts the same evidence. -/
theorem evidenceOf_registered {device : DeviceIncarnationRef} (h : s.registerIncarnation device = .ok t) :
    t.evidenceOf request = s.evidenceOf request := by
  obtain ⟨table, next, rfl⟩ := registerIncarnation_frame h
  rfl

/-- An advancing record has a generation above its stream's maximum. -/
theorem maxGeneration_lt_of_advancing (ht : Admissible s request now t) (hnew : Advancing t (t.evidenceOf request)) :
    (t.streamAt request.key).maxGeneration < request.generation := by
  have hnonzero := generation_ne_zero_of_accepted ht.accepted
  have hadvances := hnew.advances
  rw [isRegression, not_and_or, not_not, not_le] at hadvances
  rcases hadvances with hzero | hlt
  · have hzero' : (t.streamAt request.key).maxGeneration = 0 := hzero
    rw [hzero']
    exact lt_of_le_of_ne UInt64.zero_le (Ne.symm hnonzero)
  · exact hlt

/-- A request gets to its stream when there is room for it and no tombstone stands in the way. -/
theorem streamRefusal_eq_none : s.streamRefusal request = none ↔
    (s.findStream request.key = none → s.countStreams < s.policy.limits.maxStreams.toNat) ∧
      ∀ tombstone ∈ s.findTombstone request.key, tombstone.generation < request.generation := by
  rw [streamRefusal]
  split
  next hfull => exact iff_of_false (by simp) fun h => absurd hfull.2 (not_le.mpr (h.1 hfull.1))
  next hroom =>
    have hopen : s.findStream request.key = none → s.countStreams < s.policy.limits.maxStreams.toNat :=
      fun hnew => not_le.mp fun hfull => hroom ⟨hnew, hfull⟩
    rw [and_iff_right hopen]
    simp

theorem above_tombstone_of_admissible (ht : Admissible s request now t) :
    ∀ tombstone ∈ s.findTombstone request.key, tombstone.generation < request.generation := by
  have hopen := (streamRefusal_eq_none.mp ht.unfenced).2
  rwa [findTombstone, (registerIncarnation_evidence ht.registered).tombstones] at hopen

/-- A record new to its stream has an id of its own. -/
theorem fresh_of_not_duplicate (h : t.isDuplicate evidence = false) :
    ∀ record ∈ (t.streamAt evidence.key).records, record.id ≠ evidence.id := by
  intro record hrecord hid
  rw [isDuplicate, any_eq_false] at h
  exact h record hrecord (by simpa using hid)

/-- The rule for invariants of single streams under admission: they hold of the empty stream, survive the
    removal of any record, and survive the two insertions an admission can make. -/
theorem admitRequest_allStreams (hs : s.AllStreams P)
    (hempty : ∀ t, s.admissionRefusal request now = none → s.registerIncarnation request.device = .ok t →
      P request.key .empty)
    (hwithout : ∀ key stream id, P key stream → P key (stream.without id))
    (hrejected : ∀ reason, (s.admissionRefusal request now = none) →
      (∀ record ∈ (s.streamAt request.key).records, record.id ≠ (s.evidenceOf request).id) →
      request.generation ≤ (s.streamAt request.key).maxGeneration → P request.key (s.streamAt request.key) →
      P request.key ⟨insertRecord (storedOf (s.evidenceOf request) .rejected reason now)
        (s.streamAt request.key).records, (s.streamAt request.key).maxGeneration⟩)
    (hadmitted : ∀ reason, (s.admissionRefusal request now = none) →
      (∀ record ∈ (s.streamAt request.key).records, record.id ≠ (s.evidenceOf request).id) →
      (s.streamAt request.key).maxGeneration < request.generation →
      (∀ tombstone ∈ s.findTombstone request.key, tombstone.generation < request.generation) →
      P request.key (s.streamAt request.key) →
      P request.key ⟨insertRecord (storedOf (s.evidenceOf request) .admitted reason now)
        (s.streamAt request.key).records, request.generation⟩) :
    (s.admitRequest request now).2.AllStreams P := by
  have hregistered : ∀ t, Admissible s request now t → t.AllStreams P ∧
      t.streamAt request.key = s.streamAt request.key ∧ t.evidenceOf request = s.evidenceOf request := by
    intro t ht
    have hframe := registerIncarnation_evidence ht.registered
    exact ⟨hs.of_streams_eq hframe.streams, hframe.streamAt _, evidenceOf_registered ht.registered⟩
  -- the stream right after the insertion, shared by the last two cases
  have hinserted : ∀ t, Admissible s request now t → Advancing t (t.evidenceOf request) →
      (t.insertAdmitted (t.evidenceOf request) now).AllStreams P := by
    intro t ht hnew
    obtain ⟨hstreams, hat, hevidence⟩ := hregistered t ht
    have hlt := maxGeneration_lt_of_advancing ht hnew
    have hfresh := fresh_of_not_duplicate hnew.fresh
    rw [evidenceOf_key, hat, hevidence] at hfresh
    rw [hat] at hlt
    refine hstreams.of_insert ?_ rfl
    rw [evidenceOf_key, evidenceOf_generation, hat, hevidence]
    exact hadmitted _ ht.accepted hfresh hlt (above_tombstone_of_admissible ht)
      (hs.at_key (hempty t ht.accepted ht.registered))
  generalize hop : s.admitRequest request now = result
  cases s.admitRequest_view hop with
  | fenced _ hreg _ => exact hs.of_streams_eq (registerIncarnation_evidence hreg).streams
  | duplicate ht _ | rejected ht _ _ _ => exact (hregistered _ ht).1.of_streams_eq rfl
  | @retained t ht hfresh hregression _ =>
    obtain ⟨hstreams, hat, hevidence⟩ := hregistered t ht
    have hfresh' := fresh_of_not_duplicate hfresh
    rw [evidenceOf_key, hat, hevidence] at hfresh'
    have hle : request.generation ≤ (s.streamAt request.key).maxGeneration := by
      rw [← hat]
      exact hregression.2
    refine AllStreams.of_streams_eq ?_ (refreshConflict_evidence _ _ _ _).streams
    refine hstreams.of_insert ?_ rfl
    have hat' : t.countRejected.streamAt request.key = s.streamAt request.key := hat
    rw [evidenceOf_key, hat', hevidence]
    exact hrejected _ ht.accepted hfresh' hle (hs.at_key (hempty t ht.accepted ht.registered))
  | @exhausted t u ids ht hnew hbudget =>
    have hu := (evicts_of_budget hbudget).allStreams hwithout (hinserted t ht hnew)
    have hat := hu.at_key (hempty t ht.accepted ht.registered)
    exact (rollbackAdmission_allStreams hu (hwithout _ _ _ hat)).of_streams_eq rfl
  | @accepted t u ids ht hnew hbudget =>
    have hu := (evicts_of_budget hbudget).allStreams hwithout (hinserted t ht hnew)
    exact hu.of_streams_eq (refreshConflict_evidence u.countAccepted _ _ _).streams
  | _ => exact hs.of_streams_eq rfl

/-- What a rolled back admission leaves of its stream was there before it. -/
theorem rollback_sublist {ids : List EvidenceId}
    (hfresh : ∀ record ∈ (s.streamAt evidence.key).records, record.id ≠ evidence.id)
    (hevicts : Evicts evidence.id now (s.insertAdmitted evidence now) u ids) (key : EvidenceKey) :
    ((u.rollbackAdmission evidence.key evidence.id).streamAt key).records.Sublist (s.streamAt key).records := by
  have hsub := hevicts.streamAt_sublist key
  by_cases hkey : key = evidence.key
  · subst hkey
    rw [insertAdmitted, streamAt_insertInStream] at hsub
    rw [streamAt_rollbackAdmission]
    generalize hincoming : storedOf evidence .admitted (acceptanceReason (s.streamAt evidence.key)) now = incoming
      at hsub
    have hid : incoming.id = evidence.id := by rw [← hincoming, storedOf_id]
    rw [← hid] at hfresh ⊢
    have herased := hsub.eraseP (p := fun record => record.id == incoming.id)
    rwa [Stream.eraseP_insertRecord hfresh] at herased
  · rw [insertAdmitted, streamAt_insertInStream_of_ne _ _ _ hkey] at hsub
    rw [streamAt_rollbackAdmission_of_ne _ _ hkey]
    exact hsub

theorem streamAt_registered {device : DeviceIncarnationRef} (h : s.registerIncarnation device = .ok t)
    (key : EvidenceKey) : t.streamAt key = s.streamAt key :=
  (registerIncarnation_evidence h).streamAt key

/-- Where the records after an admission come from: they were stored before, or carry the request's evidence,
    rejected, or admitted by an accepted admission. -/
theorem mem_streamAt_admitRequest (h : record ∈ ((s.admitRequest request now).2.streamAt key).records) :
    record ∈ (s.streamAt key).records ∨ key = request.key ∧ record.evidence = s.evidenceOf request ∧
      (record.lifecycle = .rejected ∨ (s.admitRequest request now).1.isAccepted = true) := by
  generalize hop : s.admitRequest request now = result at h
  cases s.admitRequest_view hop with
  | @fenced t _ _ hreg _ => exact .inl (streamAt_registered hreg key ▸ h)
  | @duplicate t ht _ | @rejected t ht _ _ _ => exact .inl (streamAt_registered ht.registered key ▸ h)
  | @retained t ht _ _ _ =>
    have hat : t.countRejected.streamAt key = s.streamAt key := streamAt_registered ht.registered key
    rw [retainRejected, (refreshConflict_evidence _ _ _ _).streamAt] at h
    rcases mem_insertInStream.mp h with hold | ⟨hkey, rfl⟩
    · exact .inl (hat ▸ hold)
    · exact .inr ⟨hkey, evidenceOf_registered ht.registered, .inl rfl⟩
  | @exhausted t u ids ht hnew hbudget =>
    have hsub := rollback_sublist (fresh_of_not_duplicate hnew.fresh) (evicts_of_budget hbudget) key
    exact .inl (streamAt_registered ht.registered key ▸ hsub.subset h)
  | @accepted t u ids ht hnew hbudget =>
    rw [settleAccepted, (refreshConflict_evidence _ _ _ _).streamAt] at h
    have hmem := ((evicts_of_budget hbudget).streamAt_sublist key).subset h
    rcases mem_insertInStream.mp hmem with hold | ⟨hkey, rfl⟩
    · exact .inl (streamAt_registered ht.registered key ▸ hold)
    · refine .inr ⟨hkey, evidenceOf_registered ht.registered, .inr ?_⟩
      simp only [Outcome.isAccepted, acceptedOutcome, acceptanceReason]
      split <;> rfl
  | _ => exact .inl h

theorem streams_settleRetired (s : Registry) (tombstone : RetirementRecord) :
    (s.settleRetired tombstone).streams = (s.retireStream tombstone).streams := by
  obtain ⟨_, _, hpush⟩ := (s.retireStream tombstone).pushTombstone_frame tombstone
  rw [settleRetired, (refreshConflict_evidence _ _ _ _).streams, hpush]
  rfl

section

variable (s) (request : RetirementRequest) (now : Tick)

theorem totalRecords_retire : (s.retire request now).2.totalRecords = s.totalRecords := by
  obtain ⟨_, _, _, _, hframe⟩ := s.retire_frame request now
  rw [hframe]

/-- A retirement marks the records of its own stream, which was there, or leaves the streams as they were. -/
theorem streams_retire :
    (s.retire request now).2.streams = s.streams ∨ (∃ stream, s.streams.find? request.key = some stream) ∧
      (s.retire request now).2.streams = (s.retireStream (s.tombstoneOf request now)).streams := by
  generalize hop : s.retire request now = result
  cases s.retire_view hop with
  | @retired stream _ _ hstream _ => exact .inr ⟨⟨stream, hstream⟩, streams_settleRetired _ _⟩
  | _ => exact .inl rfl

theorem streamAt_retire (key : EvidenceKey) :
    (s.retire request now).2.streamAt key = s.streamAt key ∨ ∃ reason, (s.retire request now).2.streamAt key =
      { s.streamAt key with
        records := (s.streamAt key).records.map (StoredEvidence.retiredUpTo request.generation now reason) } := by
  rw [streamAt, findStream]
  rcases s.streams_retire request now with hsame | ⟨-, hstreams⟩
  · exact .inl (by rw [hsame]; rfl)
  · rw [hstreams, retireStream, find?_insert]
    split
    next heq =>
      subst heq
      exact .inr ⟨_, rfl⟩
    next => exact .inl rfl

end

/-- Where the records after a retirement come from: the same evidence was stored before, and a record is as
    it was or retired. -/
theorem mem_streamAt_retire {retirement : RetirementRequest}
    (h : record ∈ ((s.retire retirement now).2.streamAt key).records) :
    ∃ old ∈ (s.streamAt key).records, record.evidence = old.evidence ∧
      (record = old ∨ record.lifecycle = .retired) := by
  rcases s.streamAt_retire retirement now key with hsame | ⟨_, hmarked⟩
  · exact ⟨record, hsame ▸ h, rfl, .inl rfl⟩
  · rw [hmarked] at h
    obtain ⟨old, hold, rfl⟩ := mem_map.mp h
    refine ⟨old, hold, ?_⟩
    rw [StoredEvidence.retiredUpTo]
    split
    · exact ⟨rfl, .inr rfl⟩
    · exact ⟨rfl, .inl rfl⟩

/-- A tombstone that raises the fence of its stream goes in, and at the bound an older one of another stream may go. -/
theorem tombstones_settleRetired (tombstone : RetirementRecord)
    (hraise : ∀ slot ∈ s.findTombstone tombstone.key, slot.generation < tombstone.generation) :
    (s.settleRetired tombstone).tombstones = s.tombstones.insert tombstone.key tombstone ∨
    ∃ oldest, oldest ≠ tombstone.key ∧
      (s.settleRetired tombstone).tombstones = (s.tombstones.insert tombstone.key tombstone).erase oldest := by
  have hraise' : ∀ slot ∈ (s.retireStream tombstone).findTombstone tombstone.key,
      slot.generation < tombstone.generation := hraise
  rw [settleRetired, (refreshConflict_evidence _ _ _ _).tombstones]
  rcases pushTombstone_cases hraise' with hpush | ⟨oldest, hother, hpush⟩
  · exact .inl (hpush ▸ rfl)
  · exact .inr ⟨oldest, hother, hpush ▸ rfl⟩

/-- Where the streams and tombstones after a retirement come from: a retirement that takes effect leaves a tombstone for
    its own stream, which was there, and makes no stream. -/
theorem find_retire (s : Registry) (retirement : RetirementRequest) (now : Tick) (key : EvidenceKey) :
    (∀ stream, (s.retire retirement now).2.streams.find? key = some stream → ∃ old, s.streams.find? key = some old) ∧
    ∀ tombstone, (s.retire retirement now).2.findTombstone key = some tombstone →
      s.findTombstone key = some tombstone ∨
        key = retirement.key ∧ tombstone = s.tombstoneOf retirement now ∧
          (s.retire retirement now).1.tookEffect = true ∧ ∃ stream, s.streams.find? key = some stream := by
  constructor
  · intro stream hfind
    rcases s.streams_retire retirement now with hsame | ⟨⟨old, hold⟩, hstreams⟩
    · exact ⟨stream, hsame ▸ hfind⟩
    · rw [hstreams, retireStream, find?_insert] at hfind
      split at hfind
      next heq => exact ⟨old, heq ▸ hold⟩
      next => exact ⟨stream, hfind⟩
  · generalize hop : s.retire retirement now = result
    cases s.retire_view hop with
    | @retired stream _ hslot hstream _ =>
      intro tombstone hfind
      have hinserted : (s.tombstones.insert retirement.key (s.tombstoneOf retirement now)).find? key =
          some tombstone := by
        rcases tombstones_settleRetired (s.tombstoneOf retirement now) hslot with htable | ⟨_, _, htable⟩
        · exact htable ▸ hfind
        · rw [findTombstone, htable, find?_erase] at hfind
          split at hfind
          · cases hfind
          · exact hfind
      rw [find?_insert] at hinserted
      split at hinserted
      next heq => exact .inr ⟨heq, (Option.some_inj.mp hinserted).symm, rfl, stream, heq ▸ hstream⟩
      next => exact .inl hinserted
    | _ => exact fun _ hslot => .inl hslot

/-- Records stay in the streams of their keys. -/
theorem keyed_step (hkeyed : s.AllStreams Stream.Keyed) (hadopt : op.Ordinary) :
    (s.step op).AllStreams Stream.Keyed := by
  have hat : ∀ key, ∀ record ∈ (s.streamAt key).records, record.evidence.key = key :=
    fun key => AllStreams.at hkeyed (by simp [Stream.Keyed, Stream.empty]) key
  rcases s.step_cases hadopt with ⟨request, now, _, hstep⟩ | ⟨retirement, now, _, hstep⟩ | hframe
  · rw [hstep]
    intro key stream hfind record hrecord
    rw [← streamAt_of_find hfind] at hrecord
    rcases mem_streamAt_admitRequest hrecord with hold | ⟨rfl, hevidence, _⟩
    · exact hat key record hold
    · rw [hevidence, evidenceOf_key]
  · rw [hstep]
    intro key stream hfind record hrecord
    rw [← streamAt_of_find hfind] at hrecord
    obtain ⟨old, hold, hevidence, _⟩ := mem_streamAt_retire hrecord
    rw [hevidence]
    exact hat key old hold
  · exact hkeyed.of_streams_eq hframe.streams

end Registry

/-! ### Reachable registries -/

namespace Registry

/-- Registries built empty or from any stored state, and used through the public operations. -/
inductive Reachable : Registry → Prop
  | init (policy : RegistryPolicy) : Reachable (init policy)
  | restore (policy : RegistryPolicy) (state : RegistryState) : Reachable (restore policy state)
  | step {s : Registry} (hs : Reachable s) (op : Op) : Reachable (s.step op)

/-- Every stream's maximum is that of its records. -/
def Levelled (s : Registry) : Prop :=
  s.AllStreams (fun _ stream => stream.maxGeneration = highestGeneration stream.records)

namespace Levelled

variable {s t : Registry}

theorem of_restored {records : List StoredEvidence} (h : t.streams = restoreStreams records) : t.Levelled := by
  intro key stream hfind
  rw [h] at hfind
  exact maxGeneration_restored hfind

theorem admitRequest (h : s.Levelled) (request : AdmissionRequest) (now : Tick) :
    (s.admitRequest request now).2.Levelled := by
  refine admitRequest_allStreams h (fun _ _ _ => rfl) (fun _ _ _ _ => rfl) ?_ ?_
  · intro reason _ _ hle hold
    rw [highestGeneration_insertRecord, ← hold]
    exact (max_eq_right hle).symm
  · intro reason _ _ hlt _ hold
    rw [highestGeneration_insertRecord, ← hold]
    exact (max_eq_left hlt.le).symm

theorem retire (h : s.Levelled) (request : RetirementRequest) (now : Tick) : (s.retire request now).2.Levelled := by
  rcases s.streams_retire request now with hsame | ⟨-, hstreams⟩
  · exact h.of_streams_eq hsame
  · refine h.of_insert ?_ hstreams
    refine (AllStreams.at h (fun _ => rfl) _).trans ?_
    apply highestGeneration_congr
    intro generation
    simp [mem_map]

theorem of_reachable (hs : s.Reachable) : s.Levelled := by
  induction hs with
  | init policy =>
    intro key stream hfind
    cases hfind
  | restore policy state => exact of_restored rfl
  | @step s _ op ih =>
    rcases op.made_or .adoptState with ⟨state, now, rfl⟩ | hadopt
    · exact of_restored (refreshAllConflicts_evidence (resumeTick state now) (.refl (s.rebooted state now))).streams
    · rcases s.step_cases hadopt with ⟨request, now, _, hstep⟩ | ⟨request, now, _, hstep⟩ | hframe
      · rw [hstep]
        exact ih.admitRequest request now
      · rw [hstep]
        exact ih.retire request now
      · exact AllStreams.of_streams_eq ih hframe.streams

end Levelled

theorem Reachable.run (h : s.Reachable) (ops : List Op) : (s.run ops).Reachable := by
  induction ops generalizing s with
  | nil => exact h
  | cons op ops ih => exact ih (h.step op)

/-- Records stand in the streams of their keys, however the registry came about. -/
theorem Reachable.keyed (hs : s.Reachable) : s.AllStreams Stream.Keyed := by
  have hrestored : ∀ {t : Registry} {records : List StoredEvidence}, t.streams = restoreStreams records →
      t.AllStreams Stream.Keyed := by
    intro t records hstreams key stream hfind record hrecord
    rw [hstreams] at hfind
    exact ((mem_restored hfind).mp hrecord).2
  induction hs with
  | init policy =>
    intro key stream hfind
    cases hfind
  | restore policy state => exact hrestored rfl
  | @step s _ op ih =>
    rcases op.made_or .adoptState with ⟨state, now, rfl⟩ | hadopt
    · exact hrestored (refreshAllConflicts_evidence (resumeTick state now) (.refl (s.rebooted state now))).streams
    · exact keyed_step ih hadopt

end Registry

/-! ### A small lab -/

namespace Lab

def source : SourceId := ⟨text "lab", Or.inr (by decide)⟩

/-- A trusted source whose evidence stays fresh. -/
def sourcePolicy : SourcePolicy := ⟨source, .synthetic, .synthetic, .trusted, 0, false⟩

def policy : RegistryPolicy := { sources := [sourcePolicy] }

def device (unit : UInt32) : DeviceIncarnationRef :=
  ⟨⟨⟨text "sim", Or.inr (by decide)⟩, ⟨text "nic", Or.inr (by decide)⟩, unit, none⟩, 1⟩

/-- A report of one device at one generation. -/
def request (unit : UInt32) (generation : RecordGeneration) (observedAt : Tick) : AdmissionRequest where
  device := device unit
  kind := .packetClassification
  source := ⟨source, 1⟩
  capabilityVersion := .mk3 1 0 0
  features := .empty
  limits := .empty
  firmwareVersion := none
  firmwareGeneration := 0
  runtimeVersion := none
  runtimeGeneration := 0
  observedAt
  validUntil := none
  generation

/-- The retirement of that report's stream. -/
def retirement (unit : UInt32) (generation : RecordGeneration) (retiredAt : Tick) : RetirementRequest where
  device := device unit
  kind := .packetClassification
  source := source
  generation
  retiredAt
  reason := .ok

/-- A registry with one report. -/
def oneReport : Registry := (init policy).step (.admitRequest (request 0 1 5) 5)

/-- Two devices report, and the first of them once more. -/
def reports : List Op :=
  [.admitRequest (request 0 1 5) 5, .admitRequest (request 1 1 5) 5, .admitRequest (request 0 2 6) 6]

def threeReports : Registry := (init policy).run reports

/-- The evidence of the three reports. -/
def reportedEvidence : List CapabilityEvidence :=
  [request 0 1 5, request 1 1 5, request 0 2 6].map (init policy).evidenceOf

theorem threeReports_reachable : threeReports.Reachable := .run (.init policy) reports

end Lab

end Ocreg
