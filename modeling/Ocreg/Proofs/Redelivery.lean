/-
Module: Ocreg.Proofs.Redelivery
Purpose: Delivering an accepted admission once more. The id of evidence covers what the registry stamps on it, so the
  second delivery finds the first one's record exactly as long as the stamps are the same.
-/
import Ocreg.Proofs.Incarnations

namespace Ocreg

open Registry Lab

variable {device : DeviceIncarnationRef} {outcome : AdmissionOutcome} {reason : ReasonCode}

namespace Registry

variable {s t : Registry} {request : AdmissionRequest} {now : Tick}

/-! ### Stamps -/

/-- Evidence of the source is stamped alike by both registries. -/
structure SameStamps (source : SourceId) (s t : Registry) : Prop where
  authority : t.sourceAuthority source = s.sourceAuthority source
  epoch : t.epoch = s.epoch
  bootEpoch : t.bootEpoch = s.bootEpoch
  policyRevision : t.policyRevision = s.policyRevision

theorem SameStamps.evidenceOf (h : SameStamps request.source.source s t) :
    t.evidenceOf request = s.evidenceOf request := by
  rw [Registry.evidenceOf, Registry.evidenceOf, h.authority, h.epoch, h.bootEpoch, h.policyRevision]

theorem SameStamps.of_encode_eq (h : (t.evidenceOf request).encode = (s.evidenceOf request).encode) :
    SameStamps request.source.source s t := by
  obtain ⟨_, hauthority, hepoch, hboot, hrevision⟩ := CapabilityEvidence.stamps_eq_of_encode_eq h
  exact ⟨hauthority, hepoch, hboot, hrevision⟩

/-! ### The stream is not retired -/

/-- The operation does not retire the request's stream, nor adopt a state in which it is retired. -/
def Spares (request : AdmissionRequest) (s : Registry) : Op → Prop
  | .retire retirement now => retirement.key = request.key → (s.retire retirement now).1.tookEffect = false
  | .adoptState state _ => ¬ (adopt state).FencedAt request.key request.generation
  | _ => True

theorem fencedAt_iff_of_tombstones_eq {key : EvidenceKey} {generation : RecordGeneration}
    (h : t.tombstones = s.tombstones) : t.FencedAt key generation ↔ s.FencedAt key generation :=
  ⟨fun hfence => hfence.of_tombstones_eq h.symm, fun hfence => hfence.of_tombstones_eq h⟩

theorem unfenced_of_streamRefusal (h : s.streamRefusal request = none) :
    ¬ s.FencedAt request.key request.generation := by
  rintro ⟨tombstone, hslot, hle⟩
  exact not_lt.mpr hle ((streamRefusal_eq_none.mp h).2 tombstone hslot)

/-- A request that got to its stream did not retire it. -/
theorem unfenced_of_admissible (ht : Admissible s request now t) :
    ¬ (s.admitRequest request now).2.FencedAt request.key request.generation := by
  intro hfence
  apply unfenced_of_streamRefusal ht.unfenced
  apply (fencedAt_iff_of_tombstones_eq _).mp hfence
  rw [tombstones_admitRequest, (registerIncarnation_evidence ht.registered).tombstones]

theorem unfenced_step {op : Op} (h : ¬ s.FencedAt request.key request.generation) (hop : Spares request s op) :
    ¬ (s.step op).FencedAt request.key request.generation := by
  rcases op.made_or .adoptState with ⟨state, tick, rfl⟩ | hadopt
  · have hevidence := refreshAllConflicts_evidence (resumeTick state tick) (.refl (s.rebooted state tick))
    intro hfence
    exact hop ((fencedAt_iff_of_tombstones_eq hevidence.tombstones).mp hfence)
  · intro hfence
    rcases s.step_cases hadopt with ⟨other, tick, rfl, _⟩ | ⟨retirement, tick, rfl, _⟩ | hframe
    · apply h
      apply (fencedAt_iff_of_tombstones_eq _).mp hfence
      exact tombstones_admitRequest s other tick
    · obtain ⟨tombstone, hslot, hle⟩ := hfence
      rcases (s.find_retire retirement tick request.key).2 tombstone hslot with hold | ⟨hkey, _, heffect, _⟩
      · exact h ⟨tombstone, hold, hle⟩
      · rw [hop hkey.symm] at heffect
        cases heffect
    · exact h ((fencedAt_iff_of_tombstones_eq hframe.tombstones).mp hfence)

/-! ### The incarnation is known -/

/-- The incarnation is in the device table, or there is room for it. -/
def Enrollable (s : Registry) (device : DeviceIncarnationRef) : Prop :=
  match s.findDevice device.device with
  | none => s.incarnationTable.size < s.policy.limits.maxDevices.toNat
  | some entry => device.incarnation ∈ entry.history ∨
      entry.history.length < s.policy.limits.maxIncarnationsPerDevice.toNat

theorem enrollable_iff : s.Enrollable device ↔ ∃ t, s.registerIncarnation device = .ok t := by
  rw [Enrollable]
  have hview := s.registerIncarnation_view device
  generalize s.registerIncarnation device = result at hview
  cases hview with
  | deviceBound hnone hfull =>
    rw [hnone]
    exact iff_of_false (not_lt.mpr hfull) (by simp)
  | entered hnone hroom =>
    rw [hnone]
    exact iff_of_true hroom ⟨_, rfl⟩
  | known hsome hknown =>
    rw [hsome]
    exact iff_of_true (.inl hknown) ⟨_, rfl⟩
  | incarnationBound hsome hnew hfull =>
    rw [hsome]
    exact iff_of_false (not_or.mpr ⟨hnew, not_lt.mpr hfull⟩) (by simp)
  | added hsome _ hroom =>
    rw [hsome]
    exact iff_of_true (.inr hroom) ⟨_, rfl⟩

theorem Enrollable.of_known (h : device.incarnation ∈ s.historyOf device.device) : s.Enrollable device := by
  cases hentry : s.findDevice device.device with
  | none => cases historyOf_none hentry ▸ h
  | some entry =>
    rw [Enrollable, hentry]
    exact .inl (historyOf_some hentry ▸ h)

/-! ### Delivering again -/

/-- Delivered now, the request is answered as already present under the given id, and no record, tombstone or conflict
    changes. -/
structure Redelivers (s : Registry) (request : AdmissionRequest) (now : Tick) (id : EvidenceId) : Prop where
  outcome : ∃ outcome, (s.admitRequest request now).1 = .success outcome .ok ∧ outcome.id = id ∧
    outcome.reason = .alreadyPresent ∧ outcome.idempotent = true
  streams : (s.admitRequest request now).2.streams = s.streams
  tombstones : (s.admitRequest request now).2.tombstones = s.tombstones
  conflicts : (s.admitRequest request now).2.conflictTable = s.conflictTable

section

variable (h : (s.admitRequest request now).1 = .success outcome reason)
include h

/-- Whoever is told of a record is told the id of the request's evidence. -/
theorem outcome_id : outcome.id = (s.evidenceOf request).id := by
  generalize hop : s.admitRequest request now = result at h
  cases s.admitRequest_view hop with
  | duplicate ht _ =>
    cases h
    rw [evidenceOf_registered ht.registered]
  | rejected ht _ _ _ | retained ht _ _ _ | accepted ht _ _ =>
    cases h
    exact congrArg CapabilityEvidence.id (evidenceOf_registered ht.registered)
  | _ => cases h

theorem admissible_of_success : ∃ t, Admissible s request now t := by
  generalize hop : s.admitRequest request now = result at h
  cases s.admitRequest_view hop with
  | duplicate ht _ | rejected ht _ _ _ | retained ht _ _ _ | exhausted ht _ _ | accepted ht _ _ => exact ⟨_, ht⟩
  | _ => cases h

end

/-- A request to a stream that stands and is not retired is received once its incarnation is registered. -/
theorem admissible_of_unfenced (hchecks : s.admissionRefusal request now = none)
    (hregistered : s.registerIncarnation request.device = .ok t) (hstream : s.findStream request.key ≠ none)
    (hopen : ¬ s.FencedAt request.key request.generation) : Admissible s request now t := by
  refine ⟨hchecks, hregistered, ?_⟩
  have hevidence := registerIncarnation_evidence hregistered
  have hstands : t.findStream request.key ≠ none := by
    rw [findStream, hevidence.streams]
    exact hstream
  have hfence : ¬ t.FencedAt request.key request.generation := by
    rw [fencedAt_iff_of_tombstones_eq hevidence.tombstones]
    exact hopen
  rw [streamRefusal, if_neg (fun hboth => hstands hboth.1)]
  apply if_neg
  rintro ⟨tombstone, hslot, hle⟩
  exact hfence ⟨tombstone, hslot, hle⟩

/-- Received with the id of a stored record, the request changes nothing but the device table and counters. -/
theorem Redelivers.of_stored {id : EvidenceId} (ht : Admissible s request now t) (hid : (s.evidenceOf request).id = id)
    (hstored : ∃ record ∈ (s.streamAt request.key).records, record.id = id) : s.Redelivers request now id := by
  obtain ⟨record, hrecord, hrecordId⟩ := hstored
  have hevidence : t.evidenceOf request = s.evidenceOf request := evidenceOf_registered ht.registered
  have hduplicate : t.isDuplicate (t.evidenceOf request) = true := by
    apply List.any_eq_true.mpr
    refine ⟨record, ?_, ?_⟩
    · rw [(registerIncarnation_evidence ht.registered).streamAt]
      exact hrecord
    · rw [hevidence]
      exact beq_iff_eq.mpr (hrecordId.trans hid.symm)
  have hadmitted : s.admitRequest request now = admitDuplicate t (t.evidenceOf request) now := by
    rw [admitRequest, ht.accepted]
    dsimp only
    rw [ht.registered]
    dsimp only
    rw [ht.unfenced]
    exact if_pos hduplicate
  obtain ⟨table, next, rfl⟩ := registerIncarnation_frame ht.registered
  rw [admitDuplicate] at hadmitted
  constructor
  · rw [hadmitted]
    exact ⟨_, rfl, hid, rfl, rfl⟩
  · rw [hadmitted]
  · rw [hadmitted]
  · rw [hadmitted]

end Registry

/-- A request that was accepted, whose record is still stored and whose stream was not retired since, is answered as
    already present under its first id exactly when the registry still stamps its evidence as it did then and its
    incarnation still has its place in the device table. -/
theorem redelivery_idempotent_iff_same_stamps {offered : Set Bytes} (hinj : Set.InjOn Digest256.of offered)
    {first : Registry} {request : AdmissionRequest} {tick : Tick} {original : AdmissionOutcome}
    (hfirst : (first.admitRequest request tick).1 = .success original .ok) {ops : List Op}
    (hspares : Runs.Along step (Registry.Spares request) (first.step (.admitRequest request tick)) ops)
    {s : Registry} (hrun : s = (first.step (.admitRequest request tick)).run ops)
    (hstored : ∃ record ∈ (s.streamAt request.key).records, record.id = original.id) {now : Tick}
    (hchecks : s.admissionRefusal request now = none) (hbefore : (first.evidenceOf request).encode ∈ offered)
    (hafter : (s.evidenceOf request).encode ∈ offered) :
    s.Redelivers request now original.id ↔
      Registry.SameStamps request.source.source first s ∧ s.Enrollable request.device := by
  have hid := outcome_id hfirst
  constructor
  · intro hredelivers
    obtain ⟨outcome, hsecond, hsame, _⟩ := hredelivers.outcome
    constructor
    · have hdigest : (s.evidenceOf request).id = (first.evidenceOf request).id := by
        rw [← outcome_id hsecond, hsame, hid]
      exact .of_encode_eq (hinj hafter hbefore hdigest)
    · obtain ⟨t, ht⟩ := admissible_of_success hsecond
      exact enrollable_iff.mpr ⟨t, ht.registered⟩
  · rintro ⟨hstamps, henrollable⟩
    obtain ⟨_, hreceived⟩ := admissible_of_success hfirst
    have hopen : ¬ s.FencedAt request.key request.generation := by
      rw [hrun]
      exact Runs.Along.invariant (I := fun u => ¬ u.FencedAt request.key request.generation)
        (fun _ _ hu hop => unfenced_step hu hop) (unfenced_of_admissible hreceived) hspares
    have hstream : s.findStream request.key ≠ none := by
      obtain ⟨record, hrecord, _⟩ := hstored
      obtain ⟨stream, hfind, _⟩ := find_of_mem_streamAt hrecord
      rw [findStream, hfind]
      exact Option.some_ne_none stream
    obtain ⟨t, hregistered⟩ := enrollable_iff.mp henrollable
    have ht := admissible_of_unfenced hchecks hregistered hstream hopen
    apply Redelivers.of_stored ht _ hstored
    rw [hstamps.evidenceOf, hid]

/-- Delivered again after a report of another device, a report is already present. -/
theorem repeated_report_redelivers_later :
    ∃ original, ((init policy).admitRequest (request 0 1 5) 5).1 = .success original .ok ∧
      (oneReport.run [.admitRequest (request 1 1 6) 6, .setLogicalTick 6]).Redelivers (request 0 1 5) 6
        original.id := by
  generalize hlater : oneReport.run [.admitRequest (request 1 1 6) 6, .setLogicalTick 6] = later
  have hok : ((init policy).admitRequest (request 0 1 5) 5).1 =
      .success { id := ((init policy).evidenceOf (request 0 1 5)).id, state := .active,
                 reason := .acceptedNew, streamGeneration := 1 } .ok := by
    decide +kernel
  have hstored : ∃ record ∈ (later.streamAt (request 0 1 5).key).records,
      record.id = ((init policy).evidenceOf (request 0 1 5)).id := by
    subst hlater
    decide +kernel
  have hstamps : SameStamps (request 0 1 5).source.source (init policy) later := by
    subst hlater
    constructor <;> decide +kernel
  have hchecks : later.admissionRefusal (request 0 1 5) 6 = none := by
    subst hlater
    decide +kernel
  have hknown : (request 0 1 5).device.incarnation ∈ later.historyOf (request 0 1 5).device.device := by
    subst hlater
    decide +kernel
  have hagain : (later.evidenceOf (request 0 1 5)).encode ∈
      ({((init policy).evidenceOf (request 0 1 5)).encode} : Set Bytes) := by
    rw [hstamps.evidenceOf]
    exact Set.mem_singleton _
  have hspares : Runs.Along step (Spares (request 0 1 5)) oneReport
      [.admitRequest (request 1 1 6) 6, .setLogicalTick 6] := ⟨trivial, trivial, trivial⟩
  refine ⟨_, hok, ?_⟩
  exact (redelivery_idempotent_iff_same_stamps (Set.injOn_singleton _ _) hok hspares hlater.symm
    hstored hchecks (Set.mem_singleton _) hagain).mpr ⟨hstamps, .of_known hknown⟩

/-- After the epoch advanced, the same report is rejected as a collision with the record it left and stored a second
    time. -/
theorem report_collides_with_itself :
    let first := (init policy).admitRequest (request 0 1 5) 5
    let s := first.2.step .advanceEpoch
    let again := s.admitRequest (request 0 1 5) 6
    s.Reachable ∧ first.1.isAccepted = true ∧
      (s.streamAt (request 0 1 5).key).records.map StoredEvidence.id =
        (first.1.value?.map AdmissionOutcome.id).toList ∧
      s.admissionRefusal (request 0 1 5) 6 = none ∧
      again.1.value?.map AdmissionOutcome.reason = some .rejectedGenerationCollision ∧
      again.1.value?.map AdmissionOutcome.id ≠ first.1.value?.map AdmissionOutcome.id ∧
      (again.2.streamAt (request 0 1 5).key).records.length = 2 := by
  refine ⟨((Reachable.init policy).step (.admitRequest (request 0 1 5) 5)).step _, ?_⟩
  decide +kernel

end Ocreg
