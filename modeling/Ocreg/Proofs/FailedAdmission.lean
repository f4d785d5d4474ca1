/-
Module: Ocreg.Proofs.FailedAdmission
Purpose: When a failed admission leaves the registry as it was: exactly when it fails before the device table
  is touched, or touches nothing there and evicts nothing before it is rolled back.
-/
import Ocreg.Proofs.Eviction

namespace Ocreg

open List Registry SortedMap Lab

variable {restrict : Option EvidenceKey} {incoming : EvidenceId} {ids : List EvidenceId}
  {evidence : CapabilityEvidence}

namespace Registry

/-! ### The condition -/

section

variable (s : Registry) (device : DeviceIncarnationRef)

/-- The device table has no place for the incarnation. -/
def DeviceRefused : Prop :=
  match s.findDevice device.device with
  | none => s.incarnationTable.size ≥ s.policy.limits.maxDevices.toNat
  | some entry => device.incarnation ∉ entry.history ∧
      entry.history.length ≥ s.policy.limits.maxIncarnationsPerDevice.toNat

/-- The device table knows the incarnation, and the counter is past it. -/
def DeviceSettled : Prop :=
  (∃ entry, s.findDevice device.device = some entry ∧ device.incarnation ∈ entry.history) ∧
    s.nextAfter device.incarnation = s.nextIncarnation

end

/-- The scope of the bound that is applied first. -/
def evictionScope (s : Registry) (key : EvidenceKey) : Option EvidenceKey :=
  if recordsOver s then none else some key

section

variable (s : Registry) (request : AdmissionRequest) (now : Tick)

/-- With the request's record in place, nothing in the scope of the first bound can be evicted. -/
def NothingToEvict : Prop :=
  (s.insertAdmitted (s.evidenceOf request) now).pickEvictionCandidate
    ((s.insertAdmitted (s.evidenceOf request) now).evictionScope request.key)
    (some (s.evidenceOf request).id) now = none

/-- A failure here changes nothing: it comes from the checks before the device table or from that table's
    bounds; or the device is settled and it comes from the stream checks, or from bounds that find nothing to
    evict for a stream that is new or holds records. -/
def Harmless : Prop :=
  (s.admissionRefusal request now).isSome ∨ s.DeviceRefused request.device ∨
    s.DeviceSettled request.device ∧ ((s.streamRefusal request).isSome ∨
      s.NothingToEvict request now ∧
        (s.findStream request.key = none ∨ (s.streamAt request.key).records ≠ []))

end

/-- Counting a rejection loses nothing. -/
theorem countRejected_injective : Function.Injective countRejected := by
  intro s t h
  rcases s with ⟨_, _, _, _, _, _, _, _, _, _, _, _, _, _, _, counters, _, _⟩
  rcases t with ⟨_, _, _, _, _, _, _, _, _, _, _, _, _, _, _, others, _, _⟩
  rcases counters with ⟨_, _, rejected, _, _, _, _, _, _, _, _, _, _⟩
  rcases others with ⟨_, _, rejected', _, _, _, _, _, _, _, _, _, _⟩
  simp only [countRejected, mk.injEq, RegistryCounters.mk.injEq, UInt64.add_left_inj] at h ⊢
  exact h

/-! ### The device table -/

variable {s t u : Registry} {device : DeviceIncarnationRef} {request : AdmissionRequest} {now : Tick}

theorem deviceRefused_iff : s.DeviceRefused device ↔ ∃ refusal, s.registerIncarnation device = .error refusal := by
  rw [DeviceRefused]
  have hview := s.registerIncarnation_view device
  generalize s.registerIncarnation device = result at hview
  cases hview with
  | deviceBound hnone hfull =>
    rw [hnone]
    exact iff_of_true hfull ⟨_, rfl⟩
  | entered hnone hroom =>
    rw [hnone]
    exact iff_of_false (not_le.mpr hroom) (by simp)
  | known hsome hknown =>
    rw [hsome]
    exact iff_of_false (fun hrefused => hrefused.1 hknown) (by simp)
  | incarnationBound hsome hnew hfull =>
    rw [hsome]
    exact iff_of_true ⟨hnew, hfull⟩ ⟨_, rfl⟩
  | added hsome _ hroom =>
    rw [hsome]
    exact iff_of_false (fun hrefused => absurd hrefused.2 (not_le.mpr hroom)) (by simp)

/-- Registration leaves the table and the counter alone exactly for settled devices. -/
theorem deviceSettled_iff (h : s.registerIncarnation device = .ok t) :
    s.DeviceSettled device ↔ t.incarnationTable = s.incarnationTable ∧ t.nextIncarnation = s.nextIncarnation := by
  rw [DeviceSettled]
  cases registerView_of_ok h with
  | entered hnone _ =>
    constructor
    · rintro ⟨⟨entry, hsome, _⟩, _⟩
      cases hnone.symm.trans hsome
    · rintro ⟨htable, _⟩
      have hfound := find?_insert_self s.incarnationTable device.device
        ⟨device.device, device.incarnation, [device.incarnation]⟩
      rw [show s.incarnationTable.insert device.device _ = s.incarnationTable from htable] at hfound
      cases hnone.symm.trans hfound
  | @known entry hsome hknown =>
    exact ⟨fun hsettled => ⟨rfl, hsettled.2⟩, fun hsame => ⟨⟨entry, hsome, hknown⟩, hsame.2⟩⟩
  | @added entry hsome hnew _ =>
    constructor
    · rintro ⟨⟨other, hother, hknown⟩, _⟩
      cases hsome.symm.trans hother
      exact absurd hknown hnew
    · rintro ⟨htable, _⟩
      have hfound := find?_insert_self s.incarnationTable device.device
        { entry with history := sortIncarnations (entry.history ++ [device.incarnation]) }
      rw [show s.incarnationTable.insert device.device _ = s.incarnationTable from htable] at hfound
      have hhistory := congrArg DeviceIncarnationEntry.history (Option.some.inj (hsome.symm.trans hfound))
      refine absurd ?_ hnew
      rw [hhistory]
      exact (mem_insertionSort _).mpr (by simp)

theorem eq_of_settled (h : s.registerIncarnation device = .ok t) (hsettled : s.DeviceSettled device) : t = s := by
  obtain ⟨htable, hnext⟩ := (deviceSettled_iff h).mp hsettled
  obtain ⟨_, _, rfl⟩ := registerIncarnation_frame h
  cases s
  cases htable
  cases hnext
  rfl

/-! ### Evictions before a failure -/

/-- A loop whose bound is exceeded stops at once, or evicts its first choice. -/
theorem budgetLoop_of_over {isOver : Registry → Bool} {fuel : Nat} {evicted : List EvidenceId} {ok : Bool}
    (hover : isOver s = true) (h : budgetLoop isOver restrict incoming now (fuel + 1) s evicted = (ok, t, ids)) :
    s.pickEvictionCandidate restrict (some incoming) now = none ∧ ok = false ∧ t = s ∨
      ∃ candidate next more, s.pickEvictionCandidate restrict (some incoming) now = some candidate ∧
        s.applyEviction candidate now = some next ∧ Evicts incoming now next t more := by
  rw [budgetLoop, if_pos hover] at h
  cases hpick : s.pickEvictionCandidate restrict (some incoming) now with
  | none =>
    rw [hpick] at h
    cases h
    exact .inl ⟨rfl, rfl, rfl⟩
  | some candidate =>
    obtain ⟨next, happly⟩ := applyEviction_of_pick hpick
    simp only [hpick, happly] at h
    obtain ⟨more, hmore⟩ := budgetLoop_evicts isOver restrict incoming now fuel next (evicted ++ [candidate.id])
    rw [h] at hmore
    exact .inr ⟨candidate, next, more, rfl, happly, hmore⟩

/-- A failure to meet the bounds evicted nothing, or began with the first choice in scope. -/
theorem enforceBudget_failed {key : EvidenceKey} (h : s.enforceBudget key incoming now = (false, u, ids)) :
    s.pickEvictionCandidate (s.evictionScope key) (some incoming) now = none ∧ u = s ∨
      ∃ candidate next more, s.pickEvictionCandidate (s.evictionScope key) (some incoming) now = some candidate ∧
        s.applyEviction candidate now = some next ∧ Evicts incoming now next u more := by
  rw [enforceBudget] at h
  rw [evictionScope]
  cases hover : recordsOver s with
  | true =>
    rw [if_pos rfl]
    split at h
    next v evicted hloop =>
      cases h
      rcases budgetLoop_of_over hover hloop with ⟨hpick, _, rfl⟩ | hevicted
      · exact .inl ⟨hpick, rfl⟩
      · exact .inr hevicted
    next v evicted hloop =>
      obtain ⟨more, hmore⟩ := budgetLoop_evicts (streamOver key) (some key) incoming now
        (v.streamSize key + 1) v evicted
      rw [h] at hmore
      rcases budgetLoop_of_over hover hloop with ⟨_, hfalse, _⟩ | ⟨candidate, next, first, hpick, happly, hfirst⟩
      · cases hfalse
      · exact .inr ⟨candidate, next, _, hpick, happly, hfirst.trans hmore⟩
  | false =>
    rw [if_neg (by decide)]
    rw [budgetLoop, if_neg (by rw [hover]; decide)] at h
    dsimp only at h
    cases hstream : streamOver key s with
    | true =>
      rcases budgetLoop_of_over hstream h with ⟨hpick, _, rfl⟩ | hevicted
      · exact .inl ⟨hpick, rfl⟩
      · exact .inr hevicted
    | false =>
      rw [budgetLoop, if_neg (by rw [hstream]; decide)] at h
      cases h

/-- An eviction before a rollback is not undone: its stream ends up shorter than before the insertion. -/
theorem rollback_after_eviction {candidate : EvictionCandidate} {more : List EvidenceId}
    (hpick : (s.insertAdmitted evidence now).pickEvictionCandidate restrict (some evidence.id) now = some candidate)
    (happly : (s.insertAdmitted evidence now).applyEviction candidate now = some t)
    (hmore : Evicts evidence.id now t u more) :
    ((u.rollbackAdmission evidence.key evidence.id).streamAt candidate.key).records.length <
      (s.streamAt candidate.key).records.length := by
  obtain ⟨stream, record, hfind, hrecord, hid, _⟩ := applyEviction_streams happly
  have hlength := Stream.length_without hrecord hid
  have hafter : t.streamAt candidate.key = stream.without candidate.id := by
    rw [streamAt_applyEviction happly, if_pos rfl, streamAt_of_find hfind]
  have hshrunk := (hmore.streamAt_sublist candidate.key).length_le
  rw [hafter] at hshrunk
  have hinserted := streamAt_of_find hfind
  by_cases hkey : candidate.key = evidence.key
  · -- the incoming record is still there and goes as well
    have hstored : storedOf evidence .admitted (acceptanceReason (s.streamAt evidence.key)) now ∈
        (u.streamAt evidence.key).records :=
      (Evicts.step hpick happly hmore).mem_of_id_eq
        (by rw [insertAdmitted, streamAt_insertInStream]; exact mem_insertRecord.mpr (.inl rfl)) (storedOf_id ..)
    have hremoved := Stream.length_without hstored (storedOf_id ..)
    rw [hkey, insertAdmitted, streamAt_insertInStream] at hinserted
    have hgrown : stream.records.length = (s.streamAt evidence.key).records.length + 1 := by
      rw [← hinserted]
      exact length_insertRecord _ _
    rw [hkey] at hshrunk ⊢
    rw [streamAt_rollbackAdmission]
    omega
  · rw [insertAdmitted, streamAt_insertInStream_of_ne _ _ _ hkey] at hinserted
    rw [streamAt_rollbackAdmission_of_ne _ _ hkey, hinserted]
    omega

/-- A rollback right after the insertion restores the registry, unless the stream was there without records. -/
theorem rollback_insertAdmitted_iff (hlevelled : s.Levelled)
    (hfresh : ∀ record ∈ (s.streamAt evidence.key).records, record.id ≠ evidence.id) :
    (s.insertAdmitted evidence now).rollbackAdmission evidence.key evidence.id = s ↔
      s.findStream evidence.key = none ∨ (s.streamAt evidence.key).records ≠ [] := by
  have hhighest : (s.streamAt evidence.key).maxGeneration = highestGeneration (s.streamAt evidence.key).records :=
    AllStreams.at hlevelled (fun _ => rfl) _
  have hwithout : ((s.insertAdmitted evidence now).streamAt evidence.key).without evidence.id =
      s.streamAt evidence.key := by
    rw [insertAdmitted, streamAt_insertInStream]
    exact Stream.without_insertRecord _ hfresh hhighest
  have hany : ((s.insertAdmitted evidence now).streamAt evidence.key).records.any
      (fun record => record.id == evidence.id) = true := by
    rw [insertAdmitted, streamAt_insertInStream]
    exact any_eq_true.mpr ⟨_, mem_insertRecord.mpr (.inl rfl), beq_self_eq_true _⟩
  rw [rollbackAdmission, hwithout, if_pos hany]
  by_cases hempty : (s.streamAt evidence.key).records = []
  · rw [if_pos hempty]
    refine ⟨fun hsame => .inl ?_, fun hnew => ?_⟩
    · rw [← hsame, findStream]
      exact (find?_erase _ _ _).trans (if_pos rfl)
    · have hnone : s.streams.find? evidence.key = none := hnew.resolve_right (not_not.mpr hempty)
      have hstreams : (s.insertAdmitted evidence now).streams.erase evidence.key = s.streams :=
        erase_insert_of_find?_none _ hnone
      rw [hstreams]
      rfl
  · rw [if_neg hempty]
    refine ⟨fun _ => .inr hempty, fun _ => ?_⟩
    obtain ⟨record, hrecord⟩ := exists_mem_of_ne_nil _ hempty
    obtain ⟨stream, hfind, _⟩ := find_of_mem_streamAt hrecord
    have hstreams : (s.insertAdmitted evidence now).streams.insert evidence.key (s.streamAt evidence.key) =
        s.streams := by
      rw [streamAt_of_find hfind]
      exact (insert_insert _ _ _ _).trans (insert_find?_self hfind)
    rw [hstreams]
    rfl

/-! ### Failures -/

/-- A rolled back admission leaves the registry as it was exactly when nothing was evicted and its stream was
    new or held records. -/
theorem rollback_unchanged_iff (hlevelled : s.Levelled)
    (hfresh : ∀ record ∈ (s.streamAt evidence.key).records, record.id ≠ evidence.id)
    (hbudget : (s.insertAdmitted evidence now).enforceBudget evidence.key evidence.id now = (false, u, ids)) :
    (u.rollbackAdmission evidence.key evidence.id).countRejected = s.countRejected ↔
      (s.insertAdmitted evidence now).pickEvictionCandidate
        ((s.insertAdmitted evidence now).evictionScope evidence.key) (some evidence.id) now = none ∧
      (s.findStream evidence.key = none ∨ (s.streamAt evidence.key).records ≠ []) := by
  rw [countRejected_injective.eq_iff]
  rcases enforceBudget_failed hbudget with ⟨hpick, rfl⟩ | ⟨candidate, next, more, hpick, happly, hmore⟩
  · rw [and_iff_right hpick]
    exact rollback_insertAdmitted_iff hlevelled hfresh
  · refine ⟨fun hsame => ?_, fun hnone => ?_⟩
    · have hshorter := rollback_after_eviction hpick happly hmore
      rw [hsame] at hshorter
      exact absurd hshorter (lt_irrefl _)
    · rw [hpick] at hnone
      cases hnone.1

end Registry

/-- A failed admission leaves the registry as it was, but for the count of rejections, exactly under the
    condition. -/
theorem failed_admission_unchanged_iff {s : Registry} (hs : s.Reachable) {request : AdmissionRequest} {now : Tick}
    (hfailed : (s.admitRequest request now).1.ok = false) :
    (s.admitRequest request now).2 = s.countRejected ↔ s.Harmless request now := by
  have hlevelled := Levelled.of_reachable hs
  rw [Harmless]
  generalize hop : s.admitRequest request now = result at hfailed
  cases s.admitRequest_view hop with
  | refused hrefused => exact ⟨fun _ => .inl (by rw [hrefused]; rfl), fun _ => rfl⟩
  | unregistered _ hbound => exact ⟨fun _ => .inr (.inl (deviceRefused_iff.mpr ⟨_, hbound⟩)), fun _ => rfl⟩
  | @fenced t refusal haccepted hregistered hfenced =>
    refine ⟨fun hsame => ?_, fun hharmless => ?_⟩
    · have heq : t = s := countRejected_injective hsame
      subst heq
      exact .inr (.inr ⟨(deviceSettled_iff hregistered).mpr ⟨rfl, rfl⟩,
        .inl (by rw [hfenced]; rfl)⟩)
    · rcases hharmless with hrefused | hrefused | ⟨hsettled, _⟩
      · rw [haccepted] at hrefused
        cases hrefused
      · obtain ⟨_, herror⟩ := deviceRefused_iff.mp hrefused
        rw [hregistered] at herror
        cases herror
      · rw [eq_of_settled hregistered hsettled]
        rfl
  | @exhausted t u ids ht hnew hbudget =>
    have hfresh := fresh_of_not_duplicate hnew.fresh
    refine ⟨fun hsame => ?_, fun hharmless => ?_⟩
    · -- evictions and rollback do not touch the device table, so the registration did not either
      obtain ⟨_, _, _, _, _, hframe⟩ := (evicts_of_budget hbudget).frame
      have hrolled : u.rollbackAdmission request.key (t.evidenceOf request).id = s :=
        countRejected_injective hsame
      have hsettled : s.DeviceSettled request.device := by
        rw [deviceSettled_iff ht.registered, ← hrolled, hframe]
        exact ⟨rfl, rfl⟩
      have heq := eq_of_settled ht.registered hsettled
      subst heq
      exact .inr (.inr ⟨hsettled,
        .inr ((rollback_unchanged_iff hlevelled hfresh hbudget).mp hsame)⟩)
    · rcases hharmless with hrefused | hrefused | ⟨hsettled, hstream⟩
      · rw [ht.accepted] at hrefused
        cases hrefused
      · obtain ⟨_, herror⟩ := deviceRefused_iff.mp hrefused
        rw [ht.registered] at herror
        cases herror
      · have heq := eq_of_settled ht.registered hsettled
        subst heq
        rw [ht.unfenced] at hstream
        exact (rollback_unchanged_iff hlevelled hfresh hbudget).mpr (hstream.resolve_left (by simp))
  | _ => cases hfailed

/-- A zero generation is refused before anything is touched. -/
theorem failed_admission_unchanged_three_reports : (threeReports.admitRequest (request 0 0 6) 6).1.ok = false ∧
      (threeReports.admitRequest (request 0 0 6) 6).2 = threeReports.countRejected :=
  ⟨by decide +kernel, (failed_admission_unchanged_iff threeReports_reachable (by decide +kernel)).mpr
    (.inl (by decide +kernel))⟩

/-- With one stream allowed, a second device's report is refused, but the device has been entered. -/
theorem refused_admission_enters_device :
    let policy := { Lab.policy with limits := { Lab.policy.limits with maxStreams := 1 } }
    let before := (init policy).step (.admitRequest (Lab.request 0 1 5) 5)
    let after := before.admitRequest (Lab.request 1 1 6) 6
    after.1.ok = false ∧ before.findDevice (Lab.device 1).device = none ∧
      (after.2.findDevice (Lab.device 1).device).isSome = true := by
  decide +kernel

end Ocreg
