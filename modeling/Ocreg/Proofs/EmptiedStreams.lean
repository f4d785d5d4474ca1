/-
Module: Ocreg.Proofs.EmptiedStreams
Purpose: Streams without records. An eviction that takes the last record of a stream leaves the stream in the map, where
  it counts against the stream bound and can be retired; nothing else does.
-/
import Ocreg.Lib.Runs
import Ocreg.Proofs.EvictionRounds

namespace Ocreg

open List Registry SortedMap Lab

variable {ids : List EvidenceId} {kind : CapabilityKind} {reason : ReasonCode} {refusal : Refusal}

namespace Registry

/-! ### Evictions that empty a stream -/

/-- Every stream holds a record. -/
def Occupied (s : Registry) : Prop := s.AllStreams (fun _ stream => stream.records ≠ [])

/-- The stream is in the map and holds nothing. -/
def Emptied (s : Registry) (key : EvidenceKey) : Prop :=
  ∃ stream, s.streams.find? key = some stream ∧ stream.records = []

theorem not_occupied_iff {s : Registry} : ¬ s.Occupied ↔ ∃ key, s.Emptied key := by
  constructor
  · intro h
    by_contra hnone
    exact h fun key stream hfind hempty => hnone ⟨key, stream, hfind, hempty⟩
  · rintro ⟨key, stream, hfind, hempty⟩ hoccupied
    exact hoccupied key stream hfind hempty

variable {s t : Registry} {key : EvidenceKey} {incoming : EvidenceId} {now : Tick} {candidate : EvictionCandidate}

/-- A removal empties a stream exactly when it takes the only record. -/
theorem occupied_evict_iff (hs : s.Occupied) (happly : s.applyEviction candidate now = some t) :
    t.Occupied ↔ 1 < s.streamSize candidate.key := by
  obtain ⟨stream, record, hfind, hrecord, hid, hstreams, -⟩ := applyEviction_streams happly
  have hlength := Stream.length_without hrecord hid
  have hsize : s.streamSize candidate.key = stream.records.length := by rw [streamSize, streamAt_of_find hfind]
  rw [hsize]
  constructor
  · intro hoccupied
    have hleft := hoccupied candidate.key (stream.without candidate.id) (by rw [hstreams, find?_insert_self])
    have hpositive := length_pos_of_ne_nil hleft
    omega
  · intro hmore
    refine hs.of_insert ?_ hstreams
    apply ne_nil_of_length_pos
    omega

/-- What is empty stays in the map. -/
theorem Emptied.evict (h : s.Emptied key) (happly : s.applyEviction candidate now = some t) : t.Emptied key := by
  obtain ⟨stream, hfind, hempty⟩ := h
  obtain ⟨other, record, hother, hrecord, -, hstreams, -⟩ := applyEviction_streams happly
  have hne : key ≠ candidate.key := by
    rintro rfl
    rw [hfind] at hother
    cases hother
    rw [hempty] at hrecord
    cases hrecord
  exact ⟨stream, by rw [hstreams, find?_insert_of_ne _ _ hne, hfind], hempty⟩

theorem Emptied.evicts (h : s.Emptied key) (hevicts : Evicts incoming now s t ids) : t.Emptied key := by
  induction hevicts with
  | refl s => exact h
  | step _ happly _ ih => exact ih (h.evict happly)

/-- The rounds all leave a record where they take one. -/
def Leaves (rounds : List (Registry × EvictionCandidate)) : Prop :=
  ∀ round ∈ rounds, 1 < round.1.streamSize round.2.key

theorem leaves_nil : Leaves [] := fun _ hround => absurd hround not_mem_nil

/-- A budget loop leaves every stream occupied exactly when each of its rounds leaves a record. -/
theorem occupied_budgetLoop_iff (isOver : Registry → Bool) (restrict : Option EvidenceKey) (incoming : EvidenceId)
    (now : Tick) (fuel : Nat) (hs : s.Occupied) (evicted : List EvidenceId) :
    (budgetLoop isOver restrict incoming now fuel s evicted).2.1.Occupied ↔
      Leaves (budgetRounds isOver restrict incoming now fuel s) := by
  refine (budget_rule (P := fun s _ result rounds => (∃ ids, Evicts incoming now s result.2.1 ids) ∧
    (s.Occupied → (result.2.1.Occupied ↔ Leaves rounds))) ?_ ?_ fuel s evicted).2 hs
  · exact fun _ s _ => ⟨⟨[], .refl s⟩, fun hs => iff_of_true hs leaves_nil⟩
  · rintro s t candidate _ result rounds hpick happly ⟨⟨ids, hrest⟩, ih⟩
    refine ⟨⟨_, .step hpick happly hrest⟩, fun hs => ?_⟩
    have hleaves : Leaves ((s, candidate) :: rounds) ↔ t.Occupied ∧ Leaves rounds := by
      rw [occupied_evict_iff hs happly]
      exact forall_mem_cons
    rw [hleaves]
    by_cases ht : t.Occupied
    · rw [ih ht]
      exact (and_iff_right ht).symm
    · refine iff_of_false ?_ (fun h => ht h.1)
      obtain ⟨key, hempty⟩ := not_occupied_iff.mp ht
      exact not_occupied_iff.mpr ⟨key, hempty.evicts hrest⟩

theorem occupied_enforceBudget_iff (hs : s.Occupied) (key : EvidenceKey) (incoming : EvidenceId) (now : Tick) :
    (s.enforceBudget key incoming now).2.1.Occupied ↔ Leaves (s.enforceRounds key incoming now) := by
  have hfirst := occupied_budgetLoop_iff recordsOver none incoming now (s.totalRecords + 1) hs []
  rw [enforceBudget, enforceRounds, Leaves, forall_mem_append]
  change _ ↔ Leaves _ ∧ _
  rw [← hfirst]
  obtain ⟨ok, t, ids⟩ := budgetLoop recordsOver none incoming now (s.totalRecords + 1) s []
  cases ok with
  | false => exact (and_iff_left leaves_nil).symm
  | true =>
    dsimp only
    by_cases ht : t.Occupied
    · rw [occupied_budgetLoop_iff _ _ _ _ _ ht]
      exact (and_iff_right ht).symm
    · refine iff_of_false ?_ fun h => ht h.1
      obtain ⟨emptied, hempty⟩ := not_occupied_iff.mp ht
      obtain ⟨others, hrest⟩ :=
        budgetLoop_evicts (streamOver key) (some key) incoming now (t.streamSize key + 1) t ids
      exact not_occupied_iff.mpr ⟨emptied, hempty.evicts hrest⟩

/-! ### Admissions -/

section Admissions

variable {request : AdmissionRequest}

theorem Occupied.insertInStream (hs : s.Occupied) (key : EvidenceKey) (record : StoredEvidence)
    (maxGeneration : RecordGeneration) : (s.insertInStream key record maxGeneration).Occupied := by
  refine hs.of_insert ?_ rfl
  apply ne_nil_of_mem
  exact mem_insertRecord.mpr (.inl rfl)

/-- Taking an insertion back leaves no empty stream behind. -/
theorem occupied_rollback_iff {id : EvidenceId} {record : StoredEvidence}
    (hrecord : record ∈ (s.streamAt key).records) : (s.rollbackAdmission key id).Occupied ↔ s.Occupied := by
  have hother : ∀ other, other ≠ key → (s.rollbackAdmission key id).streams.find? other = s.streams.find? other := by
    intro other hne
    rw [rollbackAdmission]
    dsimp only
    split
    · exact find?_erase_of_ne _ hne
    · exact find?_insert_of_ne _ _ hne
  constructor
  · intro h other stream hfind
    by_cases heq : other = key
    · subst heq
      rw [streamAt_of_find hfind] at hrecord
      exact ne_nil_of_mem hrecord
    · exact h other stream (by rw [hother other heq, hfind])
  · intro h other stream hfind
    by_cases heq : other = key
    · subst heq
      rw [rollbackAdmission] at hfind
      dsimp only at hfind
      split at hfind
      · rw [find?_erase_self] at hfind
        cases hfind
      · rename_i hsome
        rw [find?_insert_self] at hfind
        cases hfind
        exact hsome
    · rw [hother other heq] at hfind
      exact h other stream hfind

theorem occupied_congr (h : t.streams = s.streams) : t.Occupied ↔ s.Occupied :=
  ⟨fun ht => ht.of_streams_eq h.symm, fun hs => hs.of_streams_eq h⟩

/-- The incoming record stays where it was inserted. -/
theorem incoming_mem {u : Registry} {evidence : CapabilityEvidence}
    (h : Evicts evidence.id now (t.insertAdmitted evidence now) u ids) :
    ∃ record, record ∈ (u.streamAt evidence.key).records := by
  refine ⟨_, h.mem_of_id_eq ?_ (storedOf_id evidence .admitted (acceptanceReason (t.streamAt evidence.key)) now)⟩
  rw [insertAdmitted, streamAt, findStream, insertInStream, find?_insert_self]
  exact mem_insertRecord.mpr (.inl rfl)

/-- An admission leaves every stream occupied exactly when each of its evictions leaves a record. -/
theorem occupied_admitRequest_iff (hs : s.Occupied) :
    (s.admitRequest request now).2.Occupied ↔ Leaves (s.admissionRounds request now) := by
  have hquiet : ∀ {u : Registry}, u.Occupied → s.admissionRounds request now = [] →
      (u.Occupied ↔ Leaves (s.admissionRounds request now)) := by
    intro u hu hnone
    rw [hnone]
    exact iff_of_true hu leaves_nil
  have hregistered : ∀ {t}, s.registerIncarnation request.device = .ok t → t.Occupied :=
    fun hregister => hs.of_streams_eq (registerIncarnation_evidence hregister).streams
  have hbudgeted {t : Registry} (hregister : s.registerIncarnation request.device = .ok t) :=
    occupied_enforceBudget_iff (s := t.insertAdmitted (t.evidenceOf request) now)
      ((hregistered hregister).insertInStream _ _ _) request.key (t.evidenceOf request).id now
  generalize hop : s.admitRequest request now = result
  cases s.admitRequest_view hop with
  | refused hrefused =>
    refine hquiet (hs.of_streams_eq rfl) ?_
    rw [admissionRounds, hrefused]
  | unregistered haccepted hbound =>
    refine hquiet (hs.of_streams_eq rfl) ?_
    rw [admissionRounds, haccepted, hbound]
  | fenced haccepted hregister hfenced =>
    refine hquiet ((hregistered hregister).of_streams_eq rfl) ?_
    rw [admissionRounds, haccepted, hregister]
    refine if_neg fun h => ?_
    rw [hfenced] at h
    cases h.1
  | duplicate ht hduplicate =>
    refine hquiet ((hregistered ht.registered).of_streams_eq rfl) (admissionRounds_eq_nil ht ?_)
    intro hnew
    rw [hnew.fresh] at hduplicate
    cases hduplicate
  | rejected ht hfresh hregression hfull =>
    exact hquiet ((hregistered ht.registered).of_streams_eq rfl)
      (admissionRounds_eq_nil ht (fun hnew => hnew.advances hregression))
  | @retained t ht hfresh hregression hroom =>
    refine hquiet ?_ (admissionRounds_eq_nil ht (fun hnew => hnew.advances hregression))
    rw [retainRejected]
    refine AllStreams.of_streams_eq ?_ (refreshConflict_evidence _ _ _ _).streams
    have hcounted : t.countRejected.Occupied := (hregistered ht.registered).of_streams_eq rfl
    exact hcounted.insertInStream _ _ _
  | @exhausted t u ids ht hnew hbudget =>
    have hiff := hbudgeted ht.registered
    obtain ⟨record, hrecord⟩ := incoming_mem (evicts_of_budget hbudget)
    rw [hbudget] at hiff
    rw [admissionRounds_of_advancing ht hnew, ← hiff, ← occupied_rollback_iff hrecord]
    exact occupied_congr rfl
  | @accepted t u ids ht hnew hbudget =>
    have hiff := hbudgeted ht.registered
    rw [hbudget] at hiff
    rw [admissionRounds_of_advancing ht hnew, ← hiff]
    exact occupied_congr (refreshConflict_evidence _ _ _ _).streams

end Admissions

/-! ### Steps and runs -/

/-- Evictions of the step leave a record in every stream they take one from. -/
def Sparing (s : Registry) (op : Op) : Prop :=
  ∀ request now, op = .admitRequest request now → Leaves (s.admissionRounds request now)

theorem Occupied.of_restored {records : List StoredEvidence} (h : t.streams = restoreStreams records) : t.Occupied := by
  intro key stream hfind
  rw [h] at hfind
  obtain ⟨record, hrecord⟩ := exists_mem_restored hfind
  exact ne_nil_of_mem hrecord

theorem Occupied.retire (hs : s.Occupied) (request : RetirementRequest) (now : Tick) :
    (s.retire request now).2.Occupied := by
  rcases s.streams_retire request now with hsame | ⟨⟨stream, hfind⟩, hstreams⟩
  · exact hs.of_streams_eq hsame
  · refine hs.of_insert ?_ hstreams
    have hat : s.streamAt (s.tombstoneOf request now).key = stream := streamAt_of_find hfind
    rw [hat]
    exact fun hnil => hs _ stream hfind (map_eq_nil_iff.mp hnil)

/-- A step from a registry without empty streams leaves none exactly when its evictions spare the last records. -/
theorem occupied_step_iff (hs : s.Occupied) (op : Op) : (s.step op).Occupied ↔ s.Sparing op := by
  have hquiet : (∀ request now, op ≠ .admitRequest request now) → s.Sparing op :=
    fun hother request now hop => absurd hop (hother request now)
  rcases op.made_or .admitRequest with ⟨request, now, rfl⟩ | hadmits
  · refine (occupied_admitRequest_iff hs).trans ⟨?_, fun h => h request now rfl⟩
    rintro h other tick hop
    cases hop
    exact h
  · refine iff_of_true ?_ (hquiet hadmits)
    rcases op.made_or .adoptState with ⟨state, now, rfl⟩ | hadopt
    · exact .of_restored (refreshAllConflicts_evidence (resumeTick state now) (.refl (s.rebooted state now))).streams
    · rcases s.step_cases hadopt with ⟨request, now, hop, -⟩ | ⟨request, now, -, hstep⟩ | hframe
      · exact absurd hop (hadmits request now)
      · rw [hstep]
        exact hs.retire request now
      · exact hs.of_streams_eq hframe.streams

/-- Streams that hold a record. -/
def occupiedStreams (s : Registry) : Nat := s.streams.entries.countP (fun entry => entry.2.records ≠ [])

/-- A stream without records takes no place: every stream that is counted holds a record, an admission is refused for
    the number of streams only when so many hold one, and a retirement that gets as far as its stream is refused where
    there is no record. -/
structure SlotsFreed (s : Registry) : Prop where
  occupied : s.Occupied
  budget : ∀ request now detail, (s.admitRequest request now).1 = .failure .rejectedStreamBudgetExhausted detail →
    s.policy.limits.maxStreams.toNat ≤ s.occupiedStreams
  retirement : ∀ request now, (s.streamAt request.key).records = [] → s.retirementRefusal request = none →
    (∀ tombstone ∈ s.findTombstone request.key, tombstone.generation < request.generation) →
    (s.retire request now).1 = .failure .unknownNoEvidence (text "stream holds no records")

theorem Occupied.occupiedStreams_eq (hs : s.Occupied) : s.occupiedStreams = s.countStreams := by
  rw [occupiedStreams, countStreams, size, countP_eq_length]
  intro entry hentry
  exact decide_eq_true (hs entry.1 entry.2 (mem_entries_iff.mp hentry))

theorem featureSetRefusal_ne {set : FeatureSet} (h : featureSetRefusal set kind = some reason) :
    reason ≠ .rejectedStreamBudgetExhausted := by
  rw [featureSetRefusal] at h
  split at h
  · cases h
    decide
  · split at h
    · cases h
      decide
    · obtain ⟨code, -, hcode⟩ := exists_of_findSome?_eq_some h
      rw [featureCodeRefusal] at hcode
      repeat' split at hcode
      all_goals cases hcode
      all_goals decide

theorem limitSetRefusal_ne {set : LimitSet} (h : limitSetRefusal set kind = some reason) :
    reason ≠ .rejectedStreamBudgetExhausted := by
  rw [limitSetRefusal] at h
  split at h
  · cases h
    decide
  · split at h
    · cases h
      decide
    · obtain ⟨entry, -, hentry⟩ := exists_of_findSome?_eq_some h
      rw [limitValueRefusal] at hentry
      repeat' split at hentry
      all_goals cases hentry
      all_goals decide

/-- The checks in front of the stream never speak of the number of streams. -/
theorem admissionRefusal_ne {request : AdmissionRequest} (h : s.admissionRefusal request now = some refusal) :
    refusal.reason ≠ .rejectedStreamBudgetExhausted := by
  rw [admissionRefusal] at h
  split at h
  · rename_i found hwindow
    cases h
    rw [windowRefusal] at hwindow
    repeat' split at hwindow
    all_goals cases hwindow
    all_goals decide
  · split at h
    · rename_i found hsource
      cases h
      rw [sourceRefusal] at hsource
      repeat' split at hsource
      all_goals cases hsource
      all_goals decide
    · rw [contentRefusal] at h
      split at h
      · cases h
        decide
      · split at h
        · rename_i reason hfeatures
          cases h
          exact featureSetRefusal_ne hfeatures
        · split at h
          · rename_i reason hlimits
            cases h
            exact limitSetRefusal_ne hlimits
          · cases h

theorem registerIncarnation_ne {device : DeviceIncarnationRef} (h : s.registerIncarnation device = .error refusal) :
    refusal.reason ≠ .rejectedStreamBudgetExhausted := by
  have hview := s.registerIncarnation_view device
  rw [h] at hview
  cases hview with
  | deviceBound _ _ | incarnationBound _ _ _ => decide

theorem streams_full_of_refused {request : AdmissionRequest} {detail : Bytes}
    (h : (s.admitRequest request now).1 = .failure .rejectedStreamBudgetExhausted detail) :
    s.policy.limits.maxStreams.toNat ≤ s.countStreams := by
  generalize hop : s.admitRequest request now = result at h
  cases s.admitRequest_view hop with
  | refused hrefused =>
    injection h with hreason
    exact absurd hreason (admissionRefusal_ne hrefused)
  | unregistered haccepted hbound =>
    injection h with hreason
    exact absurd hreason (registerIncarnation_ne hbound)
  | @fenced t refusal haccepted hregister hfenced =>
    injection h with hreason
    rw [streamRefusal] at hfenced
    split at hfenced
    · rename_i hfull
      obtain ⟨table, next, rfl⟩ := registerIncarnation_frame hregister
      exact hfull.2
    · split at hfenced
      · cases hfenced
        cases hreason
      · cases hfenced
  | duplicate ht hduplicate => cases h
  | rejected ht hfresh hregression hfull => cases h
  | retained ht hfresh hregression hroom | exhausted ht hnew hbudget | accepted ht hnew hbudget => cases h

theorem slotsFreed_iff : s.SlotsFreed ↔ s.Occupied := by
  refine ⟨SlotsFreed.occupied, fun hs => ⟨hs, ?_, ?_⟩⟩
  · intro request now detail h
    rw [hs.occupiedStreams_eq]
    exact streams_full_of_refused h
  · intro request now hempty haccepted hslot
    have hnone : s.findStream request.key = none := by
      cases hfind : s.findStream request.key with
      | none => rfl
      | some stream =>
        rw [streamAt_of_find hfind] at hempty
        exact absurd hempty (hs request.key stream hfind)
    have hlater : ¬ ∃ tombstone ∈ s.findTombstone request.key, tombstone.generation > request.generation := by
      rintro ⟨tombstone, htombstone, hlt⟩
      exact absurd (hslot tombstone htombstone) (not_lt.mpr hlt.le)
    have hrepeated : ¬ ∃ tombstone ∈ s.findTombstone request.key, tombstone.generation = request.generation := by
      rintro ⟨tombstone, htombstone, heq⟩
      exact absurd heq (hslot tombstone htombstone).ne
    rw [retire, haccepted]
    dsimp only
    rw [if_neg hrepeated, fenceRefusal, if_neg hlater, hnone]
    rfl

end Registry

/-- From an empty registry or a restored one, a run frees the places of its emptied streams at every step exactly when
    no eviction takes the last record of a stream. -/
theorem emptied_streams_freed_iff {start : Registry}
    (hstart : (∃ policy, start = init policy) ∨ ∃ policy state, start = restore policy state)
    (ops : List Op) :
    Runs.Along step (fun s op => (s.step op).SlotsFreed) start ops ↔
      Runs.Along step Registry.Sparing start ops := by
  have hoccupied : start.Occupied := by
    rcases hstart with ⟨policy, rfl⟩ | ⟨policy, state, rfl⟩
    · intro key stream hfind
      cases hfind
    · exact .of_restored rfl
  refine Runs.Along.iff_of_invariant (fun s op hs _ => ?_) (fun s op _ _ h => h.occupied) hoccupied
    (Runs.Along.of_forall (fun _ _ => trivial) start ops)
  rw [slotsFreed_iff, occupied_step_iff hs]

theorem slots_freed_one_report : ((init policy).step
      (.admitRequest (request 0 1 5) 5)).SlotsFreed := by
  have hnone : (init policy).admissionRounds (request 0 1 5) 5 = [] :=
    eq_nil_of_length_eq_zero (by decide +kernel)
  have hsparing : (init policy).Sparing (.admitRequest (request 0 1 5) 5) := by
    intro request now hop
    cases hop
    rw [hnone]
    exact leaves_nil
  exact ((emptied_streams_freed_iff (.inl ⟨policy, rfl⟩) [.admitRequest (request 0 1 5) 5]).mpr
    ⟨hsparing, trivial⟩).1

namespace Lab

/-- Room for one record and two streams. -/
def cramped : RegistryPolicy := { forgetful with limits := { forgetful.limits with maxStreams := 2 } }

/-- The report of a second device took the place of the first one's. -/
def displaced : Registry :=
  (init cramped).run [.admitRequest (request 0 1 5) 5, .admitRequest (request 1 1 100) 100]

end Lab

/-- A stream whose record was evicted counts as a stream, keeps a third device out and can be retired. -/
theorem emptied_stream_keeps_slot :
    displaced.countStreams = 2 ∧ displaced.occupiedStreams = 1 ∧
      (displaced.admitRequest (request 2 1 101) 101).1 =
        .failure .rejectedStreamBudgetExhausted (text "stream bound reached") ∧
      (displaced.streamAt (retirement 0 2 101).key).records = [] ∧
      (displaced.retire (retirement 0 2 101) 101).1.ok = true := by
  decide +kernel

end Ocreg
