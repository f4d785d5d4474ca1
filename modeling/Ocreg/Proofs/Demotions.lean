/-
Module: Ocreg.Proofs.Demotions
Purpose: The records an accepted admission says it superseded, against the records whose derived state becomes
  superseded by it.
-/
import Ocreg.Proofs.EvictionRounds

namespace Ocreg

open List Registry Lab

variable {record : StoredEvidence} {stream : Stream} {key : EvidenceKey} {now : Tick}

namespace Registry

variable {s t : Registry} {request : AdmissionRequest}

/-! ### Superseded records -/

/-- The derivation calls a record superseded for its lifecycle and its stream alone. -/
theorem derivedState_superseded_iff : s.derivedState key stream record now = .superseded ↔
      record.lifecycle = .admitted ∧ stream.maxGeneration ≠ 0 ∧
        record.evidence.generation < stream.maxGeneration := by
  cases hlifecycle : record.lifecycle with
  | rejected =>
    have hclassify : s.classify record stream (s.policy.findSource key.source) key.device now 0 =
        (.rejected, record.admissionReason) := by rw [classify.eq_def, if_pos hlifecycle]
    rw [derivedState_of_inactive (by decide) hclassify]
    exact iff_of_false (by decide) fun h => by cases h.1
  | retired =>
    have hclassify : s.classify record stream (s.policy.findSource key.source) key.device now 0 =
        (.retired, record.retirementReason) := by
      rw [classify.eq_def, if_neg (by rw [hlifecycle]; decide), if_pos hlifecycle]
    rw [derivedState_of_inactive (by decide) hclassify]
    exact iff_of_false (by decide) fun h => by cases h.1
  | admitted =>
    by_cases hbelow : stream.maxGeneration ≠ 0 ∧ record.evidence.generation < stream.maxGeneration
    · have hclassify : s.classify record stream (s.policy.findSource key.source) key.device now 0 =
          (.superseded, .rejectedSupersededGeneration) := by
        rw [classify.eq_def, if_neg (by rw [hlifecycle]; decide), if_neg (by rw [hlifecycle]; decide), if_pos hbelow]
      rw [derivedState_of_inactive (by decide) hclassify]
      exact iff_of_true rfl ⟨rfl, hbelow⟩
    · refine iff_of_false ?_ fun h => hbelow h.2
      have hcurrent : (s.classify record stream (s.policy.findSource key.source) key.device now 0).1.Current :=
        classify_current hlifecycle hbelow _ _ _
      intro hsuperseded
      rcases derivedState_of_current hcurrent with hother | houtranked
      · rw [hsuperseded] at hother
        simp [EvidenceState.Current] at hother
      · rw [hsuperseded] at houtranked
        cases houtranked

theorem derivedAs_superseded_iff (hkeyed : s.AllStreams Stream.Keyed) (hfind : s.streams.find? key = some stream)
    (hrecord : record ∈ stream.records) : s.DerivedAs key record now .superseded ↔
      record.lifecycle = .admitted ∧ stream.maxGeneration ≠ 0 ∧
        record.evidence.generation < stream.maxGeneration := by
  rw [derivedAs_iff hkeyed hfind hrecord, derivedState_superseded_iff]

/-- A stored record of this id is not superseded in the first registry and is in the second. -/
def Demoted (s t : Registry) (now : Tick) (id : EvidenceId) : Prop :=
  ∃ key, ∃ record ∈ (s.streamAt key).records, record.id = id ∧ ¬ s.DerivedAs key record now .superseded ∧
    t.DerivedAs key record now .superseded

end Registry

/-- An admission into the stream demotes every record in it, up to records of the same id; into a stream without
    generations it demotes none. -/
def Stream.DemotesAll (stream : Stream) : Prop :=
  if stream.maxGeneration = 0 then ∀ record ∈ stream.records, record.lifecycle ≠ .admitted
  else ∀ record ∈ stream.records, ∃ newest ∈ stream.records, newest.id = record.id ∧
    newest.lifecycle = .admitted ∧ newest.evidence.generation = stream.maxGeneration

instance (stream : Stream) : Decidable stream.DemotesAll := inferInstanceAs (Decidable (ite _ _ _))

/-! ### Accepted admissions -/

namespace Registry

variable {s t : Registry} {request : AdmissionRequest} {id : EvidenceId}
  {evidence : CapabilityEvidence}

/-- What one more record of a later generation demotes: the admitted records of its stream that were at the top. -/
theorem demoted_insert_iff {generation : RecordGeneration} (hs : s.AllStreams Stream.Keyed)
    (ht : t.AllStreams Stream.Keyed) (hnonzero : generation ≠ 0)
    (hstreams : t.streams = s.streams.insert key ⟨insertRecord record (s.streamAt key).records, generation⟩) :
    Demoted s t now id ↔ ∃ old ∈ (s.streamAt key).records, old.id = id ∧ old.lifecycle = .admitted ∧
      ¬ ((s.streamAt key).maxGeneration ≠ 0 ∧ old.evidence.generation < (s.streamAt key).maxGeneration) ∧
      old.evidence.generation < generation := by
  constructor
  · rintro ⟨other, old, hold, hid, hbefore, hafter⟩
    obtain ⟨stream, hfind, hmem⟩ := find_of_mem_streamAt hold
    rw [derivedAs_superseded_iff hs hfind hmem] at hbefore
    by_cases hkey : other = key
    · subst hkey
      have hinserted : t.streams.find? other = some ⟨insertRecord record (s.streamAt other).records, generation⟩ := by
        rw [hstreams, SortedMap.find?_insert_self]
      rw [derivedAs_superseded_iff ht hinserted (mem_insertRecord.mpr (.inr hold))] at hafter
      refine ⟨old, hold, hid, hafter.1, ?_, hafter.2.2⟩
      rw [streamAt_of_find hfind]
      exact fun h => hbefore ⟨hafter.1, h⟩
    · have hsame : t.streams.find? other = some stream := by
        rw [hstreams, SortedMap.find?_insert_of_ne _ _ hkey, hfind]
      rw [derivedAs_superseded_iff ht hsame hmem] at hafter
      exact absurd hafter hbefore
  · rintro ⟨old, hold, hid, hadmitted, hnewest, hless⟩
    obtain ⟨stream, hfind, hmem⟩ := find_of_mem_streamAt hold
    have hinserted : t.streams.find? key = some ⟨insertRecord record (s.streamAt key).records, generation⟩ := by
      rw [hstreams, SortedMap.find?_insert_self]
    refine ⟨key, old, hold, hid, ?_, ?_⟩
    · rw [derivedAs_superseded_iff hs hfind hmem]
      rw [streamAt_of_find hfind] at hnewest
      exact fun h => hnewest h.2
    · rw [derivedAs_superseded_iff ht hinserted (mem_insertRecord.mpr (.inr hold))]
      exact ⟨hadmitted, hnonzero, hless⟩

theorem generationRejection_not_accepted (stream : Stream) (evidence : CapabilityEvidence) :
    ¬ (generationRejection stream evidence = .acceptedNew ∨ generationRejection stream evidence = .acceptedSuperseding) := by
  rw [generationRejection]
  split
  · decide
  · decide

/-- The list of an admission that advances its stream. -/
theorem mem_supersededBy : id ∈ s.supersededBy evidence ↔ (s.streamAt evidence.key).maxGeneration ≠ 0 ∧
      ∃ old ∈ (s.streamAt evidence.key).records, old.id = id ∧ old.evidence.generation < evidence.generation := by
  rw [supersededBy]
  split
  · rename_i hzero
    exact iff_of_false not_mem_nil fun h => h.1 hzero
  · rename_i hnonzero
    simp only [mem_insertionSort, mem_map, mem_filter, decide_eq_true_eq]
    constructor
    · rintro ⟨old, ⟨hold, hless⟩, hid⟩
      exact ⟨hnonzero, old, hold, hid, hless⟩
    · rintro ⟨-, old, hold, hid, hless⟩
      exact ⟨old, ⟨hold, hless⟩, hid⟩

/-- The list names exactly what is demoted when the stream is one that demotes all. -/
theorem supersededBy_exact_iff (hstream : s.streamAt evidence.key = stream)
    (hlevel : stream.maxGeneration = highestGeneration stream.records) (hnonzero : evidence.generation ≠ 0)
    (hadvances : ¬ (stream.maxGeneration ≠ 0 ∧ evidence.generation ≤ stream.maxGeneration)) :
    (∀ id, id ∈ s.supersededBy evidence ↔ ∃ old ∈ stream.records, old.id = id ∧ old.lifecycle = .admitted ∧
      ¬ (stream.maxGeneration ≠ 0 ∧ old.evidence.generation < stream.maxGeneration) ∧
      old.evidence.generation < evidence.generation) ↔ stream.DemotesAll := by
  have hbelow : ∀ old ∈ stream.records, old.evidence.generation ≤ stream.maxGeneration := by
    intro old hold
    rw [hlevel]
    exact le_highestGeneration hold
  rw [Stream.DemotesAll]
  split
  · rename_i hzero
    have hless : ∀ old ∈ stream.records, old.evidence.generation < evidence.generation := by
      intro old hold
      have hle := hbelow old hold
      rw [hzero] at hle
      exact lt_of_le_of_lt hle (UInt64.pos_iff_ne_zero.mpr hnonzero)
    constructor
    · intro h old hold hadmitted
      have hmem := (h old.id).mpr ⟨old, hold, rfl, hadmitted, fun hmax => hmax.1 hzero, hless old hold⟩
      rw [mem_supersededBy, hstream] at hmem
      exact hmem.1 hzero
    · intro h id
      rw [mem_supersededBy, hstream]
      refine iff_of_false (fun hmax => hmax.1 hzero) ?_
      rintro ⟨old, hold, -, hadmitted, -⟩
      exact h old hold hadmitted
  · rename_i hmax
    have hlarger : stream.maxGeneration < evidence.generation := not_le.mp (fun hle => hadvances ⟨hmax, hle⟩)
    constructor
    · intro h record hrecord
      have hmem : record.id ∈ s.supersededBy evidence := by
        rw [mem_supersededBy, hstream]
        exact ⟨hmax, record, hrecord, rfl, lt_of_le_of_lt (hbelow record hrecord) hlarger⟩
      obtain ⟨old, hold, hid, hadmitted, hnewest, -⟩ := (h record.id).mp hmem
      exact ⟨old, hold, hid, hadmitted, le_antisymm (hbelow old hold) (not_lt.mp (fun hlt => hnewest ⟨hmax, hlt⟩))⟩
    · intro h id
      rw [mem_supersededBy, hstream]
      constructor
      · rintro ⟨-, record, hrecord, rfl, -⟩
        obtain ⟨newest, hnewest, hid, hadmitted, htop⟩ := h record hrecord
        refine ⟨newest, hnewest, hid, hadmitted, ?_, ?_⟩
        · rw [htop]
          exact fun hlt => lt_irrefl _ hlt.2
        · rw [htop]
          exact hlarger
      · rintro ⟨old, hold, hid, -, -, hless⟩
        exact ⟨hmax, old, hold, hid, hless⟩

end Registry

/-- An accepted admission that evicts nothing lists exactly the records it demotes, when its stream is one in which
    every record stands at the newest generation, and only then. -/
theorem superseded_list_exact_iff {s : Registry} (hreach : s.Reachable) {request : AdmissionRequest} {now : Tick}
    {outcome : AdmissionOutcome} {reason : ReasonCode} (h : (s.admitRequest request now).1 = .success outcome reason)
    (haccepted : outcome.reason = .acceptedNew ∨ outcome.reason = .acceptedSuperseding)
    (hevicted : outcome.evicted = []) :
    (∀ id, id ∈ outcome.superseded ↔ Registry.Demoted s (s.admitRequest request now).2 now id) ↔
      (s.streamAt request.key).DemotesAll := by
  have hafter : (s.admitRequest request now).2.AllStreams Stream.Keyed :=
    (hreach.step (.admitRequest request now)).keyed
  generalize hop : s.admitRequest request now = result at h hafter
  cases s.admitRequest_view hop with
  | refused hrefused | unregistered haccepted hbound | fenced haccepted hregistered hfenced => cases h
  | duplicate ht hduplicate =>
    cases h
    rcases haccepted with hreason | hreason <;> cases hreason
  | @rejected t ht hfresh hregression hfull | @retained t ht hfresh hregression hroom =>
    cases h
    exact absurd haccepted (generationRejection_not_accepted _ _)
  | exhausted ht hnew hbudget => cases h
  | @accepted t u ids ht hnew hbudget =>
    cases h
    have hnothing : ids = [] := hevicted
    subst hnothing
    have hinserted : u = t.insertAdmitted (t.evidenceOf request) now := by
      cases evicts_of_budget hbudget
      rfl
    have hframe := registerIncarnation_evidence ht.registered
    have hstream : t.streamAt (t.evidenceOf request).key = s.streamAt request.key := hframe.streamAt request.key
    have hstreams : (u.settleAccepted request.key now).streams = s.streams.insert request.key
        ⟨insertRecord (storedOf (t.evidenceOf request) .admitted
          (acceptanceReason (t.streamAt request.key)) now) (s.streamAt request.key).records,
          request.generation⟩ := by
      rw [settleAccepted, (refreshConflict_evidence _ _ _ _).streams, hinserted, ← hframe.streams,
        ← hstream]
      rfl
    have hnonzero := generation_ne_zero_of_accepted ht.accepted
    have hadvances := hnew.advances
    rw [isRegression, hstream] at hadvances
    have hlevel : (s.streamAt request.key).maxGeneration = highestGeneration (s.streamAt request.key).records :=
      AllStreams.at (Levelled.of_reachable hreach) (fun _ => rfl) _
    refine Iff.trans ?_ (supersededBy_exact_iff hstream hlevel hnonzero hadvances)
    apply forall_congr'
    intro id
    rw [demoted_insert_iff hreach.keyed hafter hnonzero hstreams]
    rfl

instance (s : Registry) (key : EvidenceKey) (record : StoredEvidence) (now : Tick) (state : EvidenceState) :
    Decidable (s.DerivedAs key record now state) :=
  inferInstanceAs (Decidable (∃ fact ∈ (s.derive key.device key.kind now 0).facts, _))

theorem superseded_list_second_report :
    ∃ outcome reason, (oneReport.admitRequest (request 0 2 6) 6).1 = .success outcome reason ∧
      outcome.superseded.length = 1 ∧
      ∀ id, id ∈ outcome.superseded ↔
        Registry.Demoted oneReport (oneReport.admitRequest (request 0 2 6) 6).2 6 id := by
  have hall : (oneReport.streamAt (request 0 2 6).key).DemotesAll := by decide +kernel
  have houtcome : ∃ outcome ∈ (oneReport.admitRequest (request 0 2 6) 6).1.value?,
      outcome.reason = .acceptedSuperseding ∧ outcome.evicted = [] ∧ outcome.superseded.length = 1 := by decide +kernel
  obtain ⟨outcome, hvalue, hreason, hevicted, hlength⟩ := houtcome
  cases hresult : (oneReport.admitRequest (request 0 2 6) 6).1 with
  | failure reason detail =>
    rw [hresult] at hvalue
    cases hvalue
  | success found reason =>
    rw [hresult] at hvalue
    cases hvalue
    exact ⟨outcome, reason, rfl, hlength,
      (superseded_list_exact_iff (.step (.init policy) _) hresult (.inr hreason) hevicted).mpr hall⟩

/-- The third report of a stream lists the first one, which the second had superseded. -/
theorem superseded_record_listed_again :
    let s := (init policy).run [.admitRequest (request 0 1 5) 5, .admitRequest (request 0 2 6) 6]
    ∃ outcome ∈ (s.admitRequest (request 0 3 7) 7).1.value?, outcome.evicted = [] ∧
      ∃ record ∈ (s.streamAt (request 0 3 7).key).records, record.id ∈ outcome.superseded ∧
        s.DerivedAs (request 0 3 7).key record 7 .superseded := by
  decide +kernel

end Ocreg
