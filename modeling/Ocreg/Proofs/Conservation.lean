/-
Module: Ocreg.Proofs.Conservation
Purpose: Accounts of records over whole runs: what an operation appends to the eviction ledger, that every record
  an operation takes out is among it, and that stored, evicted and remaining records balance.
-/
import Ocreg.Lib.Runs
import Ocreg.Proofs.Bounds

namespace Ocreg

open List Registry

variable {incoming : EvidenceId} {op : Op} {request : AdmissionRequest} {entries : List EvictionEntry} {dropped : Nat}
  {ids : List EvidenceId} {key : EvidenceKey} {record : StoredEvidence}

/-! ### The ledger -/

/-- `t` has the ledger of `s` with entries appended at its end and some dropped at its front, all of them counted. -/
structure Appends (s t : Registry) (appended : List EvictionEntry) (dropped : Nat) : Prop where
  table : t.evictionTable = (s.evictionTable ++ appended).drop dropped
  dropped_le : dropped ≤ (s.evictionTable ++ appended).length
  total : t.counters.evictionsTotal = s.counters.evictionsTotal + UInt64.ofNat appended.length
  ledgerDropped : t.counters.evictionLedgerDropped = s.counters.evictionLedgerDropped + UInt64.ofNat dropped

namespace Appends

variable {s t u : Registry} {first second : List EvictionEntry} {dropped' : Nat}

/-- An operation that leaves the ledger and its counters appends nothing. -/
theorem of_eq (htable : t.evictionTable = s.evictionTable)
    (htotal : t.counters.evictionsTotal = s.counters.evictionsTotal)
    (hdropped : t.counters.evictionLedgerDropped = s.counters.evictionLedgerDropped) : Appends s t [] 0 where
  table := by rw [htable, append_nil, drop_zero]
  dropped_le := Nat.zero_le _
  total := by
    rw [htotal]
    exact (UInt64.add_zero _).symm
  ledgerDropped := by
    rw [hdropped]
    exact (UInt64.add_zero _).symm

theorem trans (hst : Appends s t first dropped) (htu : Appends t u second dropped') :
    Appends s u (first ++ second) (dropped + dropped') where
  table := by
    rw [htu.table, hst.table, ← append_assoc, ← drop_append_of_le_length hst.dropped_le, drop_drop]
  dropped_le := by
    have hle := htu.dropped_le
    have hle' := hst.dropped_le
    rw [hst.table, length_append, length_drop] at hle
    rw [← append_assoc, length_append]
    omega
  total := by rw [htu.total, hst.total, length_append, UInt64.ofNat_add, UInt64.add_assoc]
  ledgerDropped := by rw [htu.ledgerDropped, hst.ledgerDropped, UInt64.ofNat_add, UInt64.add_assoc]

/-- The size of the ledger and what was dropped from it make up what was evicted, and keep doing so. -/
theorem balance (h : Appends s t first dropped)
    (hs : UInt64.ofNat s.evictionTable.length + s.counters.evictionLedgerDropped = s.counters.evictionsTotal) :
    UInt64.ofNat t.evictionTable.length + t.counters.evictionLedgerDropped = t.counters.evictionsTotal := by
  have hlength : t.evictionTable.length + dropped = s.evictionTable.length + first.length := by
    have hle := h.dropped_le
    rw [length_append] at hle
    rw [h.table, length_drop, length_append]
    omega
  calc UInt64.ofNat t.evictionTable.length + t.counters.evictionLedgerDropped
      = UInt64.ofNat (t.evictionTable.length + dropped) + s.counters.evictionLedgerDropped := by
        rw [h.ledgerDropped, UInt64.ofNat_add, UInt64.add_assoc, UInt64.add_comm (UInt64.ofNat dropped)]
    _ = UInt64.ofNat s.evictionTable.length + s.counters.evictionLedgerDropped + UInt64.ofNat first.length := by
        rw [hlength, UInt64.ofNat_add, UInt64.add_assoc, UInt64.add_comm (UInt64.ofNat first.length), UInt64.add_assoc]
    _ = t.counters.evictionsTotal := by rw [hs, h.total]

end Appends

/-- The entry describes this record of this stream. -/
structure EvictionEntry.Reports (entry : EvictionEntry) (key : EvidenceKey) (record : StoredEvidence) : Prop where
  id : entry.id = record.id
  key : entry.key = key
  generation : entry.generation = record.evidence.generation

namespace Registry

variable {s t u : Registry} {now : Tick}

/-- The record is stored in `s`, and in `t` its stream has no record of the same evidence. -/
structure Lost (s t : Registry) (key : EvidenceKey) (record : StoredEvidence) : Prop where
  before : record ∈ (s.streamAt key).records
  after : ∀ other ∈ (t.streamAt key).records, other.evidence ≠ record.evidence

/-- What goes missing between `s` and `t` is reported by one of the entries. -/
def Reported (s t : Registry) (entries : List EvictionEntry) : Prop :=
  ∀ key record, Lost s t key record → ∃ entry ∈ entries, entry.Reports key record

theorem Reported.of_kept (h : ∀ key, ∀ record ∈ (s.streamAt key).records, record ∈ (t.streamAt key).records)
    (entries : List EvictionEntry) : Reported s t entries := by
  intro key record hlost
  exact absurd rfl (hlost.after record (h key record hlost.before))

/-! ### Evictions -/

end Registry

/-- What is missing after the first match was removed is the match. -/
theorem eq_find?_of_not_mem_eraseP {α : Type} {test : α → Bool} {as : List α} {a found : α} (hmem : a ∈ as)
    (hgone : a ∉ as.eraseP test) (hfound : as.find? test = some found) : a = found := by
  induction as with
  | nil => cases hmem
  | cons b as ih =>
    by_cases htest : test b = true
    · rw [List.find?_cons_of_pos htest] at hfound
      rw [eraseP_cons_of_pos htest] at hgone
      cases hfound
      rcases mem_cons.mp hmem with rfl | hmem
      · rfl
      · exact absurd hmem hgone
    · rw [List.find?_cons_of_neg htest] at hfound
      rw [eraseP_cons_of_neg htest, mem_cons, not_or] at hgone
      rcases mem_cons.mp hmem with rfl | hmem
      · exact absurd rfl hgone.1
      · exact ih hmem hgone.2 hfound

namespace Registry

variable {s t u : Registry} {now : Tick}

/-- One eviction appends the entry of the record it takes out. A full ledger has a first entry to drop, as its
    bound is not zero. -/
theorem applyEviction_appends {candidate : EvictionCandidate}
    (hpositive : 1 ≤ s.policy.limits.maxEvictionLedger.toNat) (happly : s.applyEviction candidate now = some t) :
    ∃ entry dropped, Appends s t [entry] dropped ∧ Reported s t [entry] := by
  obtain ⟨stream, victim, hfind, hvictim, rfl⟩ := applyEviction_eq_some happly
  have hreported : Reported s { s.pushEviction (evictionEntryOf candidate.key stream victim now) with
      streams := s.streams.insert candidate.key (stream.without candidate.id)
      totalRecords := s.totalRecords - 1 } [evictionEntryOf candidate.key stream victim now] := by
    intro key record hlost
    have hafter : record ∉ (streamAt { s.pushEviction (evictionEntryOf candidate.key stream victim now) with
        streams := s.streams.insert candidate.key (stream.without candidate.id)
        totalRecords := s.totalRecords - 1 } key).records :=
      fun hmem => hlost.after record hmem rfl
    rw [streamAt, findStream] at hafter
    dsimp only at hafter
    rw [SortedMap.find?_insert] at hafter
    have hbefore := hlost.before
    split at hafter
    next hkey =>
      subst hkey
      rw [streamAt_of_find hfind] at hbefore
      -- the one record that is missing is the first of the candidate's id
      have hfirst : record = victim := eq_find?_of_not_mem_eraseP hbefore hafter hvictim
      subst hfirst
      exact ⟨_, mem_singleton_self _, rfl, rfl, rfl⟩
    next => exact absurd hbefore hafter
  by_cases hfull : s.evictionTable.length ≥ s.policy.limits.maxEvictionLedger.toNat
  · refine ⟨evictionEntryOf candidate.key stream victim now, 1, ⟨?_, ?_, rfl, ?_⟩, hreported⟩
    · rw [pushEviction]
      dsimp only
      rw [if_pos hfull, drop_append_of_le_length (hpositive.trans hfull)]
    · rw [length_append]
      exact (hpositive.trans hfull).trans (Nat.le_add_right _ _)
    · rw [pushEviction]
      dsimp only
      rw [if_pos hfull]
      rfl
  · refine ⟨evictionEntryOf candidate.key stream victim now, 0, ⟨?_, Nat.zero_le _, rfl, ?_⟩, hreported⟩
    · rw [pushEviction]
      dsimp only
      rw [if_neg hfull, drop_zero]
    · rw [pushEviction]
      dsimp only
      rw [if_neg hfull]
      exact (UInt64.add_zero _).symm

/-- A run of evictions appends an entry for each record it takes out. -/
theorem Evicts.appends (h : Evicts incoming now s t ids) (hpositive : 1 ≤ s.policy.limits.maxEvictionLedger.toNat) :
    ∃ appended dropped, Appends s t appended dropped ∧ Reported s t appended ∧ appended.length = ids.length := by
  induction h with
  | refl s => exact ⟨[], 0, .of_eq rfl rfl rfl, .of_kept (fun _ _ hmem => hmem) [], rfl⟩
  | @step s t u _ candidate ids _ happly hrest ih =>
    obtain ⟨entry, first, hfirst, hreported⟩ := applyEviction_appends hpositive happly
    obtain ⟨appended, dropped, hlater, hreported', hlength⟩ := ih (applyEviction_policy happly ▸ hpositive)
    refine ⟨entry :: appended, first + dropped, hfirst.trans hlater, ?_, congrArg Nat.succ hlength⟩
    intro key record hlost
    -- the record went in this eviction or in a later one
    by_cases hkept : ∃ other ∈ (t.streamAt key).records, other.evidence = record.evidence
    · obtain ⟨other, hother, hsame⟩ := hkept
      obtain ⟨found, hfound, hreports⟩ := hreported' key other
        ⟨hother, fun last hlast => hsame ▸ hlost.after last hlast⟩
      refine ⟨found, mem_cons_of_mem entry hfound, ?_⟩
      have hid : other.id = record.id := congrArg CapabilityEvidence.id hsame
      exact ⟨hreports.id.trans hid, hreports.key, hsame ▸ hreports.generation⟩
    · push Not at hkept
      obtain ⟨found, hfound, hreports⟩ := hreported key record ⟨hlost.before, hkept⟩
      exact ⟨found, mem_append_left appended hfound, hreports⟩

/-- Where the count is exact, a stored record counts. -/
theorem Counted.totalRecords_pos (h : s.Counted) (hrecord : record ∈ (s.streamAt key).records) :
    1 ≤ s.totalRecords := by
  obtain ⟨stream, hfind, hmem⟩ := find_of_mem_streamAt hrecord
  have hle := SortedMap.le_sumOn (fun _ stream => stream.records.length) hfind
  rw [h, storedRecords]
  exact (length_pos_of_mem hmem).trans_le hle

/-- Evictions take exactly as many records as they name, where the count is exact. -/
theorem Counted.totalRecords_evicts (h : s.Counted) (hevicts : Evicts incoming now s t ids) :
    t.totalRecords + ids.length = s.totalRecords := by
  induction hevicts with
  | refl s => rfl
  | @step s t u _ candidate ids _ happly _ ih =>
    have hnext := ih (h.evict happly)
    obtain ⟨stream, victim, hfind, hvictim, hid, _, htotal⟩ := applyEviction_streams happly
    have hone : 1 ≤ s.totalRecords := h.totalRecords_pos (streamAt_of_find hfind ▸ hvictim)
    rw [length_cons]
    omega

/-! ### Operations that leave the accounts alone -/

/-- `t` has the eviction ledger and the counts of `s`. -/
structure LedgerFrame (s t : Registry) : Prop where
  table : t.evictionTable = s.evictionTable
  total : t.counters.evictionsTotal = s.counters.evictionsTotal
  ledgerDropped : t.counters.evictionLedgerDropped = s.counters.evictionLedgerDropped
  accepted : t.counters.admissionsAccepted = s.counters.admissionsAccepted

namespace LedgerFrame

theorem refl (s : Registry) : LedgerFrame s s := ⟨rfl, rfl, rfl, rfl⟩

theorem trans (hst : LedgerFrame s t) (htu : LedgerFrame t u) : LedgerFrame s u :=
  ⟨htu.table.trans hst.table, htu.total.trans hst.total, htu.ledgerDropped.trans hst.ledgerDropped,
    htu.accepted.trans hst.accepted⟩

theorem appends (h : LedgerFrame s t) : Appends s t [] 0 := .of_eq h.table h.total h.ledgerDropped

theorem refreshConflict (s : Registry) (device : DeviceIncarnationRef) (kind : CapabilityKind) (now : Tick) :
    LedgerFrame s (s.refreshConflict device kind now) := by
  obtain ⟨_, _, hrefresh⟩ := s.refreshConflict_frame device kind now
  rw [hrefresh]
  exact ⟨rfl, rfl, rfl, rfl⟩

theorem registered {device : DeviceIncarnationRef} (h : s.registerIncarnation device = .ok t) : LedgerFrame s t := by
  obtain ⟨_, _, rfl⟩ := registerIncarnation_frame h
  exact ⟨rfl, rfl, rfl, rfl⟩

/-- A retirement touches no account: its tombstone and its conflict are counted elsewhere. -/
theorem retire (s : Registry) (request : RetirementRequest) (now : Tick) : LedgerFrame s (s.retire request now).2 := by
  generalize hop : s.retire request now = result
  cases s.retire_view hop with
  | retired _ _ _ _ =>
    refine LedgerFrame.trans ?_ (LedgerFrame.refreshConflict _ _ _ _)
    obtain ⟨_, _, hpush⟩ := s.retired_frame request now
    rw [hpush]
    exact ⟨rfl, rfl, rfl, rfl⟩
  | _ => exact ⟨rfl, rfl, rfl, rfl⟩

/-- Only admissions and adoption touch the accounts. -/
theorem step (s : Registry) (hadmitted : ∀ request now, op ≠ .admitRequest request now)
    (hadopt : op.Ordinary) : LedgerFrame s (s.step op) := by
  rcases op.made_or .retire with ⟨request, now, rfl⟩ | hretire
  · exact .retire s request now
  · have htouches := s.step_touches hadopt
    generalize s.step op = t at htouches
    cases htouches with
    | unchanged => exact .refl s
    | admitted _ => exact absurd rfl (hadmitted _ _)
    | retired request now _ _ _ _ => exact absurd rfl (hretire request now)
    | _ => exact ⟨rfl, rfl, rfl, rfl⟩

end LedgerFrame

/-! ### The balance of one step -/

/-- The rejected record an operation stored: one that is in its stream now and was not before. -/
def retention (s : Registry) : Op → Option StoredEvidence
  | .admitRequest request now =>
    ((s.admitRequest request now).2.streamAt request.key).records.find? (fun record =>
      record.lifecycle = .rejected ∧ record ∉ (s.streamAt request.key).records)
  | _ => none

/-- From `s` to `t` so many records were accepted and so many rejected ones retained; the entries appended to the
    ledger report everything that went. -/
structure Balanced (s t : Registry) (accepted retained : Nat) (appended : List EvictionEntry) (dropped : Nat) :
    Prop where
  appends : Appends s t appended dropped
  reported : Reported s t appended
  records : t.totalRecords + appended.length = s.totalRecords + accepted + retained
  accepted : t.counters.admissionsAccepted = s.counters.admissionsAccepted + UInt64.ofNat accepted

section

variable (h : LedgerFrame s t) (htotal : t.totalRecords = s.totalRecords)
include h htotal

/-- Nothing stored and nothing taken out. -/
theorem Balanced.of_frame (hreported : Reported s t []) : Balanced s t 0 0 [] 0 :=
  ⟨h.appends, hreported, htotal, h.accepted.trans (UInt64.add_zero _).symm⟩

/-- An operation that leaves the streams stores and takes out nothing. -/
theorem Balanced.of_streams_eq (hstreams : t.streams = s.streams) : Balanced s t 0 0 [] 0 := by
  refine .of_frame h htotal (.of_kept ?_ [])
  intro key record hrecord
  rw [streamAt, findStream, hstreams]
  exact hrecord

end

/-- The balance looks at the records and the accounts only, on both sides. -/
theorem Balanced.framed {accepted retained : Nat} {appended : List EvictionEntry}
    (h : Balanced s t accepted retained appended dropped) {s' t' : Registry} (hevidence : EvidenceFrame s' s)
    (hledger : LedgerFrame s' s) (hevidence' : EvidenceFrame t t') (hledger' : LedgerFrame t t') :
    Balanced s' t' accepted retained appended dropped where
  appends := by
    have happends := (hledger.appends.trans h.appends).trans hledger'.appends
    rw [nil_append, append_nil, Nat.zero_add, Nat.add_zero] at happends
    exact happends
  reported := by
    intro key record hlost
    apply h.reported key record
    refine ⟨?_, ?_⟩
    · rw [hevidence.streamAt]
      exact hlost.before
    · have hafter := hlost.after
      rw [hevidence'.streamAt] at hafter
      exact hafter
  records := by
    rw [hevidence'.totalRecords, ← hevidence.totalRecords]
    exact h.records
  accepted := by
    rw [hledger'.accepted, h.accepted, hledger.accepted]

theorem retention_eq_none (h : ∀ record ∈ ((s.admitRequest request now).2.streamAt request.key).records, record ∈
        (s.streamAt request.key).records ∨ record.lifecycle ≠ .rejected) :
    s.retention (.admitRequest request now) = none := by
  rw [retention, List.find?_eq_none]
  intro record hrecord
  rw [decide_eq_true_eq]
  rintro ⟨hrejected, hnew⟩
  rcases h record hrecord with hold | hlive
  · exact hnew hold
  · exact hlive hrejected

theorem length_retention (hstored : record ∈ ((s.admitRequest request now).2.streamAt request.key).records)
    (hrejected : record.lifecycle = .rejected) (hnew : record ∉ (s.streamAt request.key).records) :
    (s.retention (.admitRequest request now)).toList.length = 1 := by
  have hsome : (s.retention (.admitRequest request now)).isSome = true := by
    rw [retention, List.find?_isSome]
    exact ⟨record, hstored, decide_eq_true ⟨hrejected, hnew⟩⟩
  obtain ⟨found, hfound⟩ := Option.isSome_iff_exists.mp hsome
  rw [hfound]
  rfl

theorem acceptance_eq_none (h : (s.admitRequest request now).1.isAccepted = false) :
    s.acceptance (.admitRequest request now) = none := by
  rw [acceptance, h]
  rfl

/-- An admission that leaves the streams as they were. -/
theorem balanced_unchanged {result : Outcome AdmissionOutcome × Registry}
    (hresult : s.admitRequest request now = result) (hframe : LedgerFrame s result.2)
    (htotal : result.2.totalRecords = s.totalRecords) (hstreams : result.2.streams = s.streams)
    (houtcome : result.1.isAccepted = false) :
    ∃ appended dropped, Balanced s result.2 (s.acceptance (.admitRequest request now)).toList.length
      (s.retention (.admitRequest request now)).toList.length appended dropped := by
  subst hresult
  refine ⟨[], 0, ?_⟩
  rw [acceptance_eq_none houtcome, retention_eq_none]
  · exact .of_streams_eq hframe htotal hstreams
  · intro record hrecord
    rw [streamAt, findStream, hstreams] at hrecord
    exact .inl hrecord

/-- Whatever the evictions of an admission took out, they reported. The incoming record was not there before. -/
theorem reported_rollback (hfresh : ∀ record ∈ (t.streamAt request.key).records, record.id ≠ (t.evidenceOf request).id)
    (hreported : Reported (t.insertAdmitted (t.evidenceOf request) now) u entries) :
    Reported t (u.rollbackAdmission request.key (t.evidenceOf request).id) entries := by
  intro key record hlost
  refine hreported key record ⟨mem_insertInStream.mpr (.inl hlost.before), ?_⟩
  intro other hother hsame
  refine hlost.after other ?_ hsame
  by_cases hkey : key = request.key
  · subst hkey
    rw [streamAt_rollbackAdmission]
    refine Stream.mem_without_of_id_ne hother ?_
    have hid : other.id = record.id := congrArg CapabilityEvidence.id hsame
    rw [hid]
    exact hfresh record hlost.before
  · rw [streamAt_rollbackAdmission_of_ne _ _ hkey]
    exact hother

theorem reported_accepted (hreported : Reported (t.insertAdmitted (t.evidenceOf request) now) u entries) :
    Reported t u.countAccepted entries :=
  fun key record hlost => hreported key record ⟨mem_insertInStream.mpr (.inl hlost.before), hlost.after⟩

/-- A retained rejection adds one record. -/
theorem balanced_retained (t : Registry) (key : EvidenceKey) (record : StoredEvidence)
    (maxGeneration : RecordGeneration) : Balanced t (t.insertInStream key record maxGeneration) 0 1 [] 0 where
  appends := .of_eq rfl rfl rfl
  reported := by
    apply Reported.of_kept
    intro other old hold
    exact mem_insertInStream.mpr (.inl hold)
  records := rfl
  accepted := (UInt64.add_zero _).symm

section

variable (hcounted : t.Counted) (hpositive : 1 ≤ t.policy.limits.maxEvictionLedger.toNat)
  (hevicts : t.Displaces request now u ids)
include hcounted hpositive hevicts

/-- An admission that is rolled back adds nothing and leaves what it evicted in the ledger. -/
theorem balanced_rollback
    (hfresh : ∀ record ∈ (t.streamAt request.key).records, record.id ≠ (t.evidenceOf request).id) : ∃ appended dropped,
      Balanced t (u.rollbackAdmission request.key (t.evidenceOf request).id) 0 0 appended dropped := by
  obtain ⟨appended, dropped, happends, hreported, hlength⟩ := Evicts.appends hevicts hpositive
  have htotal := (hcounted.insertInStream _ _ _).totalRecords_evicts hevicts
  have hback := rollback_totalRecords hevicts
  refine ⟨appended, dropped, { happends with }, reported_rollback hfresh hreported, ?_, ?_⟩
  · -- the incoming record is still there when it is taken back
    have hone := ((hcounted.insertInStream _ _ _).evicts hevicts).totalRecords_pos (mem_pending hevicts)
    have hplus : (t.insertAdmitted (t.evidenceOf request) now).totalRecords = t.totalRecords + 1 := rfl
    rw [insertAdmitted] at hplus
    omega
  · obtain ⟨_, _, _, _, _, rfl⟩ := hevicts.frame
    exact (UInt64.add_zero _).symm

/-- An accepted admission adds one record, and reports what had to go for it. -/
theorem balanced_accepted : ∃ appended dropped, Balanced t u.countAccepted 1 0 appended dropped := by
  obtain ⟨appended, dropped, happends, hreported, hlength⟩ := Evicts.appends hevicts hpositive
  have htotal := (hcounted.insertInStream _ _ _).totalRecords_evicts hevicts
  refine ⟨appended, dropped, { happends with }, reported_accepted hreported, ?_, ?_⟩
  · rw [hlength]
    exact htotal
  · obtain ⟨_, _, _, _, _, rfl⟩ := hevicts.frame
    rfl

end

theorem rejectedOutcome_not_accepted (s : Registry) (evidence : CapabilityEvidence) :
    Outcome.isAccepted (.success (s.rejectedOutcome evidence) .ok) = false := by
  rw [Outcome.isAccepted, rejectedOutcome, generationRejection]
  dsimp only
  split
  · rfl
  · rfl

theorem acceptedOutcome_accepted (s settled : Registry) (evidence : CapabilityEvidence) (now : Tick)
    (evicted : List EvidenceId) :
    Outcome.isAccepted (.success (s.acceptedOutcome settled evidence now evicted) .ok) = true := by
  rw [Outcome.isAccepted, acceptedOutcome, acceptanceReason]
  dsimp only
  split
  · rfl
  · rfl

/-- Every admission balances. -/
theorem balanced_admitRequest (hcounted : s.Counted) (hpositive : 1 ≤ s.policy.limits.maxEvictionLedger.toNat)
    (request : AdmissionRequest) (now : Tick) : ∃ appended dropped, Balanced s (s.admitRequest request now).2
      (s.acceptance (.admitRequest request now)).toList.length
      (s.retention (.admitRequest request now)).toList.length appended dropped := by
  have hregistered : ∀ t, s.registerIncarnation request.device = .ok t →
      EvidenceFrame s t ∧ LedgerFrame s t ∧ t.Counted ∧ 1 ≤ t.policy.limits.maxEvictionLedger.toNat := by
    intro t ht
    have hframe := registerIncarnation_evidence ht
    refine ⟨hframe, .registered ht, hcounted.of_frame hframe, ?_⟩
    obtain ⟨_, _, rfl⟩ := registerIncarnation_frame ht
    exact hpositive
  generalize hresult : s.admitRequest request now = result
  cases s.admitRequest_view hresult with
  | @fenced t _ _ hreg _ =>
    obtain ⟨hframe, hledger, _, _⟩ := hregistered t hreg
    exact balanced_unchanged hresult (hledger.trans ⟨rfl, rfl, rfl, rfl⟩) hframe.totalRecords hframe.streams rfl
  | @duplicate t ht _ =>
    obtain ⟨hframe, hledger, _, _⟩ := hregistered t ht.registered
    exact balanced_unchanged hresult (hledger.trans ⟨rfl, rfl, rfl, rfl⟩) hframe.totalRecords hframe.streams rfl
  | @rejected t ht _ _ _ =>
    obtain ⟨hframe, hledger, _, _⟩ := hregistered t ht.registered
    exact balanced_unchanged hresult (hledger.trans ⟨rfl, rfl, rfl, rfl⟩) hframe.totalRecords hframe.streams
      (rejectedOutcome_not_accepted t (t.evidenceOf request))
  | @retained t ht hfresh _ _ =>
    obtain ⟨hframe, hledger, _, _⟩ := hregistered t ht.registered
    obtain ⟨record, hstored, hrejected, hid⟩ := t.countRejected.retainRejected_stores (t.evidenceOf request) now
    have hnew : record ∉ (s.streamAt request.key).records := by
      rw [← hframe.streamAt]
      exact fun hmem => fresh_of_not_duplicate hfresh _ hmem hid
    refine ⟨[], 0, ?_⟩
    rw [acceptance_eq_none (by rw [hresult]; exact rejectedOutcome_not_accepted t (t.evidenceOf request)),
      length_retention (by rw [hresult]; exact hstored) hrejected hnew]
    exact (balanced_retained t.countRejected request.key _ _).framed
      (hframe.trans ⟨rfl, rfl, rfl, rfl, rfl, rfl⟩) (hledger.trans ⟨rfl, rfl, rfl, rfl⟩)
      (refreshConflict_evidence _ _ _ _) (.refreshConflict _ _ _ _)
  | @exhausted t u ids ht hnew hbudget =>
    obtain ⟨hframe, hledger, hcounted', hpositive'⟩ := hregistered t ht.registered
    have hevicts := evicts_of_budget hbudget
    have hfresh := fresh_of_not_duplicate hnew.fresh
    obtain ⟨appended, dropped, hbalanced⟩ := balanced_rollback hcounted' hpositive' hevicts hfresh
    refine ⟨appended, dropped, ?_⟩
    rw [acceptance_eq_none (by rw [hresult]; rfl), retention_eq_none]
    · exact hbalanced.framed hframe hledger ⟨rfl, rfl, rfl, rfl, rfl, rfl⟩ ⟨rfl, rfl, rfl, rfl⟩
    · rw [hresult]
      intro record hrecord
      have hold := (rollback_sublist hfresh hevicts request.key).subset hrecord
      exact .inl (hframe.streamAt request.key ▸ hold)
  | @accepted t u ids ht hnew hbudget =>
    obtain ⟨hframe, hledger, hcounted', hpositive'⟩ := hregistered t ht.registered
    have hevicts := evicts_of_budget hbudget
    have hsettled := refreshConflict_evidence u.countAccepted request.device request.kind now
    obtain ⟨appended, dropped, hbalanced⟩ := balanced_accepted hcounted' hpositive' hevicts
    have haccepted : s.acceptance (.admitRequest request now) = some (request.key, request.generation) := by
      rw [acceptance, hresult]
      exact if_pos (acceptedOutcome_accepted _ _ _ _ _)
    refine ⟨appended, dropped, ?_⟩
    rw [haccepted, retention_eq_none]
    · exact hbalanced.framed hframe hledger hsettled (.refreshConflict _ _ _ _)
    · rw [hresult]
      intro record hrecord
      have hkept : record ∈ (u.streamAt request.key).records := hsettled.streamAt request.key ▸ hrecord
      have hmem := (hevicts.streamAt_sublist request.key).subset hkept
      rcases mem_insertInStream.mp hmem with hold | ⟨-, rfl⟩
      · exact .inl (hframe.streamAt request.key ▸ hold)
      · refine .inr ?_
        rintro ⟨⟩
  | _ => exact balanced_unchanged hresult ⟨rfl, rfl, rfl, rfl⟩ rfl rfl rfl

section

variable (s) (request : RetirementRequest) (now : Tick)

/-- Retirement keeps the evidence of every stream. -/
theorem evidence_streamAt_retire (key : EvidenceKey) :
    ((s.retire request now).2.streamAt key).records.map StoredEvidence.evidence =
      (s.streamAt key).records.map StoredEvidence.evidence := by
  rcases s.streamAt_retire request now key with hsame | ⟨_, hmarked⟩
  · rw [hsame]
  · rw [hmarked, map_map]
    exact map_congr_left fun record _ => record.retiredUpTo_evidence _ _ _

theorem reported_retire : Reported s (s.retire request now).2 [] := by
  intro key record hlost
  have hevidence : record.evidence ∈ ((s.retire request now).2.streamAt key).records.map StoredEvidence.evidence := by
    rw [evidence_streamAt_retire]
    exact mem_map_of_mem hlost.before
  obtain ⟨other, hother, hsame⟩ := mem_map.mp hevidence
  exact absurd hsame (hlost.after other hother)

end

/-- Every operation but adoption balances. -/
theorem balanced_step (hcounted : s.Counted) (hpositive : 1 ≤ s.policy.limits.maxEvictionLedger.toNat)
    (hadopt : op.Ordinary) :
    ∃ appended dropped, Balanced s (s.step op) (s.acceptance op).toList.length (s.retention op).toList.length
      appended dropped := by
  rcases op.made_or .admitRequest with ⟨request, now, rfl⟩ | hadmitted
  · exact balanced_admitRequest hcounted hpositive request now
  · have hledger := LedgerFrame.step s hadmitted hadopt
    have hnone : s.acceptance op = none ∧ s.retention op = none := by
      cases op with
      | admitRequest request now => exact absurd rfl (hadmitted request now)
      | _ => exact ⟨rfl, rfl⟩
    rw [hnone.1, hnone.2]
    rcases s.step_cases hadopt with ⟨request, now, hop, _⟩ | ⟨request, now, _, hstep⟩ | hframe
    · exact absurd hop (hadmitted request now)
    · rw [hstep] at hledger ⊢
      exact ⟨[], 0, .of_frame hledger (s.totalRecords_retire request now) (s.reported_retire request now)⟩
    · exact ⟨[], 0, .of_streams_eq hledger hframe.totalRecords hframe.streams⟩

/-! ### Runs -/

theorem Counted.admitRequest (h : s.Counted) (request : AdmissionRequest) (now : Tick) :
    (s.admitRequest request now).2.Counted := by
  have hregistered : ∀ t, s.registerIncarnation request.device = .ok t → t.Counted :=
    fun t ht => h.of_frame (registerIncarnation_evidence ht)
  generalize hop : s.admitRequest request now = result
  cases s.admitRequest_view hop with
  | @fenced t _ _ hreg _ => exact (hregistered t hreg).of_streams_eq rfl rfl
  | @duplicate t ht _ | @rejected t ht _ _ _ => exact (hregistered t ht.registered).of_streams_eq rfl rfl
  | @retained t ht _ _ _ =>
    have hcounted : t.countRejected.Counted := (hregistered t ht.registered).of_streams_eq rfl rfl
    exact (hcounted.insertInStream _ _ _).of_frame (refreshConflict_evidence _ _ _ _)
  | @exhausted t u ids ht _ hbudget =>
    have hevicts := evicts_of_budget hbudget
    have hcounted := ((hregistered t ht.registered).insertInStream _ _ _).evicts hevicts
    exact (hcounted.rollback (mem_pending hevicts)).of_streams_eq rfl rfl
  | @accepted t u ids ht _ hbudget =>
    have hcounted := ((hregistered t ht.registered).insertInStream _ _ _).evicts (evicts_of_budget hbudget)
    have haccepted : u.countAccepted.Counted := hcounted.of_streams_eq rfl rfl
    exact haccepted.of_frame (refreshConflict_evidence _ _ _ _)
  | _ => exact h.of_streams_eq rfl rfl

theorem Counted.retire (h : s.Counted) (request : RetirementRequest) (now : Tick) :
    (s.retire request now).2.Counted := by
  rcases s.streams_retire request now with hsame | ⟨-, hstreams⟩
  · exact h.of_streams_eq hsame (totalRecords_retire ..)
  · exact (h.retireStream _).of_streams_eq hstreams (totalRecords_retire ..)

theorem Counted.step (h : s.Counted) (hadopt : op.Ordinary) : (s.step op).Counted := by
  rcases s.step_cases hadopt with ⟨request, now, _, hstep⟩ | ⟨request, now, _, hstep⟩ | hframe
  · rw [hstep]
    exact h.admitRequest request now
  · rw [hstep]
    exact h.retire request now
  · exact h.of_frame hframe

end Registry

/-- An operation other than adoption that leaves the ledger room for an entry. -/
def Op.KeepsLedger : Op → Prop
  | .setLimits limits => 1 ≤ limits.maxEvictionLedger.toNat
  | .adoptState _ _ => False
  | _ => True

namespace Registry

variable {s : Registry}

theorem ne_adoptState_of_keepsLedger (hop : op.KeepsLedger) : op.Ordinary := by
  rintro state now rfl
  exact hop

theorem ledger_positive_step (hop : op.KeepsLedger) (hpositive : 1 ≤ s.policy.limits.maxEvictionLedger.toNat) :
    1 ≤ (s.step op).policy.limits.maxEvictionLedger.toNat := by
  by_cases hset : ∃ limits, op = .setLimits limits
  · obtain ⟨limits, rfl⟩ := hset
    exact hop
  · have hkeeps : op.KeepsLimits s.policy.limits := by
      cases op with
      | setLimits limits => exact absurd ⟨limits, rfl⟩ hset
      | adoptState state now => exact hop.elim
      | _ => trivial
    rw [step_limits hkeeps]
    exact hpositive

/-- The accounts of a run: what was evicted is in the ledger or was dropped from it, and what was stored is still
    there or was evicted. -/
theorem run_accounts (ops : List Op) (s : Registry) (hcounted : s.Counted)
    (hpositive : 1 ≤ s.policy.limits.maxEvictionLedger.toNat)
    (hledger : UInt64.ofNat s.evictionTable.length + s.counters.evictionLedgerDropped = s.counters.evictionsTotal)
    (hops : ∀ op ∈ ops, op.KeepsLedger) : (s.run ops).Counted ∧ 1 ≤ (s.run ops).policy.limits.maxEvictionLedger.toNat ∧
      UInt64.ofNat (s.run ops).evictionTable.length + (s.run ops).counters.evictionLedgerDropped =
        (s.run ops).counters.evictionsTotal ∧
      ∃ evicted, (s.run ops).counters.evictionsTotal = s.counters.evictionsTotal + UInt64.ofNat evicted ∧
        (s.run ops).totalRecords + evicted = s.totalRecords + (Runs.events step acceptance s ops).length +
          (Runs.events step retention s ops).length ∧
        (s.run ops).counters.admissionsAccepted = s.counters.admissionsAccepted +
          UInt64.ofNat (Runs.events step acceptance s ops).length := by
  induction ops generalizing s with
  | nil => exact ⟨hcounted, hpositive, hledger, 0, (UInt64.add_zero _).symm, rfl, (UInt64.add_zero _).symm⟩
  | cons op ops ih =>
    have hop := hops op mem_cons_self
    have hadopt := ne_adoptState_of_keepsLedger hop
    obtain ⟨appended, dropped, hbalanced⟩ := balanced_step hcounted hpositive hadopt
    obtain ⟨hcounted', hpositive', hledger', evicted, htotal, hrecords, haccepted⟩ :=
      ih (s.step op) (hcounted.step hadopt) (ledger_positive_step hop hpositive) (hbalanced.appends.balance hledger)
        (fun other hother => hops other (mem_cons_of_mem op hother))
    refine ⟨hcounted', hpositive', hledger', appended.length + evicted, ?_, ?_, ?_⟩
    · rw [UInt64.ofNat_add, ← UInt64.add_assoc, ← hbalanced.appends.total]
      exact htotal
    · have hfirst := hbalanced.records
      rw [Runs.events, Runs.events, length_append, length_append]
      have hrun : (s.run (op :: ops)).totalRecords = ((s.step op).run ops).totalRecords := rfl
      omega
    · rw [Runs.events, length_append, UInt64.ofNat_add, ← UInt64.add_assoc, ← hbalanced.accepted]
      exact haccepted

end Registry

/-- From an empty registry, whatever operations but adoption it went through, with a ledger that has room for an
    entry: the ledger and what was dropped from it make up the evictions; the records accepted and the rejected
    ones retained make up what is stored and what was evicted; and every record the next operation takes out is
    among the entries that operation appends. -/
theorem records_accounted (policy : RegistryPolicy) (hpositive : 1 ≤ policy.limits.maxEvictionLedger.toNat)
    (ops : List Op) (hops : ∀ op ∈ ops, op.KeepsLedger) :
    UInt64.ofNat ((init policy).run ops).evictionTable.length +
        ((init policy).run ops).counters.evictionLedgerDropped =
      ((init policy).run ops).counters.evictionsTotal ∧
    ((init policy).run ops).counters.admissionsAccepted =
      UInt64.ofNat (Runs.events step acceptance (init policy) ops).length ∧
    UInt64.ofNat (Runs.events step acceptance (init policy) ops).length +
        UInt64.ofNat (Runs.events step retention (init policy) ops).length =
      UInt64.ofNat ((init policy).run ops).totalRecords +
        ((init policy).run ops).counters.evictionsTotal ∧
    ∀ op : Op, op.KeepsLedger → ∃ appended dropped,
      Appends ((init policy).run ops) (((init policy).run ops).step op) appended dropped ∧
      ∀ key record, Registry.Lost ((init policy).run ops) (((init policy).run ops).step op)
        key record → ∃ entry ∈ appended, entry.Reports key record := by
  obtain ⟨hcounted, hroom, hledger, evicted, htotal, hrecords, haccepted⟩ :=
    run_accounts ops (init policy) rfl hpositive rfl hops
  refine ⟨hledger, haccepted.trans (UInt64.zero_add _), ?_, ?_⟩
  · have hzero : (init policy).counters.evictionsTotal = 0 := rfl
    have hempty : (init policy).totalRecords = 0 := rfl
    rw [hempty, Nat.zero_add] at hrecords
    rw [htotal, hzero, UInt64.zero_add, ← UInt64.ofNat_add, ← UInt64.ofNat_add, hrecords]
  · intro op hop
    obtain ⟨appended, dropped, hbalanced⟩ :=
      balanced_step hcounted hroom (ne_adoptState_of_keepsLedger hop)
    exact ⟨appended, dropped, hbalanced.appends, hbalanced.reported⟩

namespace Lab

/-- Room for one record in each stream. -/
def oneRecord : RegistryPolicy := { policy with limits := { policy.limits with maxRecordsPerStream := 1 } }

/-- Two reports of one stream, the second newer. -/
def twoReports : List Op := [.admitRequest (Lab.request 0 1 5) 5, .admitRequest (Lab.request 0 2 6) 6]

end Lab

/-- The second report evicts the first, and both are accounted for. -/
theorem records_accounted_one_eviction :
    ((init Lab.oneRecord).run Lab.twoReports).counters.evictionsTotal = 1 ∧
    UInt64.ofNat (Runs.events step acceptance (init Lab.oneRecord) Lab.twoReports).length +
        UInt64.ofNat
          (Runs.events step retention (init Lab.oneRecord) Lab.twoReports).length =
      UInt64.ofNat ((init Lab.oneRecord).run Lab.twoReports).totalRecords +
        ((init Lab.oneRecord).run Lab.twoReports).counters.evictionsTotal := by
  refine ⟨by decide +kernel, (records_accounted Lab.oneRecord (by decide) Lab.twoReports ?_).2.2.1⟩
  intro op hop
  rcases mem_cons.mp hop with rfl | hop
  · trivial
  · rw [mem_singleton.mp hop]
    trivial

end Ocreg
