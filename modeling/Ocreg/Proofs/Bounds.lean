/-
Module: Ocreg.Proofs.Bounds
Purpose: The bounds of a registry over whole runs. Tables that evict, rotate or refuse stay within their limits
  as long as the limits stay.
-/
import Ocreg.Proofs.Representation

namespace Ocreg

open List Registry SortedMap

variable {limit : Nat} {record : StoredEvidence} {key : EvidenceKey} {incoming : EvidenceId} {order : List DecisionId}
  {op : Op} {α : Type} {limits : RegistryLimits} {decisions : SortedMap DecisionId CompatibilityDecision}

/-! ### Tables -/

@[simp] theorem length_replaceFirst (test : α → Bool) (value : α) (as : List α) :
    (replaceFirst test value as).length = as.length := by
  induction as with
  | nil => rfl
  | cons b as ih =>
    rw [replaceFirst]
    split
    · rfl
    · rw [length_cons, ih, length_cons]

/-- A table that drops its first entry when full takes one more. -/
theorem length_rotated {as : List α} (a : α) (hpositive : 1 ≤ limit) (hle : as.length ≤ limit) :
    ((if as.length ≥ limit then as.drop 1 else as) ++ [a]).length ≤ limit := by
  rw [length_append, length_singleton]
  split
  · rw [length_drop]
    omega
  next hfree => exact not_le.mp hfree

/-- The bounds whose tables always take the newest entry leave room for it. -/
structure RegistryLimits.Positive (limits : RegistryLimits) : Prop where
  incarnations : 1 ≤ limits.maxIncarnationsPerDevice.toNat
  resolutions : 1 ≤ limits.maxResolutions.toNat
  ledger : 1 ≤ limits.maxEvictionLedger.toNat
  decisions : 1 ≤ limits.maxDecisions.toNat

namespace Registry

variable {s t u : Registry} {request : AdmissionRequest} {now : Tick} {ids : List EvidenceId}
  {table : SortedMap DeviceIdentity DeviceIncarnationEntry}

/-! ### The invariant -/

/-- The bounds on records: in all, and in each stream. -/
structure RecordsWithin (s : Registry) : Prop where
  total : s.totalRecords ≤ s.policy.limits.maxRecords.toNat
  stream : ∀ key, s.streamSize key ≤ s.policy.limits.maxRecordsPerStream.toNat

/-- The bounds on devices and their histories. -/
structure DevicesWithin (limits : RegistryLimits) (table : SortedMap DeviceIdentity DeviceIncarnationEntry) : Prop where
  devices : table.size ≤ limits.maxDevices.toNat
  histories : ∀ device entry, table.find? device = some entry →
    entry.history.length ≤ limits.maxIncarnationsPerDevice.toNat

/-- The order of retained decisions lists each of them once. -/
structure Ordered (decisions : SortedMap DecisionId CompatibilityDecision) (order : List DecisionId) : Prop where
  nodup : order.Nodup
  keys : ∀ id, id ∈ order ↔ (decisions.find? id).isSome

/-- Everything within its limits, with an exact count of the records and an exact order of the decisions. -/
structure Within (s : Registry) : Prop where
  counted : s.Counted
  records : s.RecordsWithin
  streams : s.streams.size ≤ s.policy.limits.maxStreams.toNat
  devices : DevicesWithin s.policy.limits s.incarnationTable
  conflicts : s.conflictTable.length ≤ s.policy.limits.maxConflictGroups.toNat
  resolutions : s.resolutionTable.length ≤ s.policy.limits.maxResolutions.toNat
  ledger : s.evictionTable.length ≤ s.policy.limits.maxEvictionLedger.toNat
  decisions : s.decisions.size ≤ s.policy.limits.maxDecisions.toNat
  order : Ordered s.decisions s.decisionOrder

/-! ### Records -/

section

variable (hevicts : t.Displaces request now u ids)
include hevicts

/-- The record of an advancing admission is in its stream until a rollback. -/
theorem mem_pending : storedOf (t.evidenceOf request) .admitted (acceptanceReason (t.streamAt request.key)) now ∈
      (u.streamAt request.key).records := by
  refine hevicts.mem_of_id_eq ?_ rfl
  rw [insertAdmitted, evidenceOf_key, streamAt_insertInStream]
  exact mem_insertRecord.mpr (.inl rfl)

/-- Evictions and a rollback take out at least the record that came in. -/
theorem rollback_totalRecords :
    (u.rollbackAdmission request.key (t.evidenceOf request).id).totalRecords = t.totalRecords - ids.length := by
  have htotal := hevicts.totalRecords
  have hany : (u.streamAt request.key).records.any (fun record => record.id == (t.evidenceOf request).id) = true :=
    any_eq_true.mpr ⟨_, mem_pending hevicts, beq_self_eq_true _⟩
  rw [insertAdmitted, insertInStream] at htotal
  rw [rollbackAdmission]
  dsimp only at htotal ⊢
  rw [if_pos hany]
  omega

end

/-- A rolled back admission leaves no more records than there were. -/
theorem RecordsWithin.rollback (h : t.RecordsWithin)
    (hfresh : ∀ record ∈ (t.streamAt request.key).records, record.id ≠ (t.evidenceOf request).id)
    (hevicts : t.Displaces request now u ids) :
    (u.rollbackAdmission request.key (t.evidenceOf request).id).RecordsWithin := by
  have hpolicy : (u.rollbackAdmission request.key (t.evidenceOf request).id).policy = t.policy := hevicts.policy
  constructor
  · rw [hpolicy, rollback_totalRecords hevicts]
    exact (Nat.sub_le _ _).trans h.total
  · intro key
    rw [hpolicy]
    exact (rollback_sublist hfresh hevicts key).length_le.trans (h.stream key)

/-- An accepted admission ends within the bounds. -/
theorem RecordsWithin.accepted (h : t.RecordsWithin)
    (hbudget : t.Budgeted request now true u ids) : u.RecordsWithin := by
  obtain ⟨ok, _, _, hspec, hevicts, hwithin, _⟩ := (t.insertAdmitted (t.evidenceOf request) now).enforceBudget_spec
    request.key (t.evidenceOf request).id now
  rw [hbudget] at hspec
  cases hspec
  obtain ⟨hrecords, hstream⟩ := hwithin rfl
  have hpolicy : u.policy = t.policy := hevicts.policy
  rw [recordsOver, decide_eq_false_iff_not, not_lt] at hrecords
  rw [streamOver, decide_eq_false_iff_not, not_lt] at hstream
  refine ⟨hrecords, ?_⟩
  intro key
  by_cases hkey : key = request.key
  · rw [hkey]
    exact hstream
  · have hsub := (hevicts.streamAt_sublist key).length_le
    rw [insertAdmitted, evidenceOf_key, streamAt_insertInStream_of_ne _ _ _ hkey] at hsub
    rw [hpolicy]
    exact hsub.trans (h.stream key)

/-- A retained rejection stays within the bounds it was checked against. -/
theorem RecordsWithin.retained {maxGeneration : RecordGeneration} (h : t.RecordsWithin)
    (hfree : t.retainsRejected key) : (t.insertInStream key record maxGeneration).RecordsWithin := by
  refine ⟨hfree.2, ?_⟩
  intro other
  by_cases hkey : other = key
  · subst hkey
    rw [streamSize, streamAt_insertInStream, length_insertRecord]
    exact hfree.1
  · rw [streamSize, streamAt_insertInStream_of_ne _ _ _ hkey]
    exact h.stream other

/-- Retiring records does not move them. -/
theorem RecordsWithin.retireStream (h : s.RecordsWithin) (tombstone : RetirementRecord) :
    (s.retireStream tombstone).RecordsWithin := by
  refine ⟨h.total, ?_⟩
  intro key
  have hle := h.stream key
  rw [streamSize, streamAt, findStream, Registry.retireStream]
  dsimp only
  rw [SortedMap.find?_insert]
  split
  next hkey =>
    rw [Option.getD_some, length_map, ← hkey]
    exact hle
  next => exact hle

/-! ### Streams and the ledger -/

/-- Evictions empty streams but keep them. -/
theorem size_streams_evicts (h : Evicts incoming now s t ids) : t.streams.size = s.streams.size := by
  induction h with
  | refl s => rfl
  | step _ happly _ ih =>
    obtain ⟨stream, _, hfind, _, _, hstreams, _⟩ := applyEviction_streams happly
    rw [ih, hstreams, size_insert, hfind]
    rfl

/-- The stream an admission goes to is there, or has a free place. -/
theorem size_streams_insertInStream (h : s.streams.size ≤ s.policy.limits.maxStreams.toNat)
    (hopen : s.streamRefusal request = none) (record : StoredEvidence) (maxGeneration : RecordGeneration) :
    (s.insertInStream request.key record maxGeneration).streams.size ≤ s.policy.limits.maxStreams.toNat := by
  rw [insertInStream, size_insert]
  split
  · exact h
  next hnew =>
    have hnone : s.findStream request.key = none := by
      rw [findStream]
      exact Option.not_isSome_iff_eq_none.mp hnew
    exact (streamRefusal_eq_none.mp hopen).1 hnone

theorem size_streams_rollback (hstored : record ∈ (s.streamAt key).records) (id : EvidenceId) :
    (s.rollbackAdmission key id).streams.size ≤ s.streams.size := by
  obtain ⟨stream, hfind, _⟩ := find_of_mem_streamAt hstored
  rw [rollbackAdmission]
  dsimp only
  split
  · have herased := size_erase_of_some hfind
    omega
  · rw [size_insert, hfind]
    exact le_refl _

/-- The ledger rotates within its bound. -/
theorem length_ledger_evicts (h : Evicts incoming now s t ids)
    (hpositive : 1 ≤ s.policy.limits.maxEvictionLedger.toNat)
    (hle : s.evictionTable.length ≤ s.policy.limits.maxEvictionLedger.toNat) :
    t.evictionTable.length ≤ s.policy.limits.maxEvictionLedger.toNat := by
  induction h with
  | refl s => exact hle
  | step _ happly _ ih =>
    obtain ⟨stream, record, _, _, rfl⟩ := applyEviction_eq_some happly
    exact ih hpositive (length_rotated _ hpositive hle)

/-! ### Conflicts -/

/-- The table grows by one group at most, and only below its bound. -/
theorem length_conflicts_refreshed (s : Registry) (device : DeviceIncarnationRef) (kind : CapabilityKind)
    (now : Tick) (h : s.conflictTable.length ≤ s.policy.limits.maxConflictGroups.toNat) :
    (s.refreshConflict device kind now).conflictTable.length ≤ s.policy.limits.maxConflictGroups.toNat := by
  rw [refreshConflict]
  generalize hop : s.refreshedConflicts device kind now = result
  cases s.refreshedConflicts_view hop with
  | settled _ => exact eraseP_sublist.length_le.trans h
  | replaced _ _ _ =>
    rw [length_replaceFirst]
    exact h
  | resorted _ _ =>
    rw [sortConflicts, length_insertionSort, length_replaceFirst]
    exact h
  | dropped _ _ _ => exact h
  | added _ _ hroom =>
    rw [sortConflicts, length_insertionSort, length_append, length_singleton]
    exact hroom

theorem length_conflicts_refreshedAll (s : Registry) (now : Tick) :
    (s.refreshAllConflicts now).conflictTable.length ≤ s.policy.limits.maxConflictGroups.toNat := by
  have hfold : ∀ (groups : List (DeviceIncarnationRef × CapabilityKind)) (t : Registry),
      t.conflictTable.length ≤ t.policy.limits.maxConflictGroups.toNat →
      (groups.foldl (fun s group => s.refreshConflict group.1 group.2 now) t).conflictTable.length ≤
        t.policy.limits.maxConflictGroups.toNat := by
    intro groups
    induction groups with
    | nil => exact fun t ht => ht
    | cons group groups ih =>
      intro t ht
      exact ih (t.refreshConflict group.1 group.2 now) (t.length_conflicts_refreshed group.1 group.2 now ht)
  exact hfold s.groupKeys { s with conflictTable := [] } (Nat.zero_le _)

/-! ### Moves -/

/-- The bounds look at these parts only. -/
theorem Within.congr (h : s.Within) (hlimits : t.policy.limits = s.policy.limits := by rfl)
    (hdevices : t.incarnationTable = s.incarnationTable := by rfl) (hstreams : t.streams = s.streams := by rfl)
    (htotal : t.totalRecords = s.totalRecords := by rfl) (hconflicts : t.conflictTable = s.conflictTable := by rfl)
    (hresolutions : t.resolutionTable = s.resolutionTable := by rfl)
    (hledger : t.evictionTable = s.evictionTable := by rfl) (hdecisions : t.decisions = s.decisions := by rfl)
    (horder : t.decisionOrder = s.decisionOrder := by rfl) : t.Within where
  counted := Counted.of_streams_eq h.counted hstreams htotal
  records := by
    refine ⟨?_, ?_⟩
    · rw [htotal, hlimits]
      exact h.records.total
    · intro key
      rw [streamSize, streamAt, findStream, hstreams, hlimits]
      exact h.records.stream key
  streams := by
    rw [hstreams, hlimits]
    exact h.streams
  devices := by
    rw [hdevices, hlimits]
    exact h.devices
  conflicts := by
    rw [hconflicts, hlimits]
    exact h.conflicts
  resolutions := by
    rw [hresolutions, hlimits]
    exact h.resolutions
  ledger := by
    rw [hledger, hlimits]
    exact h.ledger
  decisions := by
    rw [hdecisions, hlimits]
    exact h.decisions
  order := by
    rw [hdecisions, horder]
    exact h.order

theorem Within.refreshConflict (h : s.Within) (device : DeviceIncarnationRef) (kind : CapabilityKind) (now : Tick) :
    (s.refreshConflict device kind now).Within :=
  { h with
    conflicts := s.length_conflicts_refreshed device kind now h.conflicts
    records := { h.records with } }

theorem Within.refreshAllConflicts (h : s.Within) (now : Tick) : (s.refreshAllConflicts now).Within := by
  have hlength := s.length_conflicts_refreshedAll now
  obtain ⟨conflicts, dropped, hrefresh⟩ := s.refreshAllConflicts_frame now
  rw [hrefresh] at hlength ⊢
  exact { h with conflicts := hlength, records := { h.records with } }

/-! ### Devices -/

theorem DevicesWithin.enter {device : DeviceIdentity} {incarnation : IncarnationId}
    (h : DevicesWithin limits table) (hpositive : limits.Positive) (hbelow : table.size < limits.maxDevices.toNat) :
    DevicesWithin limits (table.insert device ⟨device, incarnation, [incarnation]⟩) where
  devices := by
    rw [size_insert]
    split
    · exact h.devices
    · exact hbelow
  histories := by
    intro other entry hentry
    rw [find?_insert] at hentry
    split at hentry
    · cases hentry
      exact hpositive.incarnations
    · exact h.histories other entry hentry

theorem DevicesWithin.update {device : DeviceIdentity} {old entry : DeviceIncarnationEntry}
    (h : DevicesWithin limits table) (hold : table.find? device = some old)
    (hentry : entry.history.length ≤ limits.maxIncarnationsPerDevice.toNat) :
    DevicesWithin limits (table.insert device entry) where
  devices := by
    rw [size_insert, hold]
    exact h.devices
  histories := by
    intro other found hfound
    rw [find?_insert] at hfound
    split at hfound
    · cases hfound
      exact hentry
    · exact h.histories other found hfound

theorem length_history_added {history : List IncarnationId} (incarnation : IncarnationId)
    (hbelow : ¬ history.length ≥ limit) : (sortIncarnations (history ++ [incarnation])).length ≤ limit := by
  rw [sortIncarnations, length_insertionSort, length_append, length_singleton]
  exact not_le.mp hbelow

theorem Within.registerIncarnation {device : DeviceIncarnationRef} (h : s.Within)
    (hpositive : s.policy.limits.Positive) (hregistered : s.registerIncarnation device = .ok t) : t.Within := by
  have hdevices : DevicesWithin s.policy.limits t.incarnationTable := by
    cases registerView_of_ok hregistered with
    | entered _ hroom => exact h.devices.enter hpositive hroom
    | known _ _ => exact h.devices
    | added hsome _ hroom => exact h.devices.update hsome (length_history_added _ (not_le.mpr hroom))
  obtain ⟨_, _, rfl⟩ := registerIncarnation_frame hregistered
  exact { h with devices := hdevices, records := { h.records with } }

theorem Within.setCurrent (h : s.Within) (device : DeviceIncarnationRef) : (s.setCurrent device).Within := by
  rw [Registry.setCurrent]
  split
  next entry hentry =>
    have hhistory := h.devices.histories _ _ hentry
    exact { h with
      devices := h.devices.update hentry hhistory
      records := { h.records with } }
  next => exact h

/-! ### Admissions and retirements -/

theorem Within.admitRequest (h : s.Within) (hpositive : s.policy.limits.Positive) (request : AdmissionRequest)
    (now : Tick) : (s.admitRequest request now).2.Within := by
  have hregistered : ∀ t, s.registerIncarnation request.device = .ok t → t.Within ∧ t.policy.limits.Positive := by
    intro t ht
    refine ⟨h.registerIncarnation hpositive ht, ?_⟩
    obtain ⟨_, _, rfl⟩ := registerIncarnation_frame ht
    exact hpositive
  -- the bounds that hold after the evictions, whether or not the record stays
  have hevicted : ∀ t u ids, Admissible s request now t → t.Displaces request now u ids →
      t.Within ∧ u.Counted ∧ u.streams.size ≤ t.policy.limits.maxStreams.toNat ∧
        u.evictionTable.length ≤ t.policy.limits.maxEvictionLedger.toNat := by
    intro t u ids ht hevicts
    obtain ⟨hwithin, hlimits⟩ := hregistered t ht.registered
    have hledger := length_ledger_evicts hevicts hlimits.ledger hwithin.ledger
    refine ⟨hwithin, (hwithin.counted.insertInStream _ _ _).evicts hevicts, ?_, hledger⟩
    rw [size_streams_evicts hevicts]
    exact size_streams_insertInStream hwithin.streams ht.unfenced _ _
  generalize hop : s.admitRequest request now = result
  cases s.admitRequest_view hop with
  | @fenced t _ _ hreg _ => exact (hregistered t hreg).1.congr
  | @duplicate t ht _ | @rejected t ht _ _ _ => exact (hregistered t ht.registered).1.congr
  | @retained t ht _ _ hfree =>
    have hcounted : t.countRejected.Within :=
      (hregistered t ht.registered).1.congr
    apply Within.refreshConflict
    exact { hcounted with
      counted := hcounted.counted.insertInStream _ _ _
      records := hcounted.records.retained hfree
      streams := size_streams_insertInStream hcounted.streams ht.unfenced _ _ }
  | @exhausted t u ids ht hnew hbudget =>
    have hevicts := evicts_of_budget hbudget
    obtain ⟨hwithin, hcounted, hstreams, hledger⟩ := hevicted t u ids ht hevicts
    have hpending := mem_pending hevicts
    have hback := hcounted.rollback hpending
    have hrecords := hwithin.records.rollback (fresh_of_not_duplicate hnew.fresh) hevicts
    have hfewer := (size_streams_rollback hpending (t.evidenceOf request).id).trans hstreams
    have hrolled : (u.rollbackAdmission request.key (t.evidenceOf request).id).Within := by
      obtain ⟨_, _, _, _, _, rfl⟩ := hevicts.frame
      exact { hwithin with counted := hback, records := hrecords, streams := hfewer, ledger := hledger }
    exact hrolled.congr
  | @accepted t u ids ht hnew hbudget =>
    have hevicts := evicts_of_budget hbudget
    obtain ⟨hwithin, hcounted, hstreams, hledger⟩ := hevicted t u ids ht hevicts
    have hrecords := hwithin.records.accepted hbudget
    have hkept : u.Within := by
      obtain ⟨_, _, _, _, _, rfl⟩ := hevicts.frame
      exact { hwithin with counted := hcounted, records := hrecords, streams := hstreams, ledger := hledger }
    have haccepted : u.countAccepted.Within := hkept.congr
    exact haccepted.refreshConflict _ _ _
  | _ => exact h.congr

theorem Within.retire (h : s.Within) (request : RetirementRequest) (now : Tick) : (s.retire request now).2.Within := by
  generalize hop : s.retire request now = result
  cases s.retire_view hop with
  | @retired stream _ _ hstream _ =>
    have hsame : (s.retireStream (s.tombstoneOf request now)).streams.size = s.streams.size := by
      have hfind : s.streams.find? (s.tombstoneOf request now).key = some stream := hstream
      rw [retireStream, size_insert, hfind]
      rfl
    have hretired : (s.retireStream (s.tombstoneOf request now)).Within :=
      { h with
        counted := h.counted.retireStream _
        records := h.records.retireStream _
        streams := hsame.trans_le h.streams }
    apply Within.refreshConflict
    obtain ⟨_, _, hpush⟩ := s.retired_frame request now
    rw [hpush]
    exact hretired.congr
  | _ => exact h.congr

/-! ### Resolutions and decisions -/

theorem Within.pushResolution (h : s.Within) (hpositive : s.policy.limits.Positive)
    (resolution : ConflictResolution) : (s.pushResolution resolution).Within := by
  rw [Registry.pushResolution]
  dsimp only
  split
  · refine { h with resolutions := ?_, records := { h.records with } }
    rw [length_replaceFirst]
    exact h.resolutions
  · refine { h with resolutions := ?_, records := { h.records with } }
    rw [length_insertionSort]
    exact length_rotated _ hpositive.resolutions h.resolutions

theorem Within.resolveConflict (h : s.Within) (hpositive : s.policy.limits.Positive) (conflict : ConflictId)
    (chosen : EvidenceId) (resolver : SourceId) (now : Tick) :
    (s.resolveConflict conflict chosen resolver now).2.Within := by
  generalize hop : s.resolveConflict conflict chosen resolver now = result
  cases s.resolveConflict_view hop with
  | refused _ => exact h
  | resolved _ => exact (h.pushResolution hpositive _).congr

/-- Taking the oldest decision out of the store and off the order. -/
theorem Ordered.drop {oldest : DecisionId}
    (h : Ordered decisions (oldest :: order)) : Ordered (decisions.erase oldest) order := by
  obtain ⟨hfirst, hrest⟩ := nodup_cons.mp h.nodup
  refine ⟨hrest, ?_⟩
  intro id
  rw [find?_erase]
  split
  next hid =>
    rw [hid]
    simp [hfirst]
  next hid =>
    rw [← h.keys id, mem_cons]
    simp [hid]

/-- A store without an order is empty. -/
theorem Ordered.size_eq_zero (h : Ordered decisions order) (hnil : order = []) : decisions.size = 0 := by
  subst hnil
  rw [size, length_eq_zero_iff, eq_nil_iff_forall_not_mem]
  intro entry hentry
  have hfind := mem_entries_iff.mp hentry
  have hlisted := (h.keys entry.1).mpr (by rw [hfind]; rfl)
  cases hlisted

/-- The loop that makes room for a decision ends below the bound: each round takes one decision out. -/
theorem dropDecisions_spec (fuel : Nat) (s : Registry) (horder : Ordered s.decisions s.decisionOrder)
    (hpositive : 1 ≤ s.policy.limits.maxDecisions.toNat) (hfuel : s.decisionOrder.length ≤ fuel) :
    ∃ decisions order evicted, s.dropDecisions fuel =
        { s with decisions, decisionOrder := order
                 counters := { s.counters with decisionsEvicted := evicted } } ∧
      Ordered decisions order ∧ decisions.size < s.policy.limits.maxDecisions.toNat ∧ order ⊆ s.decisionOrder := by
  induction fuel generalizing s with
  | zero =>
    rw [dropDecisions]
    have hnone := horder.size_eq_zero (length_eq_zero_iff.mp (Nat.le_zero.mp hfuel))
    exact ⟨s.decisions, s.decisionOrder, s.counters.decisionsEvicted, rfl, horder, hnone.trans_lt hpositive,
      Subset.refl _⟩
  | succ fuel ih =>
    rw [dropDecisions]
    split
    · split
      next hnil =>
        exact ⟨s.decisions, s.decisionOrder, s.counters.decisionsEvicted, rfl, horder,
          (horder.size_eq_zero hnil).trans_lt hpositive, Subset.refl _⟩
      next oldest order hcons =>
        rw [hcons] at horder hfuel
        obtain ⟨decisions, order', evicted, heq, hordered, hsize, hsubset⟩ :=
          ih { s with
               decisionOrder := order
               decisions := s.decisions.erase oldest
               counters := { s.counters with
                 decisionsEvicted := if (s.decisions.find? oldest).isSome then s.counters.decisionsEvicted + 1
                   else s.counters.decisionsEvicted } }
            horder.drop hpositive (Nat.le_of_succ_le_succ hfuel)
        refine ⟨decisions, order', evicted, heq, hordered, hsize, ?_⟩
        rw [hcons]
        exact subset_cons_of_subset oldest hsubset
    next hbelow =>
      exact ⟨s.decisions, s.decisionOrder, s.counters.decisionsEvicted, rfl, horder, not_le.mp hbelow, Subset.refl _⟩

theorem Ordered.push {decision : CompatibilityDecision} (h : Ordered decisions order) (hnew : decision.id ∉ order) :
    Ordered (decisions.insert decision.id decision) (order ++ [decision.id]) := by
  refine ⟨?_, ?_⟩
  · rw [nodup_append]
    refine ⟨h.nodup, nodup_singleton _, ?_⟩
    intro id hid other hother
    rw [mem_singleton.mp hother]
    exact fun hsame => hnew (hsame ▸ hid)
  · intro id
    rw [find?_insert, mem_append, mem_singleton, h.keys id]
    split
    next hid => simp [hid]
    next hid => simp [hid]

theorem Within.pushDecision (h : s.Within) (hpositive : s.policy.limits.Positive)
    (decision : CompatibilityDecision) : (s.pushDecision decision).Within := by
  rw [Registry.pushDecision]
  split
  next hknown =>
    refine { h with records := { h.records with }, decisions := ?_, order := ⟨h.order.nodup, ?_⟩ }
    · rw [size_insert, if_pos hknown]
      exact h.decisions
    · intro id
      rw [h.order.keys id, SortedMap.find?_insert]
      split
      next hid =>
        rw [hid]
        simp [hknown]
      next => exact Iff.rfl
  next hnew =>
    obtain ⟨decisions, order, evicted, heq, hordered, hsize, hsubset⟩ :=
      dropDecisions_spec s.decisionOrder.length s h.order hpositive.decisions (le_refl _)
    dsimp only
    rw [heq]
    have hunlisted : decision.id ∉ order := fun hlisted => hnew ((h.order.keys _).mp (hsubset hlisted))
    refine { h with
      records := { h.records with }, decisions := ?_, order := hordered.push hunlisted }
    rw [size_insert]
    split
    · exact hsize.le
    · exact hsize

/-! ### Steps -/

theorem Within.init (policy : RegistryPolicy) : (init policy).Within where
  counted := rfl
  records := ⟨Nat.zero_le _, fun _ => Nat.zero_le _⟩
  streams := Nat.zero_le _
  devices := ⟨Nat.zero_le _, fun _ _ hfind => nomatch hfind⟩
  conflicts := Nat.zero_le _
  resolutions := Nat.zero_le _
  ledger := Nat.zero_le _
  decisions := Nat.zero_le _
  order := ⟨nodup_nil, fun _ => ⟨nofun, nofun⟩⟩

/-- Other sources, and the conflicts that follow. -/
theorem Within.withSources (h : s.Within) (sources : List SourcePolicy) (now : Tick) :
    ((s.withSources sources).bumpPolicyRevision.refreshAllConflicts now).Within := by
  apply Within.refreshAllConflicts
  exact h.congr

theorem Within.updateSource (h : s.Within) (source : SourceId) (settled : SourcePolicy → Bool)
    (change : SourcePolicy → SourcePolicy) (now : Tick) : (s.updateSource source settled change now).2.Within := by
  generalize hop : s.updateSource source settled change now = result
  cases s.updateSource_view hop with
  | missing _ | kept _ _ => exact h
  | changed _ _ => exact h.withSources _ now

theorem Within.upsertSourcePolicy (h : s.Within) (policy : SourcePolicy) (now : Tick) :
    (s.upsertSourcePolicy policy now).2.Within := by
  generalize hop : s.upsertSourcePolicy policy now = result
  cases s.upsertSourcePolicy_view hop with
  | refused => exact h
  | _ => exact h.withSources _ now

section

variable (h : s.Within) (hpositive : s.policy.limits.Positive) (device : DeviceIdentity)
include h hpositive

theorem Within.beginDeviceIncarnation (now : Tick) : (s.beginDeviceIncarnation device now).2.Within := by
  generalize hop : s.beginDeviceIncarnation device now = result
  cases s.beginDeviceIncarnation_view hop with
  | entered _ hroom =>
    exact { h with
      devices := h.devices.enter hpositive hroom
      records := { h.records with } }
  | begun hsome hroom =>
    apply Within.refreshAllConflicts
    exact { h with
      devices := h.devices.update hsome (length_history_added _ (not_le.mpr hroom))
      records := { h.records with } }
  | _ => exact h

theorem Within.setDeviceIncarnation (incarnation : IncarnationId)
    (now : Tick) : (s.setDeviceIncarnation device incarnation now).2.Within := by
  generalize hop : s.setDeviceIncarnation device incarnation now = result
  cases s.setDeviceIncarnation_view hop with
  | refused => exact h
  | kept _ hregistered _ => exact h.registerIncarnation hpositive hregistered
  | changed _ hregistered _ =>
    apply Within.refreshAllConflicts
    have hcurrent := (h.registerIncarnation hpositive hregistered).setCurrent ⟨device, incarnation⟩
    exact hcurrent.congr

end

end Registry

/-- An operation other than adoption that sets no other limits than these. -/
def Op.KeepsLimits (limits : RegistryLimits) : Op → Prop
  | .setLimits other => other = limits
  | .adoptState _ _ => False
  | _ => True

namespace Registry

variable {s t u : Registry}

/-- An operation that keeps the limits keeps every bound. -/
theorem Within.step (h : s.Within) (hpositive : s.policy.limits.Positive) (hop : op.KeepsLimits s.policy.limits) :
    (s.step op).Within := by
  cases op with
  | admitRequest request now => exact h.admitRequest hpositive request now
  | retire request now => exact h.retire request now
  | beginDeviceIncarnation device now => exact h.beginDeviceIncarnation hpositive device now
  | setDeviceIncarnation device incarnation now => exact h.setDeviceIncarnation hpositive device incarnation now
  | revokeSource source now => exact h.updateSource source _ _ now
  | restoreSource source now | setSourceAuthority source authority now => exact h.updateSource source _ _ now
  | upsertSourcePolicy policy now => exact h.upsertSourcePolicy policy now
  | resolveConflict conflict chosen resolver now => exact h.resolveConflict hpositive conflict chosen resolver now
  | setRuleGeneration generation =>
    rw [step, setRuleGeneration]
    split
    · exact h
    · split
      · exact h
      · split
        · exact h
        · exact h.congr
  | advanceEpoch => exact h.congr
  | setLogicalTick now =>
    rw [step, setLogicalTick]
    split
    · exact h
    · exact h.congr
  | setLimits limits => exact h.congr hop
  | evaluate requirement now => exact (h.pushDecision hpositive _).congr
  | adoptState state now => exact hop.elim

/-! ### Limits -/

theorem step_limits (hop : op.KeepsLimits s.policy.limits) : (s.step op).policy.limits = s.policy.limits := by
  have hadopt : op.Ordinary := by
    rintro state now rfl
    exact hop
  have htouches := s.step_touches hadopt
  generalize s.step op = t at htouches
  cases htouches with
  | admitted hframe =>
    obtain ⟨_, _, _, _, _, _, _, rfl, _⟩ := hframe
    rfl
  | limited _ => exact hop
  | _ => rfl

end Registry

/-! ### Budget loops -/

namespace Registry

section

variable (s : Registry) (key : EvidenceKey) (id : EvidenceId) (now : Tick)

/-- Both loops of `enforce_budget` come to an end, one after the other, with the result it returns. -/
def BudgetEnds : Prop :=
  ∃ ok t evicted, BudgetRuns recordsOver none id now s [] (ok, t, evicted) ∧
    (ok = false ∧ s.enforceBudget key id now = (ok, t, evicted) ∨
      ok = true ∧ BudgetRuns (streamOver key) (some key) id now t evicted (s.enforceBudget key id now))

theorem budget_ends : s.BudgetEnds key id now := by
  have hfirst := s.recordsLoop_runs id now
  rw [BudgetEnds, enforceBudget]
  generalize budgetLoop recordsOver none id now (s.totalRecords + 1) s [] = result at hfirst
  obtain ⟨ok, t, evicted⟩ := result
  refine ⟨ok, t, evicted, hfirst, ?_⟩
  cases ok with
  | false => exact .inl ⟨rfl, rfl⟩
  | true => exact .inr ⟨rfl, t.streamLoop_runs key id now evicted⟩

end

end Registry

/-- Under limits that stay and leave room for one entry, every operation of a run ends with all tables within
    their limits and the retained decisions listed once each, and the budget loops of an admission end. -/
theorem bounds_hold (policy : RegistryPolicy) (hpositive : policy.limits.Positive) (ops : List Op)
    (hops : ∀ op ∈ ops, op.KeepsLimits policy.limits) :
    ((init policy).run ops).policy.limits = policy.limits ∧ ((init policy).run ops).Within ∧
      ∀ key id now, ((init policy).run ops).BudgetEnds key id now := by
  have hrun : ∀ (ops : List Op) (s : Registry), s.policy.limits = policy.limits → s.Within →
      (∀ op ∈ ops, op.KeepsLimits policy.limits) →
      (s.run ops).policy.limits = policy.limits ∧ (s.run ops).Within := by
    intro ops
    induction ops with
    | nil => exact fun s hlimits hwithin _ => ⟨hlimits, hwithin⟩
    | cons op ops ih =>
      intro s hlimits hwithin hkeeps
      have hop : op.KeepsLimits s.policy.limits := hlimits ▸ hkeeps op mem_cons_self
      refine ih (s.step op) ((step_limits hop).trans hlimits) ?_
        (fun other hother => hkeeps other (mem_cons_of_mem op hother))
      exact hwithin.step (hlimits ▸ hpositive) hop
  obtain ⟨hlimits, hwithin⟩ := hrun ops (init policy) rfl (Within.init policy) hops
  exact ⟨hlimits, hwithin, fun key id now => budget_ends _ key id now⟩

theorem bounds_hold_two_reports :
    ((init Lab.policy).run
      [.admitRequest (Lab.request 0 1 5) 5, .admitRequest (Lab.request 0 2 6) 6]).Within := by
  refine (bounds_hold Lab.policy ⟨by decide, by decide, by decide, by decide⟩ _ ?_).2.1
  intro op hop
  rcases mem_cons.mp hop with rfl | hop
  · trivial
  · rw [mem_singleton.mp hop]
    trivial

end Ocreg
