/-
Module: Ocreg.Proofs.Adoption
Purpose: What a registry makes of a state it is restored from: the flat lists go into maps and sorted streams and come
  out again as they were exactly when they are in the order in which a snapshot lists them.
-/
import Ocreg.Proofs.StateCodec
import Ocreg.Store.Layout

namespace Ocreg

open List Registry SortedMap StoredEvidence Scan

/-! ### Records -/

/-- The order of records in a snapshot: by stream, then by generation and id. -/
def StoredEvidence.Listed (a b : StoredEvidence) : Prop :=
  a.evidence.key < b.evidence.key ∨ a.evidence.key = b.evidence.key ∧ a.rank ≤ b.rank

theorem StoredEvidence.Listed.key_le {a b : StoredEvidence} (h : a.Listed b) : a.evidence.key ≤ b.evidence.key := by
  rcases h with hlt | ⟨heq, -⟩
  · exact le_of_lt hlt
  · exact le_of_eq heq

theorem not_generationLess_iff (a b : StoredEvidence) : (!generationLess b a) = true ↔ a.rank ≤ b.rank := by
  rw [Bool.not_eq_true', ← Bool.not_eq_true, generationLess_iff, not_lt]

theorem Stream.sorted_ascends (stream : Stream) : stream.sorted.records.Pairwise (fun a b => a.rank ≤ b.rank) := by
  have htotal : ∀ a b : StoredEvidence, (!generationLess b a) = true ∨ (!generationLess a b) = true := by
    intro a b
    rw [not_generationLess_iff, not_generationLess_iff]
    exact le_total a.rank b.rank
  have htrans : ∀ a b c : StoredEvidence, (!generationLess b a) = true → (!generationLess c b) = true →
      (!generationLess c a) = true := by
    intro a b c
    rw [not_generationLess_iff, not_generationLess_iff, not_generationLess_iff]
    exact le_trans
  have hsorted := @pairwise_insertionSort _ (fun a b : StoredEvidence => (!generationLess b a) = true) _
    ⟨htotal⟩ ⟨htrans⟩ stream.records
  exact hsorted.imp fun {a b} hab => (not_generationLess_iff a b).mp hab

theorem Stream.sorted_of_ascends {stream : Stream} (h : stream.records.Pairwise (fun a b => a.rank ≤ b.rank)) :
    stream.sorted = stream := by
  have hsorted : stream.records.insertionSort (fun a b => !generationLess b a) = stream.records := by
    apply Pairwise.insertionSort_eq
    exact h.imp fun {a b} hab => (not_generationLess_iff a b).mpr hab
  rw [Stream.sorted, hsorted]

theorem keyed_adopt (state : RegistryState) : (adopt state).AllStreams Stream.Keyed := by
  intro key stream hfind record hrecord
  exact ((mem_restored hfind).mp hrecord).2

/-- Records of a registry whose streams ascend come out in snapshot order. -/
theorem Registry.flattenRecords_listed {s : Registry} (hkeyed : s.AllStreams Stream.Keyed)
    (hascends : s.AllStreams (fun _ stream => stream.records.Pairwise (fun a b => a.rank ≤ b.rank))) :
    s.flattenRecords.Pairwise StoredEvidence.Listed := by
  have hfind : ∀ entry ∈ s.streams.entries, s.streams.find? entry.1 = some entry.2 :=
    fun entry hentry => mem_entries_iff.mp hentry
  rw [flattenRecords, values, flatMap_map, pairwise_flatMap]
  constructor
  · intro entry hentry
    refine (hascends entry.1 entry.2 (hfind entry hentry)).imp_of_mem ?_
    intro a b ha hb hab
    have hkey := hkeyed entry.1 entry.2 (hfind entry hentry)
    exact .inr ⟨(hkey a ha).trans (hkey b hb).symm, hab⟩
  · refine s.streams.ordered.imp_of_mem ?_
    intro first second hfirst hsecond hlt a ha b hb
    have hkeya := hkeyed first.1 first.2 (hfind first hfirst) a ha
    have hkeyb := hkeyed second.1 second.2 (hfind second hsecond) b hb
    rw [StoredEvidence.Listed, hkeya, hkeyb]
    exact .inl hlt

theorem ascends_adopt (state : RegistryState) :
    (adopt state).AllStreams (fun _ stream => stream.records.Pairwise (fun a b => a.rank ≤ b.rank)) := by
  intro key stream hfind
  have hrestored : (restoreStreams state.records).find? key = some stream := hfind
  rw [restoreStreams_find] at hrestored
  split at hrestored
  · cases hrestored
  · cases hrestored
    exact Stream.sorted_ascends _

/-- Records come out of a restored registry as they went in exactly when they were in snapshot order. -/
theorem flattenRecords_adopt_iff (state : RegistryState) :
    (adopt state).flattenRecords = state.records ↔ state.records.Pairwise StoredEvidence.Listed := by
  have hlisted := flattenRecords_listed (keyed_adopt state) (ascends_adopt state)
  constructor
  · intro hsame
    rwa [hsame] at hlisted
  · intro hrecords
    refine eq_of_filter_eq (hlisted.imp StoredEvidence.Listed.key_le) (hrecords.imp StoredEvidence.Listed.key_le) ?_
    intro key
    -- under one key both sides are the stream, which sorting leaves alone
    have hunder : (recordsUnder key state.records).Pairwise (fun a b => a.rank ≤ b.rank) := by
      refine (hrecords.filter _).imp_of_mem ?_
      intro a b ha hb hab
      rcases hab with hlt | ⟨-, hrank⟩
      · have hkeya : a.evidence.key = key := by simpa using (mem_filter.mp ha).2
        have hkeyb : b.evidence.key = key := by simpa using (mem_filter.mp hb).2
        rw [hkeya, hkeyb] at hlt
        exact absurd hlt (lt_irrefl key)
      · exact hrank
    refine (flattenRecords_filter (keyed_adopt state) key).trans ?_
    have hfind : (adopt state).streams.find? key = _ := restoreStreams_find state.records key
    rw [streamAt, findStream, hfind]
    split
    next hnone => exact hnone.symm
    next => exact congrArg Stream.records (Stream.sorted_of_ascends hunder)

/-! ### States -/

/-- The lists of the state are in the order in which a snapshot has them, one entry for each device and each
    tombstone. -/
structure RegistryState.Canonical (state : RegistryState) : Prop where
  sources : state.policy.sources.Pairwise (fun a b => a.id ≤ b.id)
  nextIncarnation : state.nextIncarnation ≠ 0
  incarnations : state.incarnations.Pairwise (fun a b => a.device < b.device)
  records : state.records.Pairwise StoredEvidence.Listed
  tombstones : state.tombstones.Pairwise (fun a b => a.key < b.key)
  conflicts : state.conflicts.Pairwise (fun a b => a.id ≤ b.id)
  resolutions : state.resolutions.Pairwise (fun a b => a.id ≤ b.id)

/-- A canonical state comes out as it went in. -/
theorem RegistryState.Canonical.toState_restore {state : RegistryState} (h : state.Canonical) :
    (restore state.policy state).toState = { state with ruleGeneration := state.policy.ruleGeneration } := by
  have hpolicy : sortSources state.policy.sources = state.policy.sources :=
    (insertionSort_eq_iff SourcePolicy.id _).mpr h.sources
  have hflat : (restore state.policy state).flattenRecords = state.records :=
    (flattenRecords_adopt_iff state).mpr h.records
  rw [toState, hflat, restore, adopt, flattenTombstones]
  dsimp only
  rw [hpolicy, if_neg h.nextIncarnation, (values_foldl_insert_iff _ _).mpr h.incarnations,
    (values_foldl_insert_iff _ _).mpr h.tombstones, (insertionSort_eq_iff _ _).mpr h.conflicts,
    (insertionSort_eq_iff _ _).mpr h.resolutions]

namespace Lab

/-- The tombstone of a stream at a generation. -/
def tombstone (generation : RecordGeneration) : RetirementRecord where
  key := (request 0 1 5).key
  generation
  retiredAt := 9
  reason := .ok
  epoch := 1
  policyRevision := 1
  authority := .synthetic

end Lab

end Ocreg
