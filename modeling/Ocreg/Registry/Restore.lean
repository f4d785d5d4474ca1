/-
Module: Ocreg.Registry.Restore
Purpose: What restoring a durable state rebuilds: each stream from the records listed under its key; a
  snapshot restores to the streams it was taken of.
-/
import Ocreg.Registry.Ops

namespace Ocreg

open List SortedMap

variable {record : StoredEvidence} {stream : Stream} (records : List StoredEvidence) {key : EvidenceKey}

/-! ### Streams from a list of records -/

/-- The records listed under a key, in list order. -/
def recordsUnder (key : EvidenceKey) (records : List StoredEvidence) : List StoredEvidence :=
  records.filter (fun record => record.evidence.key == key)

theorem recordsUnder_cons_self (record : StoredEvidence) (records : List StoredEvidence) :
    recordsUnder record.evidence.key (record :: records) =
      record :: recordsUnder record.evidence.key records := by
  simp [recordsUnder]

theorem recordsUnder_cons_of_ne (h : record.evidence.key ≠ key) :
    recordsUnder key (record :: records) = recordsUnder key records := by
  simp [recordsUnder, h]

section

variable (streams : SortedMap EvidenceKey Stream)

theorem restoreRecord_find (record : StoredEvidence) (key : EvidenceKey) : (restoreRecord streams record).find? key =
      if key = record.evidence.key then
        some ⟨((streams.find? key).getD .empty).records ++ [record],
          max ((streams.find? key).getD .empty).maxGeneration record.evidence.generation⟩
      else streams.find? key := by
  rw [restoreRecord, SortedMap.find?_insert]
  split
  next heq =>
    subst heq
    refine congrArg some ?_
    refine Stream.mk.injEq .. ▸ ⟨rfl, ?_⟩
    rcases lt_or_ge ((streams.find? record.evidence.key).getD .empty).maxGeneration
        record.evidence.generation with hlt | hge
    · rw [if_pos hlt, max_eq_right (le_of_lt hlt)]
    · rw [if_neg (not_lt.mpr hge), max_eq_left hge]
  next => rfl

/-- The fold that restores records appends to each stream the records under its key. -/
theorem foldl_restoreRecord_find (key : EvidenceKey) : (records.foldl restoreRecord streams).find? key =
      if recordsUnder key records = [] then streams.find? key
      else some ⟨((streams.find? key).getD .empty).records ++ recordsUnder key records,
        max ((streams.find? key).getD .empty).maxGeneration (highestGeneration (recordsUnder key records))⟩ := by
  induction records generalizing streams with
  | nil => simp [recordsUnder]
  | cons record records ih =>
    rw [foldl_cons, ih, restoreRecord_find]
    by_cases hkey : key = record.evidence.key
    · subst hkey
      rw [recordsUnder_cons_self, if_neg (cons_ne_nil _ _), if_pos rfl, highestGeneration_cons]
      split
      next hnone => simp [hnone, highestGeneration, UInt64.zero_le]
      next => simp [max_assoc]
    · rw [recordsUnder_cons_of_ne _ (Ne.symm hkey), if_neg hkey]

end

/-- A restored stream holds the records under its key, sorted, and their largest generation. -/
theorem restoreStreams_find (key : EvidenceKey) : (restoreStreams records).find? key =
      if recordsUnder key records = [] then none
      else some (Stream.sorted ⟨recordsUnder key records, highestGeneration (recordsUnder key records)⟩) := by
  rw [restoreStreams, SortedMap.find?_mapValues, foldl_restoreRecord_find]
  split
  · rfl
  · simp [Stream.empty, UInt64.zero_le]

section

variable {records : List StoredEvidence} (h : (restoreStreams records).find? key = some stream)

include h

theorem mem_restored : record ∈ stream.records ↔ record ∈ records ∧ record.evidence.key = key := by
  rw [restoreStreams_find] at h
  split at h
  · cases h
  · cases h
    simp [Stream.sorted, recordsUnder]

theorem exists_mem_restored : ∃ record, record ∈ stream.records := by
  have hfind := h
  rw [restoreStreams_find] at h
  split at h
  · cases h
  next hsome =>
    obtain ⟨record, hrecord⟩ := exists_mem_of_ne_nil _ hsome
    rw [recordsUnder, mem_filter] at hrecord
    exact ⟨record, (mem_restored hfind).mpr ⟨hrecord.1, by simpa using hrecord.2⟩⟩

theorem maxGeneration_restored : stream.maxGeneration = highestGeneration stream.records := by
  rw [restoreStreams_find] at h
  split at h
  · cases h
  · cases h
    apply highestGeneration_congr
    intro generation
    simp [Stream.sorted]

end

/-- No record is lost or invented. -/
theorem restoreStreams_length :
    (restoreStreams records).sumOn (fun _ stream => stream.records.length) = records.length := by
  have hfold : ∀ (records : List StoredEvidence) (streams : SortedMap EvidenceKey Stream),
      (records.foldl restoreRecord streams).sumOn (fun _ stream => stream.records.length) =
        streams.sumOn (fun _ stream => stream.records.length) + records.length := by
    intro records
    induction records with
    | nil => simp
    | cons record records ih =>
      intro streams
      rw [foldl_cons, ih, restoreRecord]
      have hsum := streams.sumOn_insert record.evidence.key
        { records := ((streams.find? record.evidence.key).getD .empty).records ++ [record],
          maxGeneration := if record.evidence.generation >
              ((streams.find? record.evidence.key).getD .empty).maxGeneration then record.evidence.generation
            else ((streams.find? record.evidence.key).getD .empty).maxGeneration }
        (fun _ stream => stream.records.length)
      have hold : (streams.find? record.evidence.key).elim 0 (fun stream => stream.records.length) =
          ((streams.find? record.evidence.key).getD .empty).records.length := by
        cases streams.find? record.evidence.key <;> rfl
      rw [hold] at hsum
      simp only [length_append, length_singleton] at hsum
      rw [length_cons]
      omega
  have hsorted : ∀ stream : Stream, stream.sorted.records.length = stream.records.length := by
    intro stream
    simp [Stream.sorted]
  rw [restoreStreams, sumOn_mapValues]
  simp only [hsorted]
  rw [hfold]
  simp [sumOn]

/-! ### Snapshots -/

/-- Every record of a stream carries the stream's key. -/
def Stream.Keyed (key : EvidenceKey) (stream : Stream) : Prop :=
  ∀ record ∈ stream.records, record.evidence.key = key

namespace Registry

variable {s : Registry}

theorem recordsUnder_flatMap {entries : List (EvidenceKey × Stream)}
    (hordered : entries.Pairwise (fun a b => a.1 < b.1)) (hkeyed : ∀ entry ∈ entries, entry.2.Keyed entry.1)
    (key : EvidenceKey) : recordsUnder key ((entries.map Prod.snd).flatMap Stream.records) =
      ((lookupIn key entries).getD .empty).records := by
  induction entries with
  | nil => rfl
  | cons entry entries ih =>
    obtain ⟨head, stream⟩ := entry
    obtain ⟨hfirst, hrest⟩ := pairwise_cons.mp hordered
    have hih := ih hrest (fun entry hentry => hkeyed entry (mem_cons_of_mem _ hentry))
    have hhead : ∀ record ∈ stream.records, record.evidence.key = head :=
      hkeyed (head, stream) mem_cons_self
    rw [map_cons, flatMap_cons, recordsUnder, filter_append, lookupIn]
    by_cases hkey : key = head
    · subst hkey
      -- everything of the first stream, and nothing of the later ones
      have hnone : lookupIn key entries = none := lookupIn_eq_none_of_lt hfirst
      rw [hnone] at hih
      rw [if_pos rfl, filter_eq_self.mpr (fun record hrecord => by simp [hhead record hrecord])]
      have hrest' : (List.flatMap Stream.records (entries.map Prod.snd)).filter
          (fun record => record.evidence.key == key) = [] := hih
      rw [hrest', append_nil]
      rfl
    · have hnil : stream.records.filter (fun record => record.evidence.key == key) = [] := by
        rw [filter_eq_nil_iff]
        intro record hrecord
        simp [hhead record hrecord, Ne.symm hkey]
      rw [hnil, nil_append, if_neg hkey]
      exact hih

/-- In a snapshot the records under a key are those of its stream. -/
theorem flattenRecords_filter (hkeyed : s.AllStreams Stream.Keyed) (key : EvidenceKey) :
    recordsUnder key s.flattenRecords = (s.streamAt key).records := by
  refine recordsUnder_flatMap s.streams.ordered ?_ key
  intro entry hentry
  exact hkeyed entry.1 entry.2 (mem_entries_iff.mp hentry)

theorem mem_flattenRecords :
    record ∈ s.flattenRecords ↔ ∃ key stream, s.streams.find? key = some stream ∧ record ∈ stream.records := by
  rw [flattenRecords, values, mem_flatMap]
  constructor
  · rintro ⟨stream, hstream, hrecord⟩
    obtain ⟨entry, hentry, rfl⟩ := mem_map.mp hstream
    exact ⟨entry.1, entry.2, mem_entries_iff.mp hentry, hrecord⟩
  · rintro ⟨key, stream, hfind, hrecord⟩
    exact ⟨stream, mem_map.mpr ⟨(key, stream), mem_entries_iff.mpr hfind, rfl⟩, hrecord⟩

theorem length_flattenRecords (s : Registry) :
    s.flattenRecords.length = s.streams.sumOn (fun _ stream => stream.records.length) := by
  simp [flattenRecords, values, sumOn, length_flatMap, map_map, Function.comp_def]

theorem sorted_eq_self (h : SortedRecords stream.records) : stream.sorted = stream := by
  have hsorted : stream.records.insertionSort (fun a b => !generationLess b a) = stream.records := by
    apply Pairwise.insertionSort_eq
    refine h.imp ?_
    intro a b hab
    rw [generationLess_iff] at hab
    have hba : generationLess b a = false := by
      rw [← Bool.not_eq_true, generationLess_iff]
      exact not_lt.mpr (le_of_lt hab)
    simp [hba]
  rw [Stream.sorted, hsorted]

/-- A snapshot restores to the streams it was taken of, except that empty ones are gone. -/
theorem restoreStreams_flatten (hkeyed : s.AllStreams Stream.Keyed)
    (hsorted : s.AllStreams (fun _ stream => SortedRecords stream.records))
    (hmax : s.AllStreams (fun _ stream => stream.maxGeneration = highestGeneration stream.records))
    (key : EvidenceKey) : (restoreStreams s.flattenRecords).find? key =
      if (s.streamAt key).records = [] then none else some (s.streamAt key) := by
  rw [restoreStreams_find, flattenRecords_filter hkeyed]
  split
  · rfl
  · have hmaxAt : (s.streamAt key).maxGeneration = highestGeneration (s.streamAt key).records :=
      hmax.at (fun _ => rfl) key
    have hsortedAt : SortedRecords (s.streamAt key).records := hsorted.at (fun _ => Pairwise.nil) key
    rw [← hmaxAt]
    exact congrArg some (sorted_eq_self hsortedAt)

end Registry

end Ocreg
