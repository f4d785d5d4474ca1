/-
Module: Ocreg.Registry.Stream
Purpose: Facts about one stream: record order, insertion at the lower bound, removal by id and the largest
  generation; and the streams of a registry as a family of predicates over keys.
-/
import Ocreg.Registry.Derive

namespace Ocreg

open List

variable {record : StoredEvidence} {records others : List StoredEvidence} {stream : Stream} {key : EvidenceKey}
  {id : EvidenceId} {s : Registry}

/-! ### Record order -/

/-- What `generationLess` compares. -/
def StoredEvidence.rank (record : StoredEvidence) : RecordGeneration ×ₗ EvidenceId :=
  toLex (record.evidence.generation, record.id)

theorem generationLess_iff (a b : StoredEvidence) : generationLess a b = true ↔ a.rank < b.rank := by
  rw [StoredEvidence.rank, StoredEvidence.rank, Prod.Lex.toLex_lt_toLex, generationLess]
  split
  next hne => simp [hne]
  next heq => simp [not_not.mp heq]

/-- Strictly ascending by (generation, id). -/
def SortedRecords (records : List StoredEvidence) : Prop :=
  records.Pairwise (fun a b => generationLess a b = true)

theorem insertRecord_perm (record : StoredEvidence) (records : List StoredEvidence) :
    (insertRecord record records).Perm (record :: records) := by
  induction records with
  | nil => exact Perm.refl _
  | cons head rest ih =>
    rw [insertRecord]
    split
    · exact (ih.cons head).trans (Perm.swap record head rest)
    · exact Perm.refl _

theorem mem_insertRecord {other : StoredEvidence} :
    other ∈ insertRecord record records ↔ other = record ∨ other ∈ records := by
  rw [(insertRecord_perm record records).mem_iff, mem_cons]

theorem forall_insertRecord {P : StoredEvidence → Prop} :
    (∀ other ∈ insertRecord record records, P other) ↔ P record ∧ ∀ other ∈ records, P other := by
  simp only [mem_insertRecord, forall_eq_or_imp]

@[simp] theorem length_insertRecord (record : StoredEvidence) (records : List StoredEvidence) :
    (insertRecord record records).length = records.length + 1 :=
  (insertRecord_perm record records).length_eq

theorem insertRecord_sorted (hsorted : SortedRecords records) (hfresh : ∀ other ∈ records, other.id ≠ record.id) :
    SortedRecords (insertRecord record records) := by
  induction records with
  | nil => exact pairwise_singleton _ _
  | cons head rest ih =>
    obtain ⟨hhead, hrest⟩ := pairwise_cons.mp hsorted
    rw [insertRecord]
    split
    next hless =>
      exact pairwise_cons.mpr ⟨forall_insertRecord.mpr ⟨hless, hhead⟩,
        ih hrest (fun other hother => hfresh other (mem_cons_of_mem _ hother))⟩
    next hnot =>
      -- a different id makes the ranks different, so not less means greater
      have hlt : record.rank < head.rank := by
        rcases lt_trichotomy record.rank head.rank with hlt | heq | hgt
        · exact hlt
        · have hid : record.id = head.id := congrArg (fun rank => (ofLex rank).2) heq
          exact absurd hid.symm (hfresh head mem_cons_self)
        · exact absurd ((generationLess_iff head record).mpr hgt) hnot
      refine pairwise_cons.mpr ⟨?_, hsorted⟩
      intro other hother
      rw [generationLess_iff]
      rcases mem_cons.mp hother with rfl | hother
      · exact hlt
      · exact hlt.trans ((generationLess_iff head other).mp (hhead other hother))

/-! ### Largest generation -/

theorem highestGeneration_foldl (records : List StoredEvidence) (acc : RecordGeneration) :
    records.foldl (fun highest record =>
        if record.evidence.generation > highest then record.evidence.generation else highest) acc =
      max acc (highestGeneration records) := by
  induction records generalizing acc with
  | nil => exact (max_eq_left (UInt64.zero_le (a := acc))).symm
  | cons head rest ih =>
    have hstep : ∀ acc : RecordGeneration, (if head.evidence.generation > acc then head.evidence.generation else acc) =
          max acc head.evidence.generation := by
      intro acc
      rcases lt_or_ge acc head.evidence.generation with hlt | hge
      · rw [if_pos hlt, max_eq_right (le_of_lt hlt)]
      · rw [if_neg (not_lt.mpr hge), max_eq_left hge]
    rw [highestGeneration, foldl_cons, foldl_cons, ih, ih, hstep, hstep, ← max_assoc,
      max_eq_right (UInt64.zero_le (a := head.evidence.generation))]

theorem highestGeneration_cons (record : StoredEvidence) (records : List StoredEvidence) :
    highestGeneration (record :: records) = max record.evidence.generation (highestGeneration records) := by
  rw [highestGeneration, foldl_cons, highestGeneration_foldl]
  split
  · rfl
  next hle =>
    have hzero : record.evidence.generation = 0 := le_antisymm (not_lt.mp hle) UInt64.zero_le
    rw [hzero]

theorem le_highestGeneration (h : record ∈ records) : record.evidence.generation ≤ highestGeneration records := by
  induction records with
  | nil => cases h
  | cons head rest ih =>
    rw [highestGeneration_cons]
    rcases mem_cons.mp h with rfl | h
    · exact le_max_left _ _
    · exact (ih h).trans (le_max_right _ _)

theorem highestGeneration_le {bound : RecordGeneration}
    (h : ∀ record ∈ records, record.evidence.generation ≤ bound) : highestGeneration records ≤ bound := by
  induction records with
  | nil => exact UInt64.zero_le
  | cons head rest ih =>
    rw [highestGeneration_cons]
    exact max_le (h head mem_cons_self) (ih (fun record hrecord => h record (mem_cons_of_mem _ hrecord)))

/-- The largest generation is that of a record, unless there is none. -/
theorem highestGeneration_attained (h : records ≠ []) :
    ∃ record ∈ records, record.evidence.generation = highestGeneration records := by
  induction records with
  | nil => exact absurd rfl h
  | cons head rest ih =>
    rw [highestGeneration_cons]
    cases rest with
    | nil =>
      refine ⟨head, mem_cons_self, ?_⟩
      exact (max_eq_left (UInt64.zero_le (a := head.evidence.generation))).symm
    | cons next rest =>
      obtain ⟨record, hmem, heq⟩ := ih (cons_ne_nil _ _)
      rcases le_total head.evidence.generation (highestGeneration (next :: rest)) with hle | hle
      · exact ⟨record, mem_cons_of_mem _ hmem, by rw [heq, max_eq_right hle]⟩
      · exact ⟨head, mem_cons_self, (max_eq_left hle).symm⟩

/-- The largest generation only depends on which generations occur. -/
theorem highestGeneration_congr (h : ∀ generation, (∃ r ∈ records, r.evidence.generation = generation) ↔
        ∃ r ∈ others, r.evidence.generation = generation) :
    highestGeneration records = highestGeneration others := by
  refine le_antisymm (highestGeneration_le ?_) (highestGeneration_le ?_)
  · intro record hrecord
    obtain ⟨other, hother, heq⟩ := (h _).mp ⟨record, hrecord, rfl⟩
    exact heq ▸ le_highestGeneration hother
  · intro record hrecord
    obtain ⟨other, hother, heq⟩ := (h _).mpr ⟨record, hrecord, rfl⟩
    exact heq ▸ le_highestGeneration hother

theorem highestGeneration_insertRecord (record : StoredEvidence) (records : List StoredEvidence) :
    highestGeneration (insertRecord record records) =
      max record.evidence.generation (highestGeneration records) := by
  rw [← highestGeneration_cons]
  apply highestGeneration_congr
  intro generation
  simp only [(insertRecord_perm record records).mem_iff]

/-! ### Removal by id -/

/-- No two records share an id. -/
def DistinctIds (records : List StoredEvidence) : Prop := (records.map StoredEvidence.id).Nodup

section

variable (h : DistinctIds records)
include h

theorem DistinctIds.eq_of_id_eq {a b : StoredEvidence} (ha : a ∈ records) (hb : b ∈ records)
    (hid : a.id = b.id) : a = b :=
  inj_on_of_nodup_map h ha hb hid

theorem DistinctIds.sublist (hsub : others.Sublist records) : DistinctIds others :=
  Nodup.sublist (hsub.map _) h

theorem DistinctIds.insertRecord (hfresh : ∀ other ∈ records, other.id ≠ record.id) :
    DistinctIds (insertRecord record records) := by
  refine ((insertRecord_perm record records).map StoredEvidence.id).nodup_iff.mpr ?_
  refine nodup_cons.mpr ⟨?_, h⟩
  intro hmem
  obtain ⟨other, hother, hid⟩ := mem_map.mp hmem
  exact hfresh other hother hid

end

namespace Stream

theorem without_sublist (stream : Stream) (id : EvidenceId) :
    (stream.without id).records.Sublist stream.records := eraseP_sublist

theorem without_maxGeneration (stream : Stream) (id : EvidenceId) :
    (stream.without id).maxGeneration = highestGeneration (stream.without id).records := rfl

theorem mem_without_of_id_ne (hmem : record ∈ stream.records) (hne : record.id ≠ id) :
    record ∈ (stream.without id).records := by
  refine (mem_eraseP_of_neg ?_).mpr hmem
  simpa using hne

/-- With distinct ids removal is a filter. -/
theorem without_records (hids : DistinctIds stream.records) (id : EvidenceId) :
    (stream.without id).records = stream.records.filter (fun record => record.id != id) := by
  have hnodup : (stream.records.map StoredEvidence.id).Nodup := hids
  rw [without]
  dsimp only
  generalize stream.records = records at hnodup
  induction records with
  | nil => rfl
  | cons head rest ih =>
    obtain ⟨hhead, hrest⟩ := nodup_cons.mp hnodup
    by_cases hid : head.id = id
    · have hkeep : rest.filter (fun record => record.id != id) = rest := by
        rw [filter_eq_self]
        intro record hrecord
        simp only [bne_iff_ne, ne_eq]
        exact fun heq => hhead (mem_map.mpr ⟨record, hrecord, heq.trans hid.symm⟩)
      simp [hid, hkeep]
    · simp [hid, ih hrest]

theorem without_comm (hids : DistinctIds stream.records) (a b : EvidenceId) :
    (stream.without a).without b = (stream.without b).without a := by
  have hrecords : ((stream.without a).without b).records = ((stream.without b).without a).records := by
    rw [without_records (hids.sublist (stream.without_sublist a)), without_records hids,
      without_records (hids.sublist (stream.without_sublist b)), without_records hids, filter_filter,
      filter_filter]
    exact filter_congr fun record _ => Bool.and_comm _ _
  rw [Stream.mk.injEq]
  exact ⟨hrecords, congrArg highestGeneration hrecords⟩

theorem length_without (hmem : record ∈ stream.records) (hid : record.id = id) :
    (stream.without id).records.length + 1 = stream.records.length := by
  have htest : (fun r : StoredEvidence => r.id == id) record = true := by simpa using hid
  exact length_eraseP_add_one hmem htest

/-- Removing a record that was just inserted gives back the records. -/
theorem eraseP_insertRecord (hfresh : ∀ other ∈ records, other.id ≠ record.id) :
    (insertRecord record records).eraseP (fun other => other.id == record.id) = records := by
  induction records with
  | nil => simp [insertRecord]
  | cons head rest ih =>
    rw [insertRecord]
    split
    · have hne : (head.id == record.id) = false := by simpa using hfresh head mem_cons_self
      rw [eraseP_cons_of_neg (by simp [hne]), ih (fun other hother => hfresh other (mem_cons_of_mem _ hother))]
    · rw [eraseP_cons_of_pos (by simp)]

theorem without_insertRecord (maxGeneration : RecordGeneration)
    (hfresh : ∀ other ∈ stream.records, other.id ≠ record.id)
    (hhighest : stream.maxGeneration = highestGeneration stream.records) :
    Stream.without ⟨insertRecord record stream.records, maxGeneration⟩ record.id = stream := by
  rw [without]
  dsimp only
  rw [eraseP_insertRecord hfresh, ← hhighest]

end Stream

/-! ### Streams of a registry -/

namespace Registry

theorem streamAt_of_find (h : s.streams.find? key = some stream) : s.streamAt key = stream := by
  rw [streamAt, findStream, h]
  rfl

theorem streamAt_of_find_none (h : s.streams.find? key = none) : s.streamAt key = .empty := by
  rw [streamAt, findStream, h]
  rfl

theorem find_of_mem_streamAt (h : record ∈ (s.streamAt key).records) :
    ∃ stream, s.streams.find? key = some stream ∧ record ∈ stream.records := by
  cases hfind : s.streams.find? key with
  | none =>
    rw [streamAt_of_find_none hfind] at h
    cases h
  | some stream =>
    rw [streamAt_of_find hfind] at h
    exact ⟨stream, rfl, h⟩

/-- A property of every stream under its key. -/
def AllStreams (P : EvidenceKey → Stream → Prop) (s : Registry) : Prop :=
  ∀ key stream, s.streams.find? key = some stream → P key stream

variable {P : EvidenceKey → Stream → Prop} {t : Registry}

section

variable (h : s.AllStreams P)
include h

theorem AllStreams.of_streams_eq (hstreams : t.streams = s.streams) : t.AllStreams P := by
  intro key stream hfind
  rw [hstreams] at hfind
  exact h key stream hfind

/-- Replacing one stream. -/
theorem AllStreams.of_insert (hnew : P key stream)
    (hstreams : t.streams = s.streams.insert key stream) : t.AllStreams P := by
  intro key' stream' hfind
  rw [hstreams, SortedMap.find?_insert] at hfind
  split at hfind
  next heq =>
    cases hfind
    exact heq ▸ hnew
  next => exact h key' stream' hfind

theorem AllStreams.of_erase (hstreams : t.streams = s.streams.erase key) : t.AllStreams P := by
  intro key' stream' hfind
  rw [hstreams, SortedMap.find?_erase] at hfind
  split at hfind
  next => cases hfind
  next => exact h key' stream' hfind

theorem AllStreams.at_key (hempty : P key .empty) : P key (s.streamAt key) := by
  cases hfind : s.streams.find? key with
  | none =>
    rw [streamAt_of_find_none hfind]
    exact hempty
  | some stream =>
    rw [streamAt_of_find hfind]
    exact h key stream hfind

theorem AllStreams.at (hempty : ∀ key, P key .empty) (key : EvidenceKey) : P key (s.streamAt key) :=
  h.at_key (hempty key)

end

end Registry

end Ocreg
