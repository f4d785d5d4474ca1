/-
Module: Ocreg.Proofs.Representation
Purpose: The representation invariant of reachable registries: streams sorted and keyed, one non-rejected
  record per generation, the maximum attained by one of them, and the record count exact.
-/
import Ocreg.Registry.Step

namespace Ocreg

open List StoredEvidence Registry Lab

variable {record incoming : StoredEvidence} {id : EvidenceId} {candidate : EvictionCandidate} {ids : List EvidenceId}
  {restrict : Option EvidenceKey} {maxGeneration : RecordGeneration} {request : AdmissionRequest}
  {evidence : CapabilityEvidence} {stream : Stream} {key : EvidenceKey} {s : Registry} {offered : Set Bytes}
  {now : Tick}

/-! ### One stream -/

/-- What holds of every stream of a reachable registry. -/
structure Stream.Sound (key : EvidenceKey) (stream : Stream) : Prop where
  sorted : SortedRecords stream.records
  keyed : stream.Keyed key
  ids : DistinctIds stream.records
  generations : ∀ a ∈ stream.records, ∀ b ∈ stream.records, a.lifecycle ≠ .rejected →
    b.lifecycle ≠ .rejected → a.evidence.generation = b.evidence.generation → a = b
  positive : ∀ record ∈ stream.records, record.evidence.generation ≠ 0
  highest : stream.maxGeneration = highestGeneration stream.records
  attained : stream.records ≠ [] →
    ∃ record ∈ stream.records, record.lifecycle ≠ .rejected ∧ record.evidence.generation = stream.maxGeneration

namespace Stream.Sound

variable {key : EvidenceKey}

theorem empty (key : EvidenceKey) : Stream.empty.Sound key where
  sorted := Pairwise.nil
  keyed := by simp [Stream.Keyed, Stream.empty]
  ids := nodup_nil
  generations := by simp [Stream.empty]
  positive := by simp [Stream.empty]
  highest := rfl
  attained := fun h => absurd rfl h

section

variable (h : stream.Sound key)
include h

theorem le_maxGeneration (hrecord : record ∈ stream.records) : record.evidence.generation ≤ stream.maxGeneration := by
  rw [h.highest]
  exact le_highestGeneration hrecord

theorem maxGeneration_eq_zero : stream.maxGeneration = 0 ↔ stream.records = [] := by
  constructor
  · intro hzero
    by_contra hne
    obtain ⟨record, hrecord, _, hgeneration⟩ := h.attained hne
    exact h.positive record hrecord (hgeneration.trans hzero)
  · intro hnil
    rw [h.highest, hnil]
    rfl

/-- Removal keeps a stream sound when a rejected record goes, or when none of the others is rejected: then
    any surviving record can attain the new maximum. -/
theorem without (hvictim : (∀ record ∈ stream.records, record.id = id → record.lifecycle = .rejected) ∨
      ∀ record ∈ stream.records, record.lifecycle ≠ .rejected) : (stream.without id).Sound key := by
  have hsub := stream.without_sublist id
  refine ⟨h.sorted.sublist hsub, fun record hrecord => h.keyed record (hsub.subset hrecord), h.ids.sublist hsub,
    fun a ha b hb => h.generations a (hsub.subset ha) b (hsub.subset hb),
    fun record hrecord => h.positive record (hsub.subset hrecord), rfl, ?_⟩
  intro hne
  rcases hvictim with hrejected | hnone
  · -- the record that attains the maximum is not the one removed
    have hold : stream.records ≠ [] := by
      rintro hnil
      rw [hnil] at hsub
      exact hne (sublist_nil.mp hsub)
    obtain ⟨top, htop, hlive, hgeneration⟩ := h.attained hold
    have hkept : top ∈ (stream.without id).records :=
      mem_without_of_id_ne htop (fun hid => hlive (hrejected top htop hid))
    refine ⟨top, hkept, hlive, le_antisymm (le_highestGeneration hkept) ?_⟩
    rw [without_maxGeneration, hgeneration]
    exact highestGeneration_le fun record hrecord => h.le_maxGeneration (hsub.subset hrecord)
  · obtain ⟨top, htop, hgeneration⟩ := highestGeneration_attained hne
    exact ⟨top, htop, hnone top (hsub.subset htop), hgeneration⟩

section

variable (hkey : evidence.key = key) (hfresh : ∀ record ∈ stream.records, record.id ≠ evidence.id)
include hkey hfresh

theorem insertRejected {reason : ReasonCode} (hpositive : evidence.generation ≠ 0)
    (hle : evidence.generation ≤ stream.maxGeneration) :
    Stream.Sound key ⟨insertRecord (storedOf evidence .rejected reason now) stream.records,
      stream.maxGeneration⟩ where
  sorted := insertRecord_sorted h.sorted hfresh
  keyed := forall_insertRecord.mpr ⟨hkey, h.keyed⟩
  ids := h.ids.insertRecord hfresh
  generations := by
    intro a ha b hb hlive hlive'
    rcases mem_insertRecord.mp ha with rfl | ha
    · exact absurd rfl hlive
    · rcases mem_insertRecord.mp hb with rfl | hb
      · exact absurd rfl hlive'
      · exact h.generations a ha b hb hlive hlive'
  positive := forall_insertRecord.mpr ⟨hpositive, h.positive⟩
  highest := by
    rw [highestGeneration_insertRecord, ← h.highest]
    exact (max_eq_right hle).symm
  attained := by
    intro _
    have hne : stream.records ≠ [] := by
      intro hnil
      rw [h.maxGeneration_eq_zero.mpr hnil] at hle
      exact hpositive (le_antisymm hle UInt64.zero_le)
    obtain ⟨top, htop, hlive, hgeneration⟩ := h.attained hne
    exact ⟨top, mem_insertRecord.mpr (.inr htop), hlive, hgeneration⟩

theorem insertAdmitted {reason : ReasonCode} (hlt : stream.maxGeneration < evidence.generation) :
    Stream.Sound key ⟨insertRecord (storedOf evidence .admitted reason now) stream.records,
      evidence.generation⟩ where
  sorted := insertRecord_sorted h.sorted hfresh
  keyed := forall_insertRecord.mpr ⟨hkey, h.keyed⟩
  ids := h.ids.insertRecord hfresh
  generations := by
    -- the new generation lies above every stored one
    have habove : ∀ record ∈ stream.records, record.evidence.generation ≠ evidence.generation :=
      fun record hrecord => ne_of_lt (lt_of_le_of_lt (h.le_maxGeneration hrecord) hlt)
    intro a ha b hb hlive hlive' heq
    rcases mem_insertRecord.mp ha with rfl | ha
    · rcases mem_insertRecord.mp hb with rfl | hb
      · rfl
      · exact absurd heq.symm (habove b hb)
    · rcases mem_insertRecord.mp hb with rfl | hb
      · exact absurd heq (habove a ha)
      · exact h.generations a ha b hb hlive hlive' heq
  positive := forall_insertRecord.mpr
    ⟨fun hzero => absurd hlt (not_lt.mpr (le_of_eq_of_le hzero UInt64.zero_le)), h.positive⟩
  highest := by
    rw [highestGeneration_insertRecord, ← h.highest]
    exact (max_eq_left (le_of_lt hlt)).symm
  attained := by
    intro _
    exact ⟨_, mem_insertRecord.mpr (.inl rfl), by simp [storedOf], rfl⟩

end

end

end Stream.Sound

/-! ### Retirement keeps records apart -/

section Retired

variable (generation : RecordGeneration) (now : Tick) (reason : ReasonCode)

theorem generationLess_congr {a b a' b' : StoredEvidence} (ha : a.evidence = a'.evidence)
    (hb : b.evidence = b'.evidence) : generationLess a b = generationLess a' b' := by
  rw [generationLess, generationLess, StoredEvidence.id, StoredEvidence.id, StoredEvidence.id,
    StoredEvidence.id, ha, hb]

theorem Stream.Sound.retire (h : stream.Sound key) :
    Stream.Sound key { stream with records := stream.records.map (retiredUpTo generation now reason) } where
  sorted := by
    refine pairwise_map.mpr (h.sorted.imp ?_)
    intro a b hab
    rw [generationLess_congr (retiredUpTo_evidence ..) (retiredUpTo_evidence ..)]
    exact hab
  keyed := by
    intro record hrecord
    obtain ⟨old, hold, rfl⟩ := mem_map.mp hrecord
    rw [retiredUpTo_evidence]
    exact h.keyed old hold
  ids := by
    have hids : (stream.records.map (retiredUpTo generation now reason)).map StoredEvidence.id =
        stream.records.map StoredEvidence.id := by
      rw [map_map]
      exact map_congr_left fun record _ => retiredUpTo_id ..
    rw [DistinctIds, hids]
    exact h.ids
  generations := by
    intro a ha b hb hlive hlive' heq
    obtain ⟨a, hold, rfl⟩ := mem_map.mp ha
    obtain ⟨b, hold', rfl⟩ := mem_map.mp hb
    rw [ne_eq, retiredUpTo_rejected] at hlive hlive'
    rw [retiredUpTo_evidence, retiredUpTo_evidence] at heq
    rw [h.generations a hold b hold' hlive hlive' heq]
  positive := by
    intro record hrecord
    obtain ⟨old, hold, rfl⟩ := mem_map.mp hrecord
    rw [retiredUpTo_evidence]
    exact h.positive old hold
  highest := by
    rw [h.highest]
    apply highestGeneration_congr
    intro generation'
    simp [mem_map]
  attained := by
    intro hne
    obtain ⟨top, htop, hlive, hgeneration⟩ := h.attained (fun hnil => hne (by simp [hnil]))
    refine ⟨_, mem_map_of_mem htop, ?_, ?_⟩
    · rw [ne_eq, retiredUpTo_rejected]
      exact hlive
    · rw [retiredUpTo_evidence]
      exact hgeneration

end Retired

/-! ### The whole registry -/

/-- Records stored in all streams. -/
def Registry.storedRecords (s : Registry) : Nat := s.streams.sumOn (fun _ stream => stream.records.length)

/-- The representation invariant. `offered` holds the encodings of all evidence that came in. -/
structure Registry.Sound (offered : Set Bytes) (s : Registry) : Prop where
  streams : s.AllStreams Stream.Sound
  encodings : s.AllStreams (fun _ stream => ∀ record ∈ stream.records, record.evidence.encode ∈ offered)
  total : s.totalRecords = s.storedRecords

namespace Registry

variable {offered : Set Bytes} {s t : Registry}

section

variable (s) (key)

theorem length_streamAt :
    (s.streamAt key).records.length = (s.streams.find? key).elim 0 (fun stream => stream.records.length) := by
  rw [streamAt, findStream]
  cases s.streams.find? key <;> rfl

theorem storedRecords_insert (stream : Stream) :
    (s.streams.insert key stream).sumOn (fun _ stream => stream.records.length) +
        (s.streamAt key).records.length = s.storedRecords + stream.records.length := by
  rw [length_streamAt]
  exact s.streams.sumOn_insert key stream _

theorem storedRecords_erase : (s.streams.erase key).sumOn (fun _ stream => stream.records.length) +
        (s.streamAt key).records.length = s.storedRecords := by
  rw [length_streamAt]
  exact s.streams.sumOn_erase key _

end

/-! ### Counting -/

/-- The record count is the number of stored records. -/
def Counted (s : Registry) : Prop := s.totalRecords = s.storedRecords

section

variable (h : s.Counted)
include h

theorem Counted.of_streams_eq (hstreams : t.streams = s.streams)
    (htotal : t.totalRecords = s.totalRecords) : t.Counted := by
  rw [Counted, htotal, h, storedRecords, storedRecords, hstreams]

theorem Counted.of_frame (hframe : EvidenceFrame s t) : t.Counted :=
  h.of_streams_eq hframe.streams hframe.totalRecords

theorem Counted.insertInStream (key : EvidenceKey) (record : StoredEvidence)
    (maxGeneration : RecordGeneration) : (s.insertInStream key record maxGeneration).Counted := by
  have hsum := s.storedRecords_insert key ⟨insertRecord record (s.streamAt key).records, maxGeneration⟩
  rw [Counted] at h
  rw [length_insertRecord] at hsum
  rw [Counted, insertInStream, storedRecords]
  dsimp only
  omega

theorem Counted.evict (happly : s.applyEviction candidate now = some t) : t.Counted := by
  obtain ⟨stream, victim, hfind, hvictim, hid, hstreams, htotal⟩ := applyEviction_streams happly
  have hsum := s.storedRecords_insert candidate.key (stream.without candidate.id)
  have hlength := Stream.length_without hvictim hid
  rw [streamAt_of_find hfind] at hsum
  have hbound : 0 < s.storedRecords := by
    have hle := SortedMap.le_sumOn (fun _ stream => stream.records.length) hfind
    rw [storedRecords]
    omega
  rw [Counted] at h
  rw [Counted, htotal, storedRecords, hstreams]
  omega

theorem Counted.evicts (hevicts : Evicts id now s t ids) : t.Counted := by
  induction hevicts with
  | refl s => exact h
  | step _ happly _ ih => exact ih (h.evict happly)

theorem Counted.rollback (hstored : incoming ∈ (s.streamAt key).records) :
    (s.rollbackAdmission key incoming.id).Counted := by
  have hlength := Stream.length_without hstored rfl
  have hany : (s.streamAt key).records.any (fun record => record.id == incoming.id) = true :=
    any_eq_true.mpr ⟨incoming, hstored, beq_self_eq_true _⟩
  rw [Counted] at h
  rw [Counted, rollbackAdmission, storedRecords]
  dsimp only
  rw [if_pos hany]
  by_cases hempty : ((s.streamAt key).without incoming.id).records = []
  · have hsum := s.storedRecords_erase key
    rw [if_pos hempty]
    rw [hempty, length_nil] at hlength
    omega
  · have hsum := s.storedRecords_insert key ((s.streamAt key).without incoming.id)
    rw [if_neg hempty]
    omega

theorem Counted.retireStream (tombstone : RetirementRecord) : (s.retireStream tombstone).Counted := by
  have hsum := s.storedRecords_insert tombstone.key { s.streamAt tombstone.key with
    records := (s.streamAt tombstone.key).records.map
      (retiredUpTo tombstone.generation tombstone.retiredAt tombstone.reason) }
  rw [length_map] at hsum
  exact h.trans (Nat.add_right_cancel hsum).symm

end

/-! ### Soundness -/

theorem Sound.of_streams_eq (h : s.Sound offered) (hstreams : t.streams = s.streams)
    (htotal : t.totalRecords = s.totalRecords) : t.Sound offered where
  streams := h.streams.of_streams_eq hstreams
  encodings := h.encodings.of_streams_eq hstreams
  total := Counted.of_streams_eq h.total hstreams htotal

theorem Sound.of_frame (h : s.Sound offered) (hframe : EvidenceFrame s t) : t.Sound offered :=
  h.of_streams_eq hframe.streams hframe.totalRecords

theorem Sound.init (policy : RegistryPolicy) : (init policy).Sound offered where
  streams := by
    intro key stream hfind
    cases hfind
  encodings := by
    intro key stream hfind
    cases hfind
  total := rfl

/-! ### Evictions -/

theorem evictionPriority_eq_zero : s.evictionPriority key stream record now = 0 ↔ record.lifecycle = .rejected := by
  constructor
  · intro hzero
    by_contra hlive
    have hpos : 0 < s.evictionPriority key stream record now := by
      rw [evictionPriority, if_neg hlive]
      refine ite_pos (by decide) (ite_pos (by decide) (ite_pos (by decide) ?_))
      cases s.policy.findSource key.source with
      | none => exact Nat.zero_lt_two
      | some source =>
        exact ite_pos (by decide) (ite_pos (by decide) (ite_pos (by decide) (ite_pos (by decide)
          (ite_pos (by decide) (ite_pos (by decide) (by decide))))))
    exact absurd hzero (Nat.ne_of_gt hpos)
  · intro hrejected
    rw [evictionPriority, if_pos hrejected]

theorem isEvictable_of_rejected (h : record.lifecycle = .rejected) : s.isEvictable key stream record now = true := by
  rw [isEvictable, evictionPriority_eq_zero.mpr h]
  rfl

/-- Rejected records go first: a victim is rejected, or nothing of its stream but the incoming record is. -/
theorem pick_rejected_first {incoming : EvidenceId}
    (hpick : s.pickEvictionCandidate restrict (some incoming) now = some candidate)
    (hfind : s.streams.find? candidate.key = some stream) (hids : DistinctIds stream.records) :
    (∀ record ∈ stream.records, record.id = candidate.id → record.lifecycle = .rejected) ∨
      ∀ record ∈ stream.records, record.id ≠ incoming → record.lifecycle ≠ .rejected := by
  obtain ⟨stream', hfind', hscope, victim, hvictim, _, _, hid, hpriority, _⟩ :=
    mem_evictionCandidates.mp (pick_mem_candidates hpick)
  rw [hfind] at hfind'
  cases hfind'
  by_cases hrejected : victim.lifecycle = .rejected
  · refine .inl ?_
    intro record hrecord hsame
    rw [hids.eq_of_id_eq hrecord hvictim (hsame.trans hid)]
    exact hrejected
  · refine .inr ?_
    intro record hrecord hother hrejected'
    have hle := pick_priority_le hpick hscope hfind hrecord (by simpa using Ne.symm hother)
      (isEvictable_of_rejected hrejected')
    have hzero : s.evictionPriority candidate.key stream record now = 0 :=
      evictionPriority_eq_zero.mpr hrejected'
    have hvictimZero : s.evictionPriority candidate.key stream victim now = 0 := by
      rw [← hpriority]
      exact Nat.le_zero.mp (hle.trans (le_of_eq hzero))
    exact hrejected (evictionPriority_eq_zero.mp hvictimZero)

section

variable (hinj : Set.InjOn Digest256.of offered)
include hinj

/-- Records of equal id are records of one stream: the id covers the key. -/
theorem Sound.key_eq_of_id_eq (h : s.Sound offered) {key' : EvidenceKey} {stream' : Stream} {record' : StoredEvidence}
    (hfind : s.streams.find? key = some stream) (hrecord : record ∈ stream.records)
    (hfind' : s.streams.find? key' = some stream') (hrecord' : record' ∈ stream'.records)
    (hid : record.id = record'.id) : key = key' := by
  have hencode := hinj (h.encodings key stream hfind record hrecord)
    (h.encodings key' stream' hfind' record' hrecord') hid
  have hkeys := CapabilityEvidence.key_eq_of_encode_eq hencode
  rw [(h.streams key stream hfind).keyed record hrecord,
    (h.streams key' stream' hfind').keyed record' hrecord'] at hkeys
  exact hkeys

/-- An admission in progress: the incoming record is stored, and without it its stream would be sound. -/
structure Pending (offered : Set Bytes) (key : EvidenceKey) (incoming : StoredEvidence) (s : Registry) : Prop where
  sound : s.Sound offered
  stored : incoming ∈ (s.streamAt key).records
  admitted : incoming.lifecycle = .admitted
  rest : ((s.streamAt key).without incoming.id).Sound key

/-- One eviction keeps an admission in progress. -/
theorem Pending.evict (h : s.Pending offered key incoming)
    (hpick : s.pickEvictionCandidate restrict (some incoming.id) now = some candidate)
    (happly : s.applyEviction candidate now = some t) : t.Pending offered key incoming := by
  obtain ⟨stream, _, hfind, _, _, hstreams, _⟩ := applyEviction_streams happly
  obtain ⟨inStream, hinFind, hinMem⟩ := find_of_mem_streamAt h.stored
  have hsound := h.sound.streams _ _ hfind
  have hother : candidate.id ≠ incoming.id := by
    obtain ⟨_, _, _, chosen, _, hforbidden, _, hchosen, _⟩ :=
      mem_evictionCandidates.mp (pick_mem_candidates hpick)
    rw [hchosen]
    exact fun heq => hforbidden (congrArg some heq.symm)
  -- a rejected record cannot carry the incoming id: same id means same stream, where ids are distinct
  have hvictims : (∀ record ∈ stream.records, record.id = candidate.id → record.lifecycle = .rejected) ∨
      ∀ record ∈ stream.records, record.lifecycle ≠ .rejected := by
    rcases pick_rejected_first hpick hfind hsound.ids with hrejected | hnone
    · exact .inl hrejected
    · refine .inr ?_
      intro record hrecord
      by_cases hsame : record.id = incoming.id
      · have hkeys := h.sound.key_eq_of_id_eq hinj hfind hrecord hinFind hinMem hsame
        rw [hkeys, hinFind] at hfind
        cases hfind
        rw [hsound.ids.eq_of_id_eq hrecord hinMem hsame, h.admitted]
        decide
      · exact hnone record hrecord hsame
  have hnew : (stream.without candidate.id).Sound candidate.key := hsound.without hvictims
  refine ⟨⟨h.sound.streams.of_insert hnew hstreams, ?_, ?_⟩, ?_, h.admitted, ?_⟩
  · refine h.sound.encodings.of_insert ?_ hstreams
    intro record hrecord
    exact h.sound.encodings _ _ hfind record ((stream.without_sublist _).subset hrecord)
  · exact Counted.evict h.sound.total happly
  · rw [streamAt_applyEviction happly]
    split
    · exact Stream.mem_without_of_id_ne h.stored (Ne.symm hother)
    · exact h.stored
  · rw [streamAt_applyEviction happly]
    split
    next hkey =>
      have hrest := h.rest
      rw [hkey, streamAt_of_find hfind] at hrest ⊢
      rw [Stream.without_comm hsound.ids]
      refine hrest.without ?_
      have hsub := stream.without_sublist incoming.id
      rcases hvictims with hrejected | hnone
      · exact .inl fun record hrecord => hrejected record (hsub.subset hrecord)
      · exact .inr fun record hrecord => hnone record (hsub.subset hrecord)
    next => exact h.rest

theorem Pending.evicts (h : s.Pending offered key incoming) (hid : incoming.id = id) (hevicts : Evicts id now s t ids) :
    t.Pending offered key incoming := by
  subst hid
  induction hevicts with
  | refl s => exact h
  | step hpick happly _ ih => exact ih (h.evict hinj hpick happly)

end

/-- A rollback takes the incoming record out again. -/
theorem Pending.rollback (h : s.Pending offered key incoming) : (s.rollbackAdmission key incoming.id).Sound offered := by
  refine ⟨rollbackAdmission_allStreams h.sound.streams h.rest, rollbackAdmission_allStreams h.sound.encodings ?_,
    Counted.rollback h.sound.total h.stored⟩
  intro record hrecord
  obtain ⟨stream, hfind, hmem⟩ :=
    find_of_mem_streamAt (((s.streamAt key).without_sublist incoming.id).subset hrecord)
  exact h.sound.encodings key stream hfind record hmem

/-! ### Admission -/

theorem Sound.insertInStream (h : s.Sound offered) (hencode : record.evidence.encode ∈ offered)
    (hnew : Stream.Sound key ⟨insertRecord record (s.streamAt key).records, maxGeneration⟩) :
    (s.insertInStream key record maxGeneration).Sound offered := by
  refine ⟨h.streams.of_insert hnew rfl, h.encodings.of_insert ?_ rfl, Counted.insertInStream h.total _ _ _⟩
  intro other hother
  rcases mem_insertRecord.mp hother with rfl | hother
  · exact hencode
  · obtain ⟨stream, hfind, hmem⟩ := find_of_mem_streamAt hother
    exact h.encodings key stream hfind other hmem

/-- Storing an admitted record puts an admission in progress. -/
theorem Sound.pending (h : s.Sound offered) (hadmitted : record.lifecycle = .admitted)
    (hencode : record.evidence.encode ∈ offered) (hfresh : ∀ other ∈ (s.streamAt key).records, other.id ≠ record.id)
    (hnew : Stream.Sound key ⟨insertRecord record (s.streamAt key).records, maxGeneration⟩) :
    (s.insertInStream key record maxGeneration).Pending offered key record := by
  have hold : (s.streamAt key).Sound key := h.streams.at Stream.Sound.empty key
  refine ⟨h.insertInStream hencode hnew, ?_, hadmitted, ?_⟩
  · rw [streamAt_insertInStream]
    exact mem_insertRecord.mpr (.inl rfl)
  · rw [streamAt_insertInStream, Stream.without_insertRecord _ hfresh hold.highest]
    exact hold

/-- The registry right after an advancing record went in. -/
theorem Sound.inserted (h : s.Sound offered) (hoffered : (s.evidenceOf request).encode ∈ offered)
    (ht : Admissible s request now t) (hnew : Advancing t (t.evidenceOf request)) :
    (t.insertAdmitted (t.evidenceOf request) now).Pending offered request.key
      (storedOf (t.evidenceOf request) .admitted (acceptanceReason (t.streamAt request.key)) now) := by
  have hsound := h.of_frame (registerIncarnation_evidence ht.registered)
  have hevidence : t.evidenceOf request = s.evidenceOf request := evidenceOf_registered ht.registered
  have hfresh := fresh_of_not_duplicate hnew.fresh
  have hold : (t.streamAt request.key).Sound request.key := hsound.streams.at Stream.Sound.empty _
  exact hsound.pending rfl (hevidence ▸ hoffered) hfresh
    (hold.insertAdmitted rfl hfresh (maxGeneration_lt_of_advancing ht hnew))

theorem Sound.admitRequest (hinj : Set.InjOn Digest256.of offered) (h : s.Sound offered) (now : Tick)
    (hoffered : (s.evidenceOf request).encode ∈ offered) : (s.admitRequest request now).2.Sound offered := by
  have hregistered : ∀ t, Admissible s request now t → t.Sound offered ∧
      t.evidenceOf request = s.evidenceOf request := by
    intro t ht
    exact ⟨h.of_frame (registerIncarnation_evidence ht.registered), evidenceOf_registered ht.registered⟩
  generalize hop : s.admitRequest request now = result
  cases s.admitRequest_view hop with
  | fenced _ hreg _ =>
    exact (h.of_frame (registerIncarnation_evidence hreg)).of_frame ⟨rfl, rfl, rfl, rfl, rfl, rfl⟩
  | duplicate ht _ | rejected ht _ _ _ => exact (hregistered _ ht).1.of_frame ⟨rfl, rfl, rfl, rfl, rfl, rfl⟩
  | @retained t ht hfresh hregression _ =>
    obtain ⟨hsound, hevidence⟩ := hregistered t ht
    have hcounted : t.countRejected.Sound offered := hsound.of_frame ⟨rfl, rfl, rfl, rfl, rfl, rfl⟩
    have hold : (t.streamAt request.key).Sound request.key := hsound.streams.at Stream.Sound.empty _
    have hpositive := generation_ne_zero_of_accepted ht.accepted
    refine Sound.of_frame ?_ (refreshConflict_evidence _ _ _ _)
    exact hcounted.insertInStream (hevidence ▸ hoffered)
      (hold.insertRejected rfl (fresh_of_not_duplicate hfresh) hpositive hregression.2)
  | @exhausted t u ids ht hnew hbudget =>
    have hpending := (h.inserted hoffered ht hnew).evicts hinj (storedOf_id ..) (evicts_of_budget hbudget)
    have hrolled := hpending.rollback
    rw [storedOf_id] at hrolled
    exact hrolled.of_frame ⟨rfl, rfl, rfl, rfl, rfl, rfl⟩
  | @accepted t u ids ht hnew hbudget =>
    have hpending := (h.inserted hoffered ht hnew).evicts hinj (storedOf_id ..) (evicts_of_budget hbudget)
    have hcounted : u.countAccepted.Sound offered := hpending.sound.of_frame ⟨rfl, rfl, rfl, rfl, rfl, rfl⟩
    exact hcounted.of_frame (refreshConflict_evidence _ _ _ _)
  | _ => exact h.of_frame ⟨rfl, rfl, rfl, rfl, rfl, rfl⟩

/-! ### Retirement -/

theorem Sound.retireStream (h : s.Sound offered) (tombstone : RetirementRecord) :
    (s.retireStream tombstone).Sound offered := by
  have hold : (s.streamAt tombstone.key).Sound tombstone.key := h.streams.at Stream.Sound.empty _
  refine ⟨h.streams.of_insert (hold.retire _ _ _) rfl, h.encodings.of_insert ?_ rfl,
    Counted.retireStream h.total tombstone⟩
  intro record hrecord
  obtain ⟨old, hmem, rfl⟩ := mem_map.mp hrecord
  obtain ⟨stream, hfind, hmem⟩ := find_of_mem_streamAt hmem
  rw [retiredUpTo_evidence]
  exact h.encodings tombstone.key stream hfind old hmem

theorem Sound.retire (h : s.Sound offered) (request : RetirementRequest) (now : Tick) :
    (s.retire request now).2.Sound offered := by
  rcases s.streams_retire request now with hsame | ⟨-, hstreams⟩
  · exact h.of_streams_eq hsame (totalRecords_retire ..)
  · exact (h.retireStream _).of_streams_eq hstreams (totalRecords_retire ..)

/-! ### Restarts -/

/-- A registry that restores a snapshot of a sound one is sound. -/
theorem Sound.of_snapshot (h : s.Sound offered) (hstreams : t.streams = restoreStreams s.flattenRecords)
    (htotal : t.totalRecords = s.flattenRecords.length) : t.Sound offered := by
  have hkeyed : s.AllStreams Stream.Keyed := fun key stream hfind => (h.streams key stream hfind).keyed
  have hrestored : ∀ key stream, t.streams.find? key = some stream → stream = s.streamAt key := by
    intro key stream hfind
    rw [hstreams, restoreStreams_flatten hkeyed (fun key stream hfind => (h.streams key stream hfind).sorted)
      (fun key stream hfind => (h.streams key stream hfind).highest)] at hfind
    split at hfind
    · cases hfind
    · exact (Option.some.inj hfind).symm
  refine ⟨?_, ?_, ?_⟩
  · intro key stream hfind
    rw [hrestored key stream hfind]
    exact h.streams.at Stream.Sound.empty key
  · intro key stream hfind record hrecord
    rw [hrestored key stream hfind] at hrecord
    obtain ⟨old, hold, hmem⟩ := find_of_mem_streamAt hrecord
    exact h.encodings key old hold record hmem
  · rw [htotal, storedRecords, hstreams, restoreStreams_length]

end Registry

/-! ### Reachable registries -/

section

variable (offered : Set Bytes)

/-- Registries reached from empty ones by public operations, where adoption and restoring take snapshots of
    reachable registries. `offered` holds the encodings of all evidence the admissions build. -/
inductive Reach : Registry → Prop
  | init (policy : RegistryPolicy) : Reach (init policy)
  | step {s : Registry} {op : Op} (hs : Reach s) (hadopt : op.Ordinary)
      (hoffered : ∀ request now, op = .admitRequest request now → (s.evidenceOf request).encode ∈ offered) :
      Reach (s.step op)
  | adopt {s snapshot : Registry} (now : Tick) (hs : Reach s) (hsnapshot : Reach snapshot) :
      Reach (s.step (.adoptState snapshot.toState now))
  | restore {snapshot : Registry} (policy : RegistryPolicy) (hsnapshot : Reach snapshot) :
      Reach (restore policy snapshot.toState)

end

/-- A step other than adoption keeps the representation invariant. -/
theorem Registry.Sound.step {op : Op} (hinj : Set.InjOn Digest256.of offered) (h : s.Sound offered)
    (hadopt : op.Ordinary)
    (hoffered : ∀ request now, op = .admitRequest request now → (s.evidenceOf request).encode ∈ offered) :
    (s.step op).Sound offered := by
  rcases s.step_cases hadopt with ⟨request, now, rfl, hstep⟩ | ⟨request, now, _, hstep⟩ | hframe
  · rw [hstep]
    exact h.admitRequest hinj now (hoffered request now rfl)
  · rw [hstep]
    exact h.retire request now
  · exact h.of_frame hframe

theorem Reach.sound (hinj : Set.InjOn Digest256.of offered) (h : Reach offered s) : s.Sound offered := by
  induction h with
  | init policy => exact Registry.Sound.init policy
  | step _ hadopt hoffered ih => exact ih.step hinj hadopt hoffered
  | @adopt s snapshot now _ _ _ ih =>
    have hrebooted : (s.rebooted snapshot.toState now).Sound offered := ih.of_snapshot rfl rfl
    obtain ⟨conflicts, dropped, hrefresh⟩ := (s.rebooted snapshot.toState now).refreshAllConflicts_frame
      (Registry.resumeTick snapshot.toState now)
    rw [Registry.step, Registry.adoptState, hrefresh]
    exact hrebooted.of_streams_eq rfl rfl
  | restore policy _ ih => exact ih.of_snapshot rfl rfl

/-! ### Facts and statistics -/

namespace Registry

/-- A derivation has one fact for each record of its group. -/
theorem length_derive_facts (s : Registry) (device : DeviceIncarnationRef) (kind : CapabilityKind)
    (now override : Tick) : (s.derive device kind now override).facts.length =
      ((s.groupStreams device kind).map (fun entry => entry.2.records.length)).sum := by
  simp [derive, rawFacts, length_flatMap]

/-- All groups together have one fact for each stored record. -/
theorem length_allFactStates (s : Registry) (now : Tick) : (s.allFactStates now).length = s.storedRecords := by
  have hlisted : ∀ entry ∈ s.streams.entries, (entry.1.device, entry.1.kind) ∈
      (s.streams.entries.map (fun entry => (entry.1.device, entry.1.kind))).dedup :=
    fun entry hentry => mem_dedup.mpr (mem_map_of_mem hentry)
  have hgroups := Scan.sum_groups (fun entry : EvidenceKey × Stream => (entry.1.device, entry.1.kind))
    (fun entry => entry.2.records.length) (nodup_dedup _) hlisted
  rw [allFactStates, length_flatMap, storedRecords, SortedMap.sumOn, ← hgroups, groupKeys]
  refine congrArg List.sum (map_congr_left ?_)
  rintro ⟨device, kind⟩ _
  rw [length_map, length_derive_facts, groupStreams]
  refine congrArg (fun entries => (List.map (fun entry : EvidenceKey × Stream => entry.2.records.length)
    entries).sum) (filter_congr ?_)
  intro entry _
  rw [Bool.eq_iff_iff]
  simp

theorem allFactStates_ne_evicted (s : Registry) (now : Tick) : ∀ state ∈ s.allFactStates now, state ≠ .evicted := by
  intro state hstate
  obtain ⟨group, _, hmem⟩ := mem_flatMap.mp hstate
  obtain ⟨fact, hfact, rfl⟩ := mem_map.mp hmem
  obtain ⟨raw, hraw, rfl⟩ := mem_derive_facts.mp hfact
  exact DerivedFact.ranked_ne_evicted (rawFacts_assigned hraw)

/-- Every state but evicted falls into one of seven buckets. -/
theorem count_buckets {states : List EvidenceState} (h : ∀ state ∈ states, state ≠ .evicted) :
    states.countP (· = .active) + states.countP (· = .superseded) + states.countP (· = .retired) +
      states.countP (· = .rejected) + states.countP (· = .fenced) + states.countP (· = .stale) +
      states.countP (· = .outranked) = states.length := by
  induction states with
  | nil => rfl
  | cons state states ih =>
    have hrest := ih (fun other hother => h other (mem_cons_of_mem _ hother))
    have hhead := h state mem_cons_self
    cases state <;> simp at hhead ⊢ <;> omega

/-- The buckets of the statistics sum to the record total. -/
theorem Sound.stats_sum (h : s.Sound offered) (now : Tick) :
    (s.stats now).recordsActive + (s.stats now).recordsSuperseded + (s.stats now).recordsRetired +
      (s.stats now).recordsRejected + (s.stats now).recordsFenced + (s.stats now).recordsStale +
      (s.stats now).recordsOutranked = (s.stats now).recordsTotal := by
  have hcount := count_buckets (s.allFactStates_ne_evicted now)
  rw [length_allFactStates, ← h.total] at hcount
  rw [stats]
  dsimp only
  rw [← hcount, UInt64.ofNat_add, UInt64.ofNat_add, UInt64.ofNat_add, UInt64.ofNat_add, UInt64.ofNat_add,
    UInt64.ofNat_add]

/-- Two records of one stream that are active or outranked are one record. -/
theorem Sound.live_unique (h : s.Sound offered)
    {device : DeviceIncarnationRef} {kind : CapabilityKind} {override : Tick} {a b : DerivedFact}
    (ha : a ∈ (s.derive device kind now override).facts) (hb : b ∈ (s.derive device kind now override).facts)
    (halive : a.state = .active ∨ a.state = .outranked) (hblive : b.state = .active ∨ b.state = .outranked)
    (hkey : a.record.evidence.key = b.record.evidence.key) : a.record = b.record := by
  obtain ⟨key, stream, _, hfind, _, _, hmem, heligible⟩ := derive_facts_eligible ha halive
  obtain ⟨key', stream', _, hfind', _, _, hmem', heligible'⟩ := derive_facts_eligible hb hblive
  have hsound := h.streams key stream hfind
  have hsame : key' = key := by
    rw [← hsound.keyed a.record hmem, hkey, (h.streams key' stream' hfind').keyed b.record hmem']
  rw [hsame, hfind] at hfind'
  cases hfind'
  -- both are at the stream's maximum
  have htop : ∀ {record : StoredEvidence} {source : SourcePolicy} {key : EvidenceKey},
      record ∈ stream.records → s.Eligible key stream now override record source →
      record.evidence.generation = stream.maxGeneration := by
    intro record source key hrecord heligible
    refine le_antisymm (hsound.le_maxGeneration hrecord) ?_
    by_contra hlt
    have hne : stream.maxGeneration ≠ 0 :=
      fun hzero => hsound.positive record hrecord
        (le_antisymm (hzero ▸ hsound.le_maxGeneration hrecord) UInt64.zero_le)
    exact heligible.newest ⟨hne, not_le.mp hlt⟩
  refine hsound.generations a.record hmem b.record hmem' ?_ ?_
    ((htop hmem heligible).trans (htop hmem' heligible').symm)
  · rw [heligible.admitted]
    decide
  · rw [heligible'.admitted]
    decide

end Registry

/-- The representation invariant of reachable registries, as far as the digest tells the offered evidence
    apart. -/
theorem representation_invariant {offered : Set Bytes} (hinj : Set.InjOn Digest256.of offered) {s : Registry}
    (hs : Reach offered s) :
    s.totalRecords = s.storedRecords ∧
    (∀ key stream, s.findStream key = some stream →
      SortedRecords stream.records ∧
      (stream.records.map StoredEvidence.id).Nodup ∧
      (∀ record ∈ stream.records, record.evidence.key = key) ∧
      stream.records.Pairwise (fun a b => a.lifecycle ≠ .rejected → b.lifecycle ≠ .rejected →
        a.evidence.generation ≠ b.evidence.generation) ∧
      (stream.maxGeneration = 0 ↔ stream.records = []) ∧
      (stream.records ≠ [] →
        (∀ record ∈ stream.records, record.evidence.generation ≤ stream.maxGeneration) ∧
        ∃ record ∈ stream.records, record.lifecycle ≠ .rejected ∧
          record.evidence.generation = stream.maxGeneration)) ∧
    (∀ device kind now override, ∀ a ∈ (s.derive device kind now override).facts,
      ∀ b ∈ (s.derive device kind now override).facts, (a.state = .active ∨ a.state = .outranked) →
      (b.state = .active ∨ b.state = .outranked) → a.record.evidence.key = b.record.evidence.key →
      a.record = b.record) ∧
    (∀ now, (s.stats now).recordsActive + (s.stats now).recordsSuperseded + (s.stats now).recordsRetired +
      (s.stats now).recordsRejected + (s.stats now).recordsFenced + (s.stats now).recordsStale +
      (s.stats now).recordsOutranked = (s.stats now).recordsTotal) := by
  have hsound := hs.sound hinj
  refine ⟨hsound.total, ?_, ?_, hsound.stats_sum⟩
  · intro key stream hfind
    have hstream := hsound.streams key stream hfind
    refine ⟨hstream.sorted, hstream.ids, hstream.keyed, ?_, hstream.maxGeneration_eq_zero, ?_⟩
    · -- records are distinct, so equal generations would make two of them one
      refine hstream.sorted.imp_of_mem ?_
      intro a b ha hb hless hlive hlive' heq
      rw [hstream.generations a ha b hb hlive hlive' heq, generationLess_iff] at hless
      exact lt_irrefl _ hless
    · intro hne
      exact ⟨fun record hrecord => hstream.le_maxGeneration hrecord, hstream.attained hne⟩
  · intro device kind now override a ha b hb halive hblive hkey
    exact hsound.live_unique ha hb halive hblive hkey

/-- Three reports of two devices: three records, one of which can be evicted, and the invariant. -/
theorem representation_invariant_three_reports :
    threeReports.totalRecords = 3 ∧ (threeReports.pickEvictionCandidate none none 6).isSome = true ∧
      threeReports.totalRecords = threeReports.storedRecords := by
  have hdistinct : Set.InjOn Digest256.of { bytes | bytes ∈ reportedEvidence.map CapabilityEvidence.encode } :=
    inj_on_of_nodup_map (by decide +kernel)
  have hreach : Reach { bytes | bytes ∈ reportedEvidence.map CapabilityEvidence.encode } threeReports := by
    rw [threeReports, run, reports, foldl_cons, foldl_cons, foldl_cons, foldl_nil]
    refine .step (.step (.step (.init policy) ?_ ?_) ?_ ?_) ?_ ?_
    all_goals
      rintro _ _ ⟨⟩
      try exact mem_map_of_mem (by decide +kernel)
  exact ⟨by decide +kernel, by decide +kernel, (representation_invariant hdistinct hreach).1⟩

end Ocreg
