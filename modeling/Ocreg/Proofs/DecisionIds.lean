/-
Module: Ocreg.Proofs.DecisionIds
Purpose: What a decision id stands for. The bytes under the id determine the whole decision but the facts about its
  records; under one epoch the facts are determined by the records' evidence and by the lifecycle each of them is in,
  which the id does not cover.
-/
import Ocreg.Proofs.Epochs
import Ocreg.Proofs.EvictionPolicy

namespace Ocreg

open List Registry Reader Lab SortedMap

/-! ### What the id covers -/

/-- The counts of the requirement fit their 32-bit fields. -/
structure CapabilityRequirement.Counted (r : CapabilityRequirement) : Prop where
  features : r.requiredFeatures.codes.length < 2 ^ 32
  limits : r.requiredLimits.length < 2 ^ 32

theorem SemVer.encode_prefixFree : PrefixFree SemVer.encode := PrefixFree.of_roundTrip SemVer.roundTrip

theorem u8_prefixFree : PrefixFree Writer.u8 := PrefixFree.of_roundTrip u8_put

theorem i64_prefixFree : PrefixFree Writer.i64 := PrefixFree.of_roundTrip i64_put

theorem reason_prefixFree : PrefixFree Writer.reason := PrefixFree.of_roundTrip reason_put

theorem PhysicalUnit.encode_prefixFree : PrefixFree PhysicalUnit.encode := by
  intro a b x y h
  simp only [encode, append_assoc] at h
  obtain ⟨hcode, h⟩ := u16_prefixFree _ _ _ _ h
  obtain ⟨hscale, h⟩ := u8_prefixFree _ _ _ _ h
  obtain ⟨hexponent, hrest⟩ := u8_prefixFree _ _ _ _ h
  have hcode' : a.code = b.code := by
    have hsome := congrArg UnitCode.ofNumeric? hcode
    rw [UnitCode.ofNumeric?_numeric, UnitCode.ofNumeric?_numeric] at hsome
    exact Option.some.inj hsome
  have hscale' : a.scale = b.scale := by
    have hsome := congrArg UnitScale.ofNumeric? hscale
    rw [UnitScale.ofNumeric?_numeric, UnitScale.ofNumeric?_numeric] at hsome
    exact Option.some.inj hsome
  cases a
  cases b
  cases hcode'
  cases hscale'
  cases hexponent
  exact ⟨rfl, hrest⟩

theorem LimitRequirement.encode_prefixFree : PrefixFree LimitRequirement.encode := by
  intro a b x y h
  simp only [encode, append_assoc] at h
  obtain ⟨hcode, h⟩ := u32_prefixFree _ _ _ _ h
  obtain ⟨hunit, h⟩ := PhysicalUnit.encode_prefixFree _ _ _ _ h
  obtain ⟨hminimum, hrest⟩ := i64_prefixFree _ _ _ _ h
  cases a
  cases b
  cases hcode
  cases hunit
  cases hminimum
  exact ⟨rfl, hrest⟩

theorem CapabilityRequirement.encode_prefixFree : PrefixFreeOn CapabilityRequirement.Counted encode := by
  intro a b ha hb x y h
  simp only [encode, FeatureSet.encode, append_assoc] at h
  obtain ⟨hdevice, h⟩ := DeviceIncarnationRef.encode_prefixFree _ _ _ _ h
  obtain ⟨hkind, h⟩ := u16_prefixFree _ _ _ _ h
  obtain ⟨hminimum, h⟩ := SemVer.encode_prefixFree _ _ _ _ h
  obtain ⟨hmaximum, h⟩ := optional_prefixFree SemVer.encode_prefixFree _ _ _ _ h
  obtain ⟨hfeatures, h⟩ := collection_prefixFree u32_prefixFree _ _ ha.features hb.features _ _ h
  obtain ⟨hlimits, h⟩ := collection_prefixFree LimitRequirement.encode_prefixFree _ _ ha.limits hb.limits _ _ h
  obtain ⟨hfirmware, h⟩ := optional_prefixFree SemVer.encode_prefixFree _ _ _ _ h
  obtain ⟨hfirmwareGeneration, h⟩ := optional_prefixFree u64_prefixFree _ _ _ _ h
  obtain ⟨hruntime, h⟩ := optional_prefixFree SemVer.encode_prefixFree _ _ _ _ h
  obtain ⟨hruntimeGeneration, h⟩ := optional_prefixFree u64_prefixFree _ _ _ _ h
  obtain ⟨hage, hrest⟩ := u64_prefixFree _ _ _ _ h
  obtain ⟨_, _, ⟨_, _⟩, ⟨_⟩, _, _, _, _, _, _⟩ := a
  obtain ⟨_, _, ⟨_, _⟩, ⟨_⟩, _, _, _, _, _, _⟩ := b
  cases hdevice
  cases CapabilityKind.code_injective hkind
  cases hminimum
  cases hmaximum
  cases hfeatures
  cases hlimits
  cases hfirmware
  cases hfirmwareGeneration
  cases hruntime
  cases hruntimeGeneration
  cases hage
  exact ⟨rfl, hrest⟩

/-- The number of digests can be read off the length of the whole as long as what follows is short: it is known up to
    2^32. -/
theorem digests_inj {as bs : List Digest256} {x y : Bytes} (hx : x.length < 2 ^ 32) (hy : y.length < 2 ^ 32)
    (h : Writer.collection Writer.digest as ++ x = Writer.collection Writer.digest bs ++ y) : as = bs ∧ x = y := by
  have hsize : ∀ ids : List Digest256, (ids.flatMap Writer.digest).length = 32 * ids.length := by
    intro ids
    induction ids with
    | nil => rfl
    | cons id ids ih =>
      rw [flatMap_cons, length_append, ih, length_cons, Writer.digest, id.size_eq, kDigestBytes]
      omega
  rw [Writer.collection, Writer.collection, append_assoc, append_assoc] at h
  obtain ⟨hcount, h⟩ := u32_prefixFree _ _ _ _ h
  have hnat := congrArg UInt32.toNat hcount
  rw [UInt32.toNat_ofNat', UInt32.toNat_ofNat'] at hnat
  have hlength := congrArg List.length h
  rw [length_append, length_append, hsize, hsize] at hlength
  exact digest_prefixFree.flatMap_of_length (by omega) h

namespace CompatibilityDecision

variable {d e : CompatibilityDecision}

/-- The end of the content is short. -/
theorem tail_length (d : CompatibilityDecision) : (Writer.optional Writer.digest d.selected ++
    (Writer.optional Writer.digest d.conflict ++ Writer.u16 d.selectedAuthority.numeric)).length < 2 ^ 32 := by
  have hoptional : ∀ id : Option Digest256, (Writer.optional Writer.digest id).length ≤ 33 := by
    intro id
    cases id with
    | none => exact Nat.le_add_left 1 32
    | some id =>
      rw [Writer.optional, length_cons, Writer.digest, id.size_eq, kDigestBytes]
  have hselected := hoptional d.selected
  have hconflict := hoptional d.conflict
  rw [length_append, length_append, Writer.u16, putBE_length]
  omega

/-- The two decisions agree in everything but, possibly, their ids and the facts. -/
structure Agree (d e : CompatibilityDecision) : Prop where
  requirement : d.requirement = e.requirement
  kind : d.kind = e.kind
  ruleGeneration : d.ruleGeneration = e.ruleGeneration
  registryEpoch : d.registryEpoch = e.registryEpoch
  policyRevision : d.policyRevision = e.policyRevision
  evaluatedAt : d.evaluatedAt = e.evaluatedAt
  reasons : d.reasons = e.reasons
  evidence : d.evidence = e.evidence
  selected : d.selected = e.selected
  conflict : d.conflict = e.conflict
  selectedAuthority : d.selectedAuthority = e.selectedAuthority

theorem agree_of_content (hd : d.requirement.Counted) (he : e.requirement.Counted) (hdr : d.reasons.length < 2 ^ 32)
    (her : e.reasons.length < 2 ^ 32) (h : d.content = e.content) : Agree d e := by
  rw [content, content] at h
  obtain ⟨-, h⟩ := u16_prefixFree _ _ _ _ h
  obtain ⟨hrequirement, h⟩ := CapabilityRequirement.encode_prefixFree _ _ hd he _ _ h
  obtain ⟨hkind, h⟩ := u16_prefixFree _ _ _ _ h
  obtain ⟨hrules, h⟩ := u64_prefixFree _ _ _ _ h
  obtain ⟨hepoch, h⟩ := u64_prefixFree _ _ _ _ h
  obtain ⟨hrevision, h⟩ := u64_prefixFree _ _ _ _ h
  obtain ⟨hevaluated, h⟩ := u64_prefixFree _ _ _ _ h
  obtain ⟨hreasons, h⟩ := collection_prefixFree reason_prefixFree _ _ hdr her _ _ h
  obtain ⟨hevidence, h⟩ := digests_inj d.tail_length e.tail_length h
  obtain ⟨hselected, h⟩ := optional_prefixFree digest_prefixFree _ _ _ _ h
  obtain ⟨hconflict, h⟩ := optional_prefixFree digest_prefixFree _ _ _ _ h
  have hauthority := congrArg (· ++ []) h
  have hkind' : d.kind = e.kind := by
    have hsome := congrArg DecisionKind.ofNumeric? hkind
    rw [DecisionKind.ofNumeric?_numeric, DecisionKind.ofNumeric?_numeric] at hsome
    exact Option.some.inj hsome
  exact ⟨hrequirement, hkind', hrules, hepoch, hrevision, hevaluated, hreasons, hevidence, hselected, hconflict,
    AuthorityRank.numeric_injective (u16_prefixFree _ _ _ _ hauthority).1⟩

end CompatibilityDecision

/-! ### What the facts rest on -/

/-- The lifecycle a record is in and the reason it reports for that; an admitted record has no reason of its own. -/
def StoredEvidence.standing (record : StoredEvidence) : EvidenceLifecycle × Option ReasonCode :=
  (record.lifecycle, match record.lifecycle with
    | .admitted => none
    | .rejected => some record.admissionReason
    | .retired => some record.retirementReason)

/-- The same, read off a reported fact. -/
def EvidenceStateFact.standing (fact : EvidenceStateFact) : EvidenceLifecycle × Option ReasonCode :=
  (fact.lifecycle, if fact.lifecycle = .admitted then none else some fact.reason)

theorem DerivedFact.report_ranked_congr {f g : DerivedFact} (hevidence : f.record.evidence = g.record.evidence)
    (hlifecycle : f.record.lifecycle = g.record.lifecycle) (hstate : f.state = g.state) (hreason : f.reason = g.reason)
    (hage : f.age = g.age) (highest : AuthorityRank) : (f.ranked highest).report = (g.ranked highest).report := by
  have hid : f.record.id = g.record.id := congrArg CapabilityEvidence.id hevidence
  unfold ranked
  rw [hstate, hevidence]
  split
  · simp only [report, hid, hevidence, hlifecycle, hage]
  · simp only [report, hid, hevidence, hlifecycle, hage, hstate, hreason]

namespace Registry

variable {s t : Registry} {device : DeviceIncarnationRef} {kind : CapabilityKind} {now override : Tick}
  {record : StoredEvidence}

/-- The records of a device incarnation and kind, stream by stream. -/
def groupRecords (s : Registry) (device : DeviceIncarnationRef) (kind : CapabilityKind) : List StoredEvidence :=
  (s.groupStreams device kind).flatMap (fun entry => entry.2.records)

/-- The records of a group by id, each with its standing. -/
def standings (s : Registry) (device : DeviceIncarnationRef) (kind : CapabilityKind) :
    List (EvidenceId × EvidenceLifecycle × Option ReasonCode) :=
  (sortById (s.groupRecords device kind)).map (fun record => (record.id, record.standing))

theorem mem_groupRecords (hkeyed : s.AllStreams Stream.Keyed) : record ∈ s.groupRecords device kind ↔
    record ∈ (s.streamAt record.evidence.key).records ∧ record.evidence.key.device = device ∧
      record.evidence.key.kind = kind := by
  rw [groupRecords, mem_flatMap]
  constructor
  · rintro ⟨⟨key, stream⟩, hentry, hrecord⟩
    obtain ⟨hfind, hdevice, hkind⟩ := mem_groupStreams.mp hentry
    have hkey : record.evidence.key = key := hkeyed key stream hfind record hrecord
    rw [hkey, streamAt_of_find hfind]
    exact ⟨hrecord, hdevice, hkind⟩
  · rintro ⟨hrecord, hdevice, hkind⟩
    obtain ⟨stream, hfind, hmem⟩ := find_of_mem_streamAt hrecord
    exact ⟨(record.evidence.key, stream), mem_groupStreams.mpr ⟨hfind, hdevice, hkind⟩, hmem⟩

/-- The fact about a record, before ranking, by the stream its key names. -/
def placedFact (s : Registry) (now override : Tick) (record : StoredEvidence) : DerivedFact :=
  s.factOf record.evidence.key (s.streamAt record.evidence.key) now override record

theorem rawFacts_eq_map (hkeyed : s.AllStreams Stream.Keyed) (now override : Tick) :
    s.rawFacts device kind now override = (s.groupRecords device kind).map (s.placedFact now override) := by
  rw [rawFacts, groupRecords, map_flatMap]
  apply flatMap_congr
  rintro ⟨key, stream⟩ hentry
  obtain ⟨hfind, -, -⟩ := mem_groupStreams.mp hentry
  apply map_congr_left
  intro record hrecord
  have hkey : record.evidence.key = key := hkeyed key stream hfind record hrecord
  rw [placedFact, hkey, streamAt_of_find hfind]

/-- The fact about a record as its group ranks it. -/
def ratedFact (s : Registry) (device : DeviceIncarnationRef) (kind : CapabilityKind) (now override : Tick)
    (record : StoredEvidence) : DerivedFact :=
  (s.placedFact now override record).ranked (highestAuthority (s.rawFacts device kind now override))

theorem ratedFact_record : (s.ratedFact device kind now override record).record = record :=
  DerivedFact.ranked_record _ _

theorem derive_facts_eq_map (hkeyed : s.AllStreams Stream.Keyed) (now override : Tick) :
    (s.derive device kind now override).facts =
      (sortById (s.groupRecords device kind)).map (s.ratedFact device kind now override) := by
  have hmap : (s.rawFacts device kind now override).map
      (DerivedFact.ranked (highestAuthority (s.rawFacts device kind now override))) =
      (s.groupRecords device kind).map (s.ratedFact device kind now override) := by
    conv_lhs => rw [rawFacts_eq_map hkeyed, map_map]
    rw [← rawFacts_eq_map hkeyed]
    rfl
  rw [derive]
  dsimp only
  rw [hmap, sortById]
  refine (map_insertionSort _ _ _ _ ?_).symm
  intro a _ b _
  rw [ratedFact_record, ratedFact_record]

/-- What a fact reports gives the standing back. -/
theorem standing_report : (s.ratedFact device kind now override record).report.standing = record.standing := by
  have hreport : (s.ratedFact device kind now override record).report.lifecycle = record.lifecycle :=
    congrArg StoredEvidence.lifecycle ratedFact_record
  rw [EvidenceStateFact.standing, StoredEvidence.standing, hreport]
  cases hlifecycle : record.lifecycle with
  | admitted => rfl
  | rejected =>
    have hclass : s.classify record (s.streamAt record.evidence.key) (s.policy.findSource record.evidence.key.source)
        record.evidence.key.device now override = (.rejected, record.admissionReason) := if_pos hlifecycle
    rw [ratedFact, placedFact, factOf, hclass]
    rfl
  | retired =>
    have hclass : s.classify record (s.streamAt record.evidence.key) (s.policy.findSource record.evidence.key.source)
        record.evidence.key.device now override = (.retired, record.retirementReason) := by
      rw [classify.eq_def, if_neg (by rw [hlifecycle]; decide), if_pos hlifecycle]
    rw [ratedFact, placedFact, factOf, hclass]
    rfl

theorem standings_eq_map (hkeyed : s.AllStreams Stream.Keyed) (now override : Tick) : s.standings device kind =
      ((s.derive device kind now override).facts.map DerivedFact.report).map
        (fun fact => (fact.id, fact.standing)) := by
  rw [derive_facts_eq_map hkeyed, map_map, map_map, standings]
  apply map_congr_left
  intro record _
  have hid : (s.ratedFact device kind now override record).report.id = record.id :=
    congrArg StoredEvidence.id ratedFact_record
  show (record.id, record.standing) = ((s.ratedFact device kind now override record).report.id,
    (s.ratedFact device kind now override record).report.standing)
  rw [hid, standing_report]

/-! ### Equal standings give equal facts -/

/-- The group is judged under the same policy, boot and current incarnation, and its records are the same evidence in the
    same standing. -/
structure Matches (s t : Registry) (device : DeviceIncarnationRef) (kind : CapabilityKind) : Prop where
  policy : t.policy = s.policy
  bootEpoch : t.bootEpoch = s.bootEpoch
  current : (t.findDevice device.device).map DeviceIncarnationEntry.current =
    (s.findDevice device.device).map DeviceIncarnationEntry.current
  standings : s.standings device kind = t.standings device kind
  injective : Set.InjOn CapabilityEvidence.id (s.storedEvidence ∪ t.storedEvidence)

theorem storedEvidence_of_group (hkeyed : s.AllStreams Stream.Keyed) (h : record ∈ s.groupRecords device kind) :
    record.evidence ∈ s.storedEvidence := by
  obtain ⟨hrecord, -, -⟩ := (mem_groupRecords hkeyed).mp h
  obtain ⟨stream, hfind, hmem⟩ := find_of_mem_streamAt hrecord
  exact ⟨record.evidence.key, stream, hfind, record, hmem, rfl⟩

theorem mem_sortById {records : List StoredEvidence} : record ∈ sortById records ↔ record ∈ records :=
  mem_insertionSort _

theorem Matches.symm (h : Matches s t device kind) : Matches t s device kind :=
  ⟨h.policy.symm, h.bootEpoch.symm, h.current.symm, h.standings.symm, Set.union_comm _ _ ▸ h.injective⟩

section Matched

variable (hs : s.AllStreams Stream.Keyed) (ht : t.AllStreams Stream.Keyed) (h : Matches s t device kind)
include hs ht h

theorem Matches.evidence_eq {twin : StoredEvidence} (hrecord : record ∈ s.groupRecords device kind)
    (htwin : twin ∈ t.groupRecords device kind) (hid : record.id = twin.id) : record.evidence = twin.evidence :=
  h.injective (.inl (storedEvidence_of_group hs hrecord)) (.inr (storedEvidence_of_group ht htwin)) hid

/-- Every record of the group has its counterpart. -/
theorem Matches.twin (hrecord : record ∈ s.groupRecords device kind) :
    ∃ twin ∈ t.groupRecords device kind, record.evidence = twin.evidence ∧ record.standing = twin.standing := by
  have hshown : (record.id, record.standing) ∈ s.standings device kind :=
    mem_map_of_mem (mem_sortById.mpr hrecord)
  rw [h.standings] at hshown
  obtain ⟨twin, htwin, hshows⟩ := mem_map.mp hshown
  have hmem := mem_sortById.mp htwin
  obtain ⟨hid, hstanding⟩ := Prod.mk.inj hshows
  exact ⟨twin, hmem, h.evidence_eq hs ht hrecord hmem hid.symm, hstanding.symm⟩

theorem Matches.generations {key : EvidenceKey} (hdevice : key.device = device) (hkind : key.kind = kind)
    {generation : RecordGeneration} (hgeneration : ∃ r ∈ (s.streamAt key).records, r.evidence.generation = generation) :
    ∃ r ∈ (t.streamAt key).records, r.evidence.generation = generation := by
  obtain ⟨record, hrecord, rfl⟩ := hgeneration
  have hkey : record.evidence.key = key :=
    AllStreams.at hs (fun _ _ hnone => absurd hnone not_mem_nil) key record hrecord
  obtain ⟨twin, htwin, hevidence, -⟩ := h.twin hs ht ((mem_groupRecords hs).mpr
    ⟨hkey ▸ hrecord, hkey ▸ hdevice, hkey ▸ hkind⟩)
  have hstored := ((mem_groupRecords ht).mp htwin).1
  rw [← hevidence, hkey] at hstored
  exact ⟨twin, hstored, congrArg CapabilityEvidence.generation hevidence.symm⟩

theorem Matches.maxGeneration (hsl : s.Levelled) (htl : t.Levelled) {key : EvidenceKey} (hdevice : key.device = device)
    (hkind : key.kind = kind) : (s.streamAt key).maxGeneration = (t.streamAt key).maxGeneration := by
  rw [AllStreams.at hsl (fun _ => rfl) key, AllStreams.at htl (fun _ => rfl) key]
  apply highestGeneration_congr
  intro generation
  exact ⟨h.generations hs ht hdevice hkind, h.symm.generations ht hs hdevice hkind⟩

end Matched

theorem classify_congr {a b : StoredEvidence} {x y : Stream} (hpolicy : t.policy = s.policy)
    (hboot : t.bootEpoch = s.bootEpoch)
    (hcurrent : (t.findDevice device.device).map DeviceIncarnationEntry.current =
      (s.findDevice device.device).map DeviceIncarnationEntry.current)
    (hevidence : a.evidence = b.evidence) (hstanding : a.standing = b.standing)
    (hmax : x.maxGeneration = y.maxGeneration) (source : Option SourcePolicy) (now override : Tick) :
    s.classify a x source device now override = t.classify b y source device now override := by
  have hlifecycle : a.lifecycle = b.lifecycle := congrArg Prod.fst hstanding
  have hreason := congrArg Prod.snd hstanding
  unfold classify
  rw [hpolicy, hboot, hcurrent, hevidence, hmax]
  unfold StoredEvidence.standing at hreason
  rw [hlifecycle] at hreason ⊢
  cases hcase : b.lifecycle with
  | admitted => rfl
  | rejected =>
    rw [hcase] at hreason
    rw [if_pos rfl, if_pos rfl, Option.some.inj hreason]
  | retired =>
    rw [hcase] at hreason
    have hother : ¬ EvidenceLifecycle.retired = .rejected := by decide
    rw [if_neg hother, if_neg hother, if_pos rfl, if_pos rfl, Option.some.inj hreason]

section Matched

variable (hs : s.AllStreams Stream.Keyed) (ht : t.AllStreams Stream.Keyed) (hsl : s.Levelled) (htl : t.Levelled)
  (h : Matches s t device kind)
include hs ht hsl htl h

theorem Matches.placed (now override : Tick) {twin : StoredEvidence} (hrecord : record ∈ s.groupRecords device kind)
    (hevidence : record.evidence = twin.evidence) (hstanding : record.standing = twin.standing) :
    (s.placedFact now override record).state = (t.placedFact now override twin).state ∧
      (s.placedFact now override record).reason = (t.placedFact now override twin).reason ∧
      (s.placedFact now override record).age = (t.placedFact now override twin).age := by
  obtain ⟨-, hdevice, hkind⟩ := (mem_groupRecords hs).mp hrecord
  have hclass := classify_congr h.policy h.bootEpoch h.current hevidence hstanding
    (h.maxGeneration hs ht hsl htl hdevice hkind) (s.policy.findSource record.evidence.key.source) now override
  unfold placedFact factOf
  dsimp only
  rw [← hevidence, h.policy, hdevice, hclass]
  exact ⟨rfl, rfl, rfl⟩

theorem Matches.highest_le : highestAuthority (s.rawFacts device kind now override) ≤ highestAuthority
      (t.rawFacts device kind now override) := by
  rcases highestAuthority_attained (s.rawFacts device kind now override) with hnone | ⟨fact, hfact, hactive, hrank⟩
  · rw [hnone]
    exact highestAuthority_ge_acc _ .none
  · rw [rawFacts_eq_map hs] at hfact
    obtain ⟨record, hrecord, rfl⟩ := mem_map.mp hfact
    obtain ⟨twin, htwin, hevidence, hstanding⟩ := h.twin hs ht hrecord
    obtain ⟨hstate, -, -⟩ := h.placed hs ht hsl htl now override hrecord hevidence hstanding
    have hlisted : t.placedFact now override twin ∈ t.rawFacts device kind now override := by
      rw [rawFacts_eq_map ht]
      exact mem_map_of_mem htwin
    rw [← hrank]
    exact (congrArg CapabilityEvidence.authority hevidence).trans_le
      (le_highestAuthority hlisted (hstate.symm.trans hactive))

end Matched

/-- Matching groups report the same facts. -/
theorem Matches.facts (hs : s.AllStreams Stream.Keyed) (ht : t.AllStreams Stream.Keyed) (hsl : s.Levelled)
    (htl : t.Levelled) (h : Matches s t device kind) (now override : Tick) :
    (s.derive device kind now override).facts.map DerivedFact.report =
      (t.derive device kind now override).facts.map DerivedFact.report := by
  rw [derive_facts_eq_map hs, derive_facts_eq_map ht, map_map, map_map]
  refine Scan.map_eq_of_map_eq h.standings ?_
  intro record hrecord twin htwin hshows
  have hrecord' := mem_sortById.mp hrecord
  have htwin' := mem_sortById.mp htwin
  obtain ⟨hid, hstanding⟩ := Prod.mk.inj hshows
  have hevidence := h.evidence_eq hs ht hrecord' htwin' hid
  obtain ⟨hstate, hreason, hage⟩ := h.placed hs ht hsl htl now override hrecord' hevidence hstanding
  have hhighest : highestAuthority (s.rawFacts device kind now override) =
      highestAuthority (t.rawFacts device kind now override) :=
    le_antisymm (h.highest_le hs ht hsl htl) (h.symm.highest_le ht hs htl hsl)
  show (s.ratedFact device kind now override record).report = (t.ratedFact device kind now override twin).report
  rw [ratedFact, ratedFact, hhighest]
  exact DerivedFact.report_ranked_congr hevidence (congrArg Prod.fst hstanding) hstate hreason hage _

/-! ### Decisions -/

variable {requirement : CapabilityRequirement} {d : CompatibilityDecision}

/-- The facts an evaluation reports: none for a device it does not know. -/
def factsFor (s : Registry) (requirement : CapabilityRequirement) (now : Tick) : List EvidenceStateFact :=
  if (s.findDevice requirement.device.device).isSome then
    (s.derive requirement.device requirement.capability now requirement.maxEvidenceAge).facts.map DerivedFact.report
  else []

/-- What every decision takes from the evaluation it comes from. -/
structure Stamped (s : Registry) (asked : CapabilityRequirement) (now : Tick) (d : CompatibilityDecision) : Prop where
  requirement : d.requirement = asked
  device : d.device = asked.device
  capability : d.capability = asked.capability
  registryEpoch : d.registryEpoch = s.epoch
  evaluatedAt : d.evaluatedAt = now
  id : d.id = Digest256.of d.content
  reasons : d.reasons.length < 2 ^ 32
  evidence : d.evidence.length = d.evidenceFacts.length
  evidenceFacts : d.evidenceFacts = s.factsFor asked now

theorem canonicalReasons_length (reasons : List ReasonCode) : (canonicalReasons reasons).length < 2 ^ 32 := by
  have hsorted : (canonicalReasons reasons).Pairwise (· < ·) := Scan.sortUniqueBy_sorted id reasons
  have hnodup : ((canonicalReasons reasons).map (fun reason => reason.numeric.toNat)).Nodup := by
    refine Nodup.map ?_ (hsorted.imp (fun hlt => hlt.ne))
    intro a b hab
    exact ReasonCode.numeric_injective (UInt16.toNat_inj.mp hab)
  have hrange : (canonicalReasons reasons).map (fun reason => reason.numeric.toNat) ⊆ List.range 65536 := by
    intro n hn
    obtain ⟨reason, -, rfl⟩ := mem_map.mp hn
    exact mem_range.mpr reason.numeric.toNat_lt
  have hle := (hnodup.subperm hrange).length_le
  rw [length_map, length_range] at hle
  omega

theorem stamped_stampDecision (derivation : Option Derivation) (verdict : Verdict)
    (hfacts : ((derivation.map Derivation.facts).getD []).map DerivedFact.report = s.factsFor requirement now) :
    Stamped s requirement now (s.stampDecision requirement now derivation verdict) where
  requirement := rfl
  device := rfl
  capability := rfl
  registryEpoch := rfl
  evaluatedAt := rfl
  id := rfl
  reasons := canonicalReasons_length _
  evidence := by
    rw [stampDecision]
    dsimp only
    rw [length_insertionSort, length_map, length_map]
  evidenceFacts := hfacts

theorem evaluate_stamped (s : Registry) (requirement : CapabilityRequirement) (now : Tick) :
    Stamped s requirement now (s.evaluate requirement now).1 := by
  rw [evaluate]
  dsimp only
  rw [decideRequirement]
  split
  next hunknown =>
    apply stamped_stampDecision
    rw [factsFor, hunknown]
    rfl
  next entry hknown =>
    apply stamped_stampDecision
    rw [factsFor, hknown]
    rfl

/-- The records of the requirement's group are in the same standing, if the device is known at all. -/
def SameStanding (s t : Registry) (requirement : CapabilityRequirement) : Prop :=
  (s.findDevice requirement.device.device).isSome →
    s.standings requirement.device requirement.capability = t.standings requirement.device requirement.capability

/-- What an evaluation hashes: the decision it makes, and the evidence the ids it lists stand for. -/
structure Hashed (offered : Set Bytes) (known : Set CapabilityEvidence) (s : Registry)
    (requirement : CapabilityRequirement) (now : Tick) : Prop where
  counted : requirement.Counted
  content : (s.evaluate requirement now).1.content ∈ offered
  stored : s.storedEvidence ⊆ known

end Registry

namespace CompatibilityDecision

variable {d e : CompatibilityDecision}

/-- Decisions that agree in what is hashed differ at most in their facts. -/
theorem Agree.eq_iff {s t : Registry} {asked other : CapabilityRequirement} {now later : Tick}
    (hd : Stamped s asked now d) (he : Stamped t other later e) (h : Agree d e) (hid : d.id = e.id) :
    d = e ↔ d.evidenceFacts = e.evidenceFacts := by
  constructor
  · exact fun heq => congrArg evidenceFacts heq
  · intro hfacts
    have hrequirement := h.requirement
    have hdevice : d.device = e.device := by
      rw [hd.device, he.device, ← hd.requirement, ← he.requirement, hrequirement]
    have hcapability : d.capability = e.capability := by
      rw [hd.capability, he.capability, ← hd.requirement, ← he.requirement, hrequirement]
    obtain ⟨_, hkind, hrules, hepoch, hrevision, hevaluated, hreasons, hevidence, hselected, hconflict, hauthority⟩ := h
    cases d
    cases e
    simp only [mk.injEq]
    exact ⟨hid, hkind, hdevice, hcapability, hrequirement, hreasons, hevidence, hfacts, hselected, hconflict,
        hauthority,
      hrules, hepoch, hrevision, hevaluated⟩

end CompatibilityDecision

namespace Registry

variable {s t : Registry} {requirement other : CapabilityRequirement} {now later : Tick} {offered : Set Bytes}
  {known : Set CapabilityEvidence}

/-- Two decisions with one id, the second made after the first. -/
theorem decision_eq_iff (hinj : Set.InjOn Digest256.of offered) (hknown : Set.InjOn CapabilityEvidence.id known)
    (hs : s.Reachable) (ht : t.Reachable) (hfollows : Follows s t) (hfirst : Hashed offered known s requirement now)
    (hsecond : Hashed offered known t other later)
    (hid : (s.evaluate requirement now).1.id = (t.evaluate other later).1.id) : other = requirement ∧ later = now ∧
      ((s.evaluate requirement now).1 = (t.evaluate other later).1 ↔ SameStanding s t requirement) := by
  have hd := s.evaluate_stamped requirement now
  have he := t.evaluate_stamped other later
  have hcontent : (s.evaluate requirement now).1.content = (t.evaluate other later).1.content := by
    apply hinj hfirst.content hsecond.content
    rw [← hd.id, ← he.id, hid]
  have hagree := CompatibilityDecision.agree_of_content (by rw [hd.requirement]; exact hfirst.counted)
    (by rw [he.requirement]; exact hsecond.counted) hd.reasons he.reasons hcontent
  have hrequirement : other = requirement := by
    rw [← he.requirement, ← hagree.requirement, hd.requirement]
  have hlater : later = now := by
    rw [← he.evaluatedAt, ← hagree.evaluatedAt, hd.evaluatedAt]
  refine ⟨hrequirement, hlater, ?_⟩
  rw [hagree.eq_iff hd he hid]
  cases hrequirement
  cases hlater
  cases hentry : s.findDevice requirement.device.device with
  | none =>
    -- no evidence is listed on either side
    have hnone : (s.evaluate requirement now).1.evidenceFacts = [] := by
      rw [hd.evidenceFacts, factsFor, hentry]
      rfl
    have hempty : (t.evaluate requirement now).1.evidenceFacts = [] := by
      apply eq_nil_of_length_eq_zero
      rw [← he.evidence, ← hagree.evidence, hd.evidence, hnone]
      rfl
    rw [hnone, hempty]
    refine ⟨fun _ hsome => ?_, fun _ => rfl⟩
    rw [hentry] at hsome
    cases hsome
  | some entry =>
    have hsame := hfollows.same (by rw [← hd.registryEpoch, ← he.registryEpoch, hagree.registryEpoch])
    have hcurrent := hsame.current requirement.device.device entry.current (by rw [hentry]; rfl)
    have hlisted : (t.findDevice requirement.device.device).isSome := by
      cases hfound : t.findDevice requirement.device.device with
      | none =>
        rw [hfound] at hcurrent
        cases hcurrent
      | some _ => rfl
    have hasked : (s.findDevice requirement.device.device).isSome := by rw [hentry]; rfl
    rw [hd.evidenceFacts, he.evidenceFacts, factsFor, factsFor, if_pos hasked, if_pos hlisted]
    constructor
    · intro hfacts _
      rw [standings_eq_map hs.keyed now requirement.maxEvidenceAge, hfacts,
        ← standings_eq_map ht.keyed now requirement.maxEvidenceAge]
    · intro hstanding
      have hmatches : Matches s t requirement.device requirement.capability :=
        { policy := hsame.policy
          bootEpoch := hsame.bootEpoch
          current := by rw [hcurrent, hentry]; rfl
          standings := hstanding hasked
          injective := hknown.mono (Set.union_subset hfirst.stored hsecond.stored) }
      exact hmatches.facts hs.keyed ht.keyed (Levelled.of_reachable hs) (Levelled.of_reachable ht) now _

/-! ### Retained decisions -/

/-- Whatever is retained under the id is this decision. -/
def Retains (s : Registry) (id : DecisionId) (d : CompatibilityDecision) : Prop :=
  ∀ stored, s.decisions.find? id = some stored → stored = d

variable {id : DecisionId} {d decision : CompatibilityDecision} {op : Op}

theorem Retains.dropDecisions (h : s.Retains id d) (fuel : Nat) : (s.dropDecisions fuel).Retains id d := by
  induction fuel generalizing s with
  | zero => exact h
  | succ fuel ih =>
    rw [dropDecisions]
    split
    · split
      · exact h
      next oldest order _ =>
        apply ih
        intro stored hstored
        dsimp only at hstored
        rw [find?_erase] at hstored
        split at hstored
        · cases hstored
        · exact h stored hstored
    · exact h

theorem Retains.pushDecision (h : s.Retains id d) (heq : decision.id = id → decision = d) :
    (s.pushDecision decision).Retains id d := by
  have hinserted : ∀ u : Registry, u.Retains id d → ∀ stored,
      (u.decisions.insert decision.id decision).find? id = some stored → stored = d := by
    intro u hu stored hstored
    rw [SortedMap.find?_insert] at hstored
    split at hstored
    next hsame =>
      cases hstored
      exact heq hsame.symm
    next => exact hu stored hstored
  rw [Registry.pushDecision]
  split
  · exact hinserted s h
  · exact hinserted _ (h.dropDecisions _)

theorem adoptState_decisions (s : Registry) (state : RegistryState) (now : Tick) :
    (s.adoptState state now).2.decisions = .empty := by
  obtain ⟨_, _, hrefresh⟩ := (s.rebooted state now).refreshAllConflicts_frame (resumeTick state now)
  show ((s.rebooted state now).refreshAllConflicts (resumeTick state now)).decisions = _
  rw [hrefresh]
  rfl

/-- Only evaluations and adoption touch the retained decisions. -/
theorem Touches.decisions (h : Touches s op t) (hevaluate : ∀ requirement now, op ≠ .evaluate requirement now) :
    t.decisions = s.decisions := by
  cases h with
  | admitted hframe =>
    obtain ⟨_, _, _, _, _, _, _, rfl, _⟩ := hframe
    rfl
  | decided requirement now _ _ _ _ => exact absurd rfl (hevaluate requirement now)
  | _ => rfl

theorem Retains.step (h : s.Retains id d) (hevaluate : ∀ requirement now, op = .evaluate requirement now →
    (s.evaluate requirement now).1.id = id → (s.evaluate requirement now).1 = d) : (s.step op).Retains id d := by
  rcases op.made_or .evaluate with ⟨requirement, now, rfl⟩ | hop
  · exact h.pushDecision (hevaluate requirement now rfl)
  · rcases op.made_or .adoptState with ⟨state, now, rfl⟩ | hadopt
    · intro stored hstored
      rw [step, adoptState_decisions] at hstored
      cases hstored
    · intro stored hstored
      rw [(s.step_touches hadopt).decisions hop] at hstored
      exact h stored hstored

theorem explain_decision {explanation : Explanation} {reason : ReasonCode}
    (h : s.explain id = .success explanation reason) : s.decisions.find? id = some explanation.decision := by
  rw [explain] at h
  split at h
  · cases h
  next hfind =>
    cases h
    exact hfind

theorem pushDecision_find (s : Registry) (decision : CompatibilityDecision) :
    (s.pushDecision decision).decisions.find? decision.id = some decision := by
  rw [pushDecision]
  split
  · exact find?_insert_self _ _ _
  · exact find?_insert_self _ _ _

theorem explain_evaluate (s : Registry) (requirement : CapabilityRequirement) (now : Tick) :
    ∃ explanation, (s.evaluate requirement now).2.explain (s.evaluate requirement now).1.id = .success explanation .ok ∧
      explanation.decision = (s.evaluate requirement now).1 := by
  have hfind : (s.evaluate requirement now).2.decisions.find? (s.evaluate requirement now).1.id =
      some (s.evaluate requirement now).1 := s.pushDecision_find (s.decideRequirement requirement now)
  rw [explain, hfind]
  exact ⟨_, rfl, rfl⟩

/-! ### Whole runs -/

/-- What the step hashes, if it is an evaluation. -/
def Recognised (offered : Set Bytes) (known : Set CapabilityEvidence) (s : Registry) : Op → Prop
  | .evaluate requirement now => Hashed offered known s requirement now
  | _ => True

/-- Evaluations of this requirement at this tick find the group as `s` has it. -/
def Undisturbed (s : Registry) (requirement : CapabilityRequirement) (now : Tick) (t : Registry) (op : Op) : Prop :=
  op = .evaluate requirement now → SameStanding s t requirement

end Registry

/-- On a run that keeps the epochs apart, a later decision under the id of an earlier one is that decision exactly when
    the records of its group are in the standing they were in then; and what is retained under the id is that decision
    unless it was made anew on records in another standing. -/
theorem decision_id_identifies_iff {offered : Set Bytes} {known : Set CapabilityEvidence}
    (hinj : Set.InjOn Digest256.of offered) (hknown : Set.InjOn CapabilityEvidence.id known) {s : Registry}
    (hs : s.Reachable) {requirement other : CapabilityRequirement} {now later : Tick} {between : List Op}
    (hrun : Runs.Along step (fun t op => t.KeepsEpochs op ∧ t.Recognised offered known op) s
      (.evaluate requirement now :: (between ++ [.evaluate other later]))) :
    ((s.evaluate requirement now).1.id =
        (((s.step (.evaluate requirement now)).run between).evaluate other later).1.id →
      ((s.evaluate requirement now).1 = (((s.step (.evaluate requirement now)).run between).evaluate other later).1 ↔
        Registry.SameStanding s ((s.step (.evaluate requirement now)).run between) requirement)) ∧
    (Runs.Along step (Registry.Undisturbed s requirement now) (s.step (.evaluate requirement now)) between →
      ∀ explanation reason,
        ((s.step (.evaluate requirement now)).run between).explain (s.evaluate requirement now).1.id =
          .success explanation reason →
        explanation.decision = (s.evaluate requirement now).1) := by
  obtain ⟨⟨hkeeps, hfirst⟩, hrest⟩ := hrun
  obtain ⟨hbetween, ⟨-, hlast⟩, -⟩ := Runs.Along.append.mp hrest
  have hstart : Follows s (s.step (.evaluate requirement now)) := follows_step hkeeps
  have hreach : (s.step (.evaluate requirement now)).Reachable := hs.step _
  constructor
  · intro hid
    have hfollows := hstart.trans (follows_run (hbetween.mono (fun _ _ h => h.1)))
    exact (decision_eq_iff hinj hknown hs (hreach.run between) hfollows hfirst hlast hid).2.2
  · intro hundisturbed explanation reason hexplain
    -- what the run keeps: it comes after `s`, and under the id there is nothing but the first decision
    have hinvariant := Runs.Along.invariant (I := fun t => t.Reachable ∧ Follows s t ∧
        t.Retains (s.evaluate requirement now).1.id (s.evaluate requirement now).1)
      ?_ ?_ (hbetween.and hundisturbed)
    · exact hinvariant.2.2 _ (explain_decision hexplain)
    · rintro t op ⟨ht, hfollows, hretains⟩ ⟨⟨hkeep, hhashed⟩, hsame⟩
      refine ⟨ht.step op, hfollows.trans (follows_step hkeep), hretains.step ?_⟩
      rintro asked tick rfl hid
      obtain ⟨rfl, rfl, hiff⟩ := decision_eq_iff hinj hknown hs ht hfollows hfirst hhashed hid.symm
      exact (hiff.mpr (hsame rfl)).symm
    · refine ⟨hreach, hstart, ?_⟩
      intro stored hstored
      have hpushed := s.pushDecision_find (s.decideRequirement requirement now)
      exact Option.some.inj (hstored.symm.trans hpushed)

/-- Asked twice at one tick, with a report of another device in between, the registry makes the same decision. -/
theorem decision_id_identifies_other_report :
    let later := (oneReport.step (.evaluate requirement 6)).run [.admitRequest (request 1 1 5) 5]
    oneReport.SameStanding later requirement ∧
      (oneReport.evaluate requirement 6).1 = (later.evaluate requirement 6).1 := by
  intro later
  have hknown : Set.InjOn CapabilityEvidence.id { evidence | evidence ∈ reportedEvidence } :=
    inj_on_of_nodup_map (by decide +kernel)
  have hcounted : requirement.Counted := ⟨by decide, by decide⟩
  have hcontent : (later.evaluate requirement 6).1.content = (oneReport.evaluate requirement 6).1.content := by
    decide +kernel
  have hfirst : Hashed {(oneReport.evaluate requirement 6).1.content} { evidence | evidence ∈ reportedEvidence }
      oneReport requirement 6 := ⟨hcounted, rfl, storedEvidence_subset (by decide +kernel)⟩
  have hsecond : Hashed {(oneReport.evaluate requirement 6).1.content} { evidence | evidence ∈ reportedEvidence }
      later requirement 6 := ⟨hcounted, hcontent, storedEvidence_subset (by decide +kernel)⟩
  have hsame : oneReport.SameStanding later requirement := fun _ => by decide +kernel
  have hrun : Runs.Along step (fun t op => t.KeepsEpochs op ∧
      t.Recognised {(oneReport.evaluate requirement 6).1.content} { evidence | evidence ∈ reportedEvidence } op)
      oneReport (.evaluate requirement 6 :: ([.admitRequest (request 1 1 5) 5] ++ [.evaluate requirement 6])) :=
    ⟨⟨fun hmoves => absurd hmoves (by decide), hfirst⟩, ⟨fun hmoves => absurd hmoves (by decide), trivial⟩,
      ⟨fun hmoves => absurd hmoves (by decide), hsecond⟩, trivial⟩
  have hidentifies := decision_id_identifies_iff (Set.injOn_singleton _ _) hknown (.step (.init policy) _) hrun
  exact ⟨hsame, (hidentifies.1 (by decide +kernel)).mpr hsame⟩

namespace Lab

/-- The peer outranks the lab. -/
def rankedPolicy : RegistryPolicy :=
  { sources := [sourcePolicy, { sourcePolicy with id := peer, authority := .operator }] }

/-- Both report the first device. -/
def outranking : Registry :=
  (init rankedPolicy).run
    [.admitRequest (request 0 1 5) 5, .admitRequest { request 0 1 5 with source := ⟨peer, 1⟩ } 5]

end Lab

/-- The outranked record is retired between two evaluations at one tick. The second decision has the id of the first and
    another fact, and takes its place in the explanation store. -/
theorem retirement_behind_one_id :
    let first := outranking.evaluate requirement 6
    let second := (first.2.step (.retire (retirement 0 2 6) 6)).evaluate requirement 6
    first.1.id = second.1.id ∧
      first.1.evidenceFacts.map EvidenceStateFact.state = [.outranked, .active] ∧
      second.1.evidenceFacts.map EvidenceStateFact.state = [.retired, .active] ∧
      ∃ explanation, second.2.explain first.1.id = .success explanation .ok ∧ explanation.decision = second.1 := by
  intro first second
  obtain ⟨hcontent, hfirst, hsecond⟩ : first.1.content = second.1.content ∧
      first.1.evidenceFacts.map EvidenceStateFact.state = [.outranked, .active] ∧
      second.1.evidenceFacts.map EvidenceStateFact.state = [.retired, .active] := by decide +kernel
  have hid : first.1.id = second.1.id :=
    (evaluate_stamped _ _ _).id.trans ((congrArg Digest256.of hcontent).trans
      (evaluate_stamped _ _ _).id.symm)
  refine ⟨hid, hfirst, hsecond, ?_⟩
  rw [hid]
  exact explain_evaluate _ _ _

end Ocreg
