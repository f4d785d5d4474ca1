/-
Module: Ocreg.Proofs.Snapshots
Purpose: Snapshots of registries driven over the wire are read back by the state decoder, along every run that
  stays clear of the last incarnation, of a full tombstone table without an older entry, and of tables larger
  than the decoder takes.
-/
import Ocreg.Documents.Policy
import Ocreg.Proofs.Bounds
import Ocreg.Proofs.FailedAdmission
import Ocreg.Proofs.Generations
import Ocreg.Proofs.StateCodec
import Ocreg.Proofs.TombstoneBound

namespace Ocreg

open List Registry SortedMap

variable {limit : UInt64} {kind : CapabilityKind} {key : EvidenceKey} {stream : Stream} {record : StoredEvidence}
  {id incoming : EvidenceId} {device : DeviceIncarnationRef} {ok : Bool} {tombstone : RetirementRecord}
  {sources : List SourcePolicy} {α : Type} {table : SortedMap DeviceIdentity DeviceIncarnationEntry}
  {entry : DeviceIncarnationEntry} {reason : ReasonCode} {detail : Bytes} {next next' : UInt64}

/-! ### Mutations of the wire protocol -/

/-- The mutations a client can ask for, with requests their decoders accept. The service takes the tick of an
    admission or a retirement from the request itself. -/
def Op.Wire : Op → Prop
  | .admitRequest request now => request.WF ∧ now = request.observedAt
  | .retire request now => request.WF ∧ now = request.retiredAt
  | .beginDeviceIncarnation device _ => device.WF
  | .revokeSource source _ => source.chars ≠ []
  | .restoreSource source _ => source.chars ≠ []
  | .setSourceAuthority source _ _ => source.chars ≠ []
  | .upsertSourcePolicy policy _ => policy.id.chars ≠ []
  | .resolveConflict _ _ resolver _ => resolver.chars ≠ []
  | .evaluate requirement _ => requirement.WF
  | _ => False

/-- What a parsed policy document and a short name give. -/
structure RegistryPolicy.Accepted (policy : RegistryPolicy) : Prop where
  wf : policy.WF
  ascending : sourcesAscending policy.sources

/-! ### Policies from documents -/

/-- The grammar of names refuses an empty one. -/
theorem readName_named {object : JsonValue} {key : Bytes} {name : Name} (h : readName object key = .ok name) :
    name.chars ≠ [] := by
  obtain ⟨spelling, -, h⟩ := bind_ok h
  split at h
  · cases h
  next parsed hname =>
    cases h
    rw [Name.parse?] at hname
    split at hname
    next hgrammar =>
      cases hname
      simp only [nameGrammar, Bool.and_eq_true, decide_eq_true_eq] at hgrammar
      exact hgrammar.1.1.1.1.1
    · cases hname

theorem readSourcePolicy_named {value : JsonValue} {source : SourcePolicy} (h : readSourcePolicy value = .ok source) :
    source.id.chars ≠ [] := by
  rw [readSourcePolicy] at h
  split at h
  · cases h
  obtain ⟨id, hid, h⟩ := bind_ok h
  have hnamed := readName_named hid
  simp only [bind, Except.bind] at h
  repeat' split at h
  all_goals cases h
  exact hnamed

theorem rejectedWith_ok {read : Except ReasonCode α} {a : α}
    (h : rejectedWith detail read = .ok a) : read = .ok a := by
  cases read <;> cases h
  rfl

/-- Everything read comes from some entry. -/
theorem mapM_ok {ε β : Type} {f : α → Except ε β} {as : List α} {bs : List β} (h : as.mapM f = .ok bs) :
    bs.length = as.length ∧ ∀ b ∈ bs, ∃ a, f a = .ok b := by
  induction as generalizing bs with
  | nil =>
    rw [mapM_nil] at h
    cases h
    exact ⟨rfl, nofun⟩
  | cons a as ih =>
    rw [mapM_cons] at h
    obtain ⟨b, hb, h⟩ := bind_ok h
    obtain ⟨rest, hrest, h⟩ := bind_ok h
    cases h
    obtain ⟨hlength, hread⟩ := ih hrest
    exact ⟨congrArg (· + 1) hlength, forall_mem_cons.mpr ⟨⟨a, hb⟩, hread⟩⟩

/-- The sources of a document are few, have names and stand in the order of those. -/
theorem readSources_accepted {policy : JsonValue} (h : readSources policy = .ok sources) :
    sources.length ≤ kMaxCollectionEntries ∧ (∀ source ∈ sources, source.id.chars ≠ []) ∧ sourcesAscending sources := by
  rw [readSources] at h
  split at h
  · cases h
  obtain ⟨hlength, h⟩ := ok_of_require h
  obtain ⟨read, hread, h⟩ := bind_ok h
  obtain ⟨hdistinct, h⟩ := ok_of_require h
  cases h
  obtain ⟨hsame, hnamed⟩ := mapM_ok (rejectedWith_ok hread)
  have hperm : (sortSources read).Perm read := perm_insertionSort _ _
  refine ⟨((hperm.length_eq.trans hsame).trans_le hlength).trans (by decide), ?_, ?_⟩
  · intro source hsource
    obtain ⟨value, hvalue⟩ := hnamed source (hperm.mem_iff.mp hsource)
    exact readSourcePolicy_named hvalue
  · have hsorted : (sortSources read).IsChain (fun a b => a.id ≤ b.id) :=
      isChain_iff_pairwise.mpr (Scan.insertionSort_ascends SourcePolicy.id read)
    rw [sourcesAscending, isChain_iff_getElem]
    exact fun i hi => lt_of_le_of_ne (isChain_iff_getElem.mp hsorted i hi) (isChain_iff_getElem.mp hdistinct i hi)

/-- A policy document gives an accepted policy, once its name fits the encoding. -/
theorem RegistryPolicy.Accepted.of_document {document : Bytes} {policy : RegistryPolicy}
    (h : parsePolicyDocument document = .success policy reason) (hname : policy.policyName.length ≤ 128) :
    policy.Accepted := by
  rw [parsePolicyDocument] at h
  split at h
  · cases h
  split at h
  · cases h
  next found hread =>
    cases h
    obtain ⟨member, -, hread⟩ := bind_ok hread
    obtain ⟨sources, hsources, hread⟩ := bind_ok hread
    obtain ⟨hlength, hnamed, hascending⟩ := readSources_accepted hsources
    simp only [bind, Except.bind] at hread
    repeat' split at hread
    all_goals cases hread
    exact ⟨⟨hlength, hnamed, hname⟩, hascending⟩

/-! ### The condition -/

/-- A table that may grow by so many entries stays within what the decoder takes: its own bound is no larger, or
    there is room. -/
def Room (limit : UInt64) (size growth : Nat) : Prop :=
  limit.toNat ≤ kMaxCollectionEntries ∨ size + growth ≤ kMaxCollectionEntries

namespace Registry

section

variable (s : Registry)

/-- Room for a device and for one more incarnation of it. -/
structure DeviceRoom (device : DeviceIdentity) : Prop where
  table : Room s.policy.limits.maxDevices s.incarnationTable.size 1
  history : ∀ entry ∈ s.findDevice device,
    Room s.policy.limits.maxIncarnationsPerDevice entry.history.length 1

/-- The device table has no place for a fresh incarnation. -/
def FreshRefused (device : DeviceIdentity) : Prop :=
  match s.findDevice device with
  | none => s.incarnationTable.size ≥ s.policy.limits.maxDevices.toNat
  | some entry => entry.history.length ≥ s.policy.limits.maxIncarnationsPerDevice.toNat

/-- Room for what one admission stores: a record, a conflict, and the ledger entries of at most one eviction for
    each of the two record bounds. -/
structure RecordRoom : Prop where
  records : Room s.policy.limits.maxRecords s.totalRecords 1
  conflicts : Room s.policy.limits.maxConflictGroups s.conflictTable.length 1
  evictions : Room s.policy.limits.maxEvictionLedger s.evictionTable.length 2

/-- A tombstone has a place; where it takes a free one, there is room for it. -/
def TombstoneRoom (key : EvidenceKey) (now : Tick) : Prop :=
  s.TombstonePlace key now ∧
    (s.findTombstone key = none → s.tombstones.size < s.policy.limits.maxTombstones.toNat →
      Room s.policy.limits.maxTombstones s.tombstones.size 1)

/-- The step does not use the last incarnation, finds a place for its tombstone, and keeps every table within what
    the decoder takes. -/
def Fits : Op → Prop
  | .admitRequest request now =>
    s.admissionRefusal request now = none → ¬ s.DeviceRefused request.device →
      request.device.incarnation ≠ lastIncarnation ∧ s.DeviceRoom request.device.device ∧ s.RecordRoom
  | .retire request now =>
    s.retirementRefusal request = none → s.fenceRefusal request = none →
      s.TombstoneRoom request.key now ∧ Room s.policy.limits.maxConflictGroups s.conflictTable.length 1
  | .beginDeviceIncarnation device _ =>
    ¬ s.FreshRefused device → s.nextIncarnation ≠ lastIncarnation ∧ s.DeviceRoom device
  | .upsertSourcePolicy _ _ => Room s.policy.limits.maxSources s.policy.sources.length 1
  | .resolveConflict _ _ _ _ => Room s.policy.limits.maxResolutions s.resolutionTable.length 1
  | _ => True

end

end Registry

/-! ### The invariant -/

/-- A list the decoder takes: not too long, and each entry good. -/
structure Listed {α : Type} (P : α → Prop) (as : List α) : Prop where
  length_le : as.length ≤ kMaxCollectionEntries
  entries : ∀ a ∈ as, P a

/-- The device table and the counter of incarnations. -/
structure DevicesReady (next : UInt64) (table : SortedMap DeviceIdentity DeviceIncarnationEntry) : Prop where
  next : next ≠ 0
  size_le : table.size ≤ kMaxCollectionEntries
  entries : ∀ device entry, table.find? device = some entry → entry.WF

/-- The tombstones. -/
structure TombstonesReady (limit : UInt64) (tombstones : SortedMap EvidenceKey RetirementRecord) : Prop where
  size_le : tombstones.size ≤ kMaxCollectionEntries
  bound : tombstones.size ≤ limit.toNat
  entries : ∀ key tombstone, tombstones.find? key = some tombstone → tombstone.WF

/-- Records the decoder takes, in the streams of their keys. -/
def Stream.Ready (key : EvidenceKey) (stream : Stream) : Prop :=
  ∀ record ∈ stream.records, record.WF ∧ record.evidence.key = key

namespace Registry

/-- Well formed records, counted. -/
structure Holds (s : Registry) : Prop where
  streams : s.AllStreams Stream.Ready
  total : s.totalRecords = s.storedRecords

/-- The bounds on records, and no more of them than the decoder takes. -/
structure Bounded (s : Registry) : Prop extends s.RecordsWithin where
  total_cap : s.totalRecords ≤ kMaxCollectionEntries

/-- What keeps a snapshot within the decoder's checks. -/
structure Readable (s : Registry) : Prop where
  policy : s.policy.Accepted
  devices : DevicesReady s.nextIncarnation s.incarnationTable
  holds : s.Holds
  bounded : s.Bounded
  tombstones : TombstonesReady s.policy.limits.maxTombstones s.tombstones
  conflicts : Listed ConflictGroup.WF s.conflictTable
  resolutions : Listed ConflictResolution.WF s.resolutionTable
  evictions : Listed (fun entry => entry.key.WF) s.evictionTable

/-- A readable registry has a snapshot the decoder takes. -/
theorem Readable.wf {s : Registry} (h : s.Readable) : s.toState.WF where
  policy := h.policy.wf
  next_incarnation := h.devices.next
  incarnations_le := s.incarnationTable.length_values.trans_le h.devices.size_le
  incarnations := by
    intro entry hentry
    obtain ⟨pair, hpair, rfl⟩ := mem_map.mp hentry
    exact h.devices.entries pair.1 pair.2 (mem_entries_iff.mp hpair)
  records_le := by
    have hcap := h.bounded.total_cap
    rw [h.holds.total] at hcap
    exact (length_flattenRecords s).trans_le hcap
  records := by
    intro record hrecord
    obtain ⟨key, stream, hfind, hmem⟩ := mem_flattenRecords.mp hrecord
    exact (h.holds.streams key stream hfind record hmem).1
  tombstones_le := s.tombstones.length_values.trans_le h.tombstones.size_le
  tombstones := by
    intro tombstone htombstone
    obtain ⟨pair, hpair, rfl⟩ := mem_map.mp htombstone
    exact h.tombstones.entries pair.1 pair.2 (mem_entries_iff.mp hpair)
  conflicts_le := h.conflicts.length_le
  conflicts := h.conflicts.entries
  resolutions_le := h.resolutions.length_le
  resolutions := h.resolutions.entries
  evictions_le := h.evictions.length_le
  evictions := h.evictions.entries
  records_bound := by
    have hle := h.bounded.total
    rw [h.holds.total] at hle
    exact (length_flattenRecords s).trans_le hle
  tombstones_bound := s.tombstones.length_values.trans_le h.tombstones.bound
  sources := h.policy.ascending

/-! ### Tables -/

end Registry

theorem Room.mono {size growth less : Nat} (h : Room limit size growth) (hle : less ≤ growth) :
    Room limit size less := h.imp_right (fun hfree => by omega)

/-- One more entry below the table's own bound is one the decoder takes. -/
theorem Room.succ_le {size : Nat} (h : Room limit size 1) (hbelow : size < limit.toNat) :
    size + 1 ≤ kMaxCollectionEntries := h.elim hbelow.trans_le id

theorem Listed.of_subset {P : α → Prop} {as bs : List α} (h : Listed P as) (hsubset : bs ⊆ as)
    (hlength : bs.length ≤ as.length) : Listed P bs :=
  ⟨hlength.trans h.length_le, fun a ha => h.entries a (hsubset ha)⟩

theorem Listed.replaceFirst {P : α → Prop} {as : List α} {value : α} (test : α → Bool) (h : Listed P as)
    (hvalue : P value) : Listed P (replaceFirst test value as) := by
  refine ⟨(length_replaceFirst _ _ _).trans_le h.length_le, ?_⟩
  intro a ha
  rcases mem_replaceFirst ha with rfl | ha
  · exact hvalue
  · exact h.entries a ha

theorem Listed.perm {P : α → Prop} {as bs : List α} (h : Listed P as) (hperm : bs.Perm as) : Listed P bs :=
  h.of_subset hperm.subset (le_of_eq hperm.length_eq)

/-- One more entry in a table below its own bound. -/
theorem Listed.append {P : α → Prop} {as : List α} {value : α} (h : Listed P as) (hvalue : P value)
    (hbelow : as.length < limit.toNat) (hroom : Room limit as.length 1) : Listed P (as ++ [value]) :=
  ⟨length_append.trans_le (hroom.succ_le hbelow),
    forall_mem_append.mpr ⟨h.entries, forall_mem_singleton.mpr hvalue⟩⟩

/-- An entry in the place of the oldest, in a table at its own bound. -/
theorem Listed.rotate {P : α → Prop} {as : List α} {value : α} (h : Listed P as) (hvalue : P value) :
    Listed P (as.drop 1 ++ [value]) := by
  refine ⟨?_, forall_mem_append.mpr ⟨fun a ha => h.entries a (mem_of_mem_drop ha), forall_mem_singleton.mpr hvalue⟩⟩
  have hle := h.length_le
  have hpositive : 1 ≤ kMaxCollectionEntries := by decide
  rw [length_append, length_drop, length_singleton]
  omega

/-- What holds of an entry and of those before it holds after it went in. -/
theorem forall_insert {κ β : Type} [LinearOrder κ] {m : SortedMap κ β} {P : β → Prop} {value : β} (key : κ)
    (h : ∀ k v, m.find? k = some v → P v) (hvalue : P value) : ∀ k v, (m.insert key value).find? k = some v → P v := by
  intro k v hfound
  rw [find?_insert] at hfound
  split at hfound
  · cases hfound
    exact hvalue
  · exact h k v hfound

/-- An entry for a device that is new to the table. -/
theorem DevicesReady.enter (h : DevicesReady next table) (hnext : next' ≠ 0) (hentry : entry.WF)
    (hbelow : table.size < limit.toNat) (hroom : Room limit table.size 1) :
    DevicesReady next' (table.insert entry.device entry) where
  next := hnext
  size_le := by
    rw [size_insert]
    split
    · exact h.size_le
    · exact hroom.succ_le hbelow
  entries := forall_insert _ h.entries hentry

/-- Another entry for a device the table knows. -/
theorem DevicesReady.update {device : DeviceIdentity} {old : DeviceIncarnationEntry}
    (h : DevicesReady next table) (hnext : next' ≠ 0) (hold : table.find? device = some old) (hentry : entry.WF) :
    DevicesReady next' (table.insert device entry) where
  next := hnext
  size_le := by
    rw [size_insert, hold]
    exact h.size_le
  entries := forall_insert _ h.entries hentry

/-- A history below its bound takes one more incarnation. -/
theorem history_room {history : List IncarnationId} (incarnation : IncarnationId)
    (hbelow : ¬ history.length ≥ limit.toNat) (hroom : Room limit history.length 1) :
    (sortIncarnations (history ++ [incarnation])).length ≤ kMaxCollectionEntries := by
  rw [sortIncarnations, length_insertionSort, length_append, length_singleton]
  exact hroom.succ_le (not_le.mp hbelow)

/-! ### Records -/

/-- A check that is passed, and what follows it. -/
theorem refusal_eq_none {cond : Prop} [Decidable cond] {next : Option ReasonCode} :
    (if cond then some reason else next) = none ↔ ¬ cond ∧ next = none := by
  split <;> simp [*]

theorem featureCodeRefusal_eq_none {code : FeatureCode} :
    featureCodeRefusal kind code = none ↔ featureAllowedFor code kind = true := by
  cases hinfo : featureInfo code with
  | none => simp [featureCodeRefusal, featureAllowedFor, hinfo]
  | some info => simp [featureCodeRefusal, hinfo]

theorem limitValueRefusal_eq_none {entry : LimitValue} :
    limitValueRefusal kind entry = none ↔ limitAllowedFor entry.code kind = true ∧ entry.WF := by
  rw [limitValueRefusal]
  cases hinfo : limitInfo entry.code with
  | none => simp [limitAllowedFor, hinfo]
  | some info =>
    simp only [refusal_eq_none, not_not, Int64.not_lt, and_true]
    constructor
    · rintro ⟨hallowed, hvalue, _, _, hunit⟩
      exact ⟨hallowed, hvalue, hunit⟩
    · rintro ⟨hallowed, hvalue, hunit⟩
      obtain ⟨found, hfound, hcode, hform⟩ := unitValidForLimit_spec hunit
      cases hinfo.symm.trans hfound
      exact ⟨hallowed, hvalue, hcode, hform, hunit⟩

theorem featureSetRefusal_eq_none {set : FeatureSet} : featureSetRefusal set kind = none ↔
    set.codes.length ≤ kMaxFeaturesPerRecord ∧ ∀ code ∈ set.codes, featureAllowedFor code kind = true := by
  have hchain : IsChain (· < ·) set.codes := isChain_iff_pairwise.mpr set.sorted
  simp [featureSetRefusal, refusal_eq_none, featureCodeRefusal_eq_none, hchain]

theorem limitSetRefusal_eq_none {set : LimitSet} : limitSetRefusal set kind = none ↔
    set.values.length ≤ kMaxLimitsPerRecord ∧
      ∀ entry ∈ set.values, limitAllowedFor entry.code kind = true ∧ entry.WF := by
  simp [limitSetRefusal, refusal_eq_none, limitValueRefusal_eq_none, set.sorted.isChain]

theorem Stream.Ready.insert (h : stream.Ready key) (hrecord : record.WF) (hkey : record.evidence.key = key)
    (maxGeneration : RecordGeneration) : Stream.Ready key ⟨insertRecord record stream.records, maxGeneration⟩ :=
  forall_insertRecord.mpr ⟨⟨hrecord, hkey⟩, h⟩

theorem Stream.Ready.without (h : stream.Ready key) (id : EvidenceId) : (stream.without id).Ready key :=
  fun record hrecord => h record ((stream.without_sublist id).subset hrecord)

theorem Stream.Ready.retire (h : stream.Ready key) (generation : RecordGeneration) (now : Tick) (reason : ReasonCode) :
    Stream.Ready key { stream with
      records := stream.records.map (StoredEvidence.retiredUpTo generation now reason) } := by
  intro record hrecord
  obtain ⟨old, hold, rfl⟩ := mem_map.mp hrecord
  obtain ⟨hwf, hkey⟩ := h old hold
  rw [StoredEvidence.retiredUpTo]
  split
  · exact ⟨⟨hwf.evidence, fun _ => rfl⟩, hkey⟩
  · exact ⟨hwf, hkey⟩

namespace Registry

variable {s t u : Registry} {request : AdmissionRequest} {now : Tick} {ids : List EvidenceId}

/-- An admission that passes the content checks asserts only what its kind allows. -/
theorem contents_allowed (h : s.admissionRefusal request now = none) :
    (∀ code ∈ request.features.codes, featureAllowedFor code request.kind = true) ∧
      ∀ entry ∈ request.limits.values, limitAllowedFor entry.code request.kind = true := by
  rw [admissionRefusal] at h
  split at h
  · cases h
  · split at h
    · cases h
    · rw [contentRefusal] at h
      split at h
      · cases h
      · split at h
        · cases h
        next hfeatures =>
          split at h
          · cases h
          next hlimits =>
            exact ⟨(featureSetRefusal_eq_none.mp hfeatures).2,
              fun entry hentry => ((limitSetRefusal_eq_none.mp hlimits).2 entry hentry).1⟩

theorem evidenceOf_wf (hrequest : request.WF) (haccepted : s.admissionRefusal request now = none) :
    (s.evidenceOf request).WF where
  __ := hrequest
  key := ⟨hrequest.device, hrequest.source⟩
  features_allowed := (contents_allowed haccepted).1
  limits_allowed := (contents_allowed haccepted).2

/-- A fresh record is not retired, so it needs no tick of retirement. -/
theorem storedOf_wf {evidence : CapabilityEvidence} {lifecycle : EvidenceLifecycle} (h : evidence.WF)
    (hlifecycle : lifecycle ≠ .retired) (reason : ReasonCode) (now : Tick) :
    (storedOf evidence lifecycle reason now).WF :=
  ⟨h, fun hretired => absurd hretired hlifecycle⟩

section

variable (h : s.Holds)
include h

theorem Holds.of_frame (hframe : EvidenceFrame s t) : t.Holds :=
  ⟨h.streams.of_streams_eq hframe.streams, Counted.of_frame h.total hframe⟩

theorem Holds.insertInStream (hrecord : record.WF) (maxGeneration : RecordGeneration) :
    (s.insertInStream record.evidence.key record maxGeneration).Holds := by
  refine ⟨h.streams.of_insert ?_ rfl, Counted.insertInStream h.total _ _ _⟩
  exact (h.streams.at (fun key => by simp [Stream.Ready, Stream.empty]) _).insert hrecord rfl _

theorem Holds.evict {candidate : EvictionCandidate} (happly : s.applyEviction candidate now = some t) : t.Holds := by
  obtain ⟨stream, _, hfind, _, _, hstreams, _⟩ := applyEviction_streams happly
  exact ⟨h.streams.of_insert ((h.streams _ _ hfind).without _) hstreams, Counted.evict h.total happly⟩

theorem Holds.evicts (hevicts : Evicts id now s t ids) : t.Holds := by
  induction hevicts with
  | refl s => exact h
  | step _ happly _ ih => exact ih (h.evict happly)

theorem Holds.rollback {incoming : StoredEvidence} (hstored : incoming ∈ (s.streamAt key).records) :
    (s.rollbackAdmission key incoming.id).Holds := by
  refine ⟨rollbackAdmission_allStreams h.streams ?_, Counted.rollback h.total hstored⟩
  exact (h.streams.at (fun key => by simp [Stream.Ready, Stream.empty]) key).without _

end

/-! ### Conflicts -/

section

variable (s) (device) (kind) (now)

theorem length_derive_live : (s.derive device kind now 0).live.length ≤ (s.derive device kind now 0).facts.length := by
  simp only [derive, sortById, length_insertionSort, length_map]
  exact (length_filter_le _ _).trans_eq (length_map _)

theorem length_derive_le : (s.derive device kind now 0).facts.length ≤ s.storedRecords := by
  rw [length_derive_facts, groupStreams, storedRecords, sumOn]
  exact (filter_sublist.map _).sum_le_sum fun _ _ => Nat.zero_le _

end

/-- A derivation that disagrees has a live record. -/
theorem exists_live_of_disagrees (h : (s.derive device kind now 0).disagrees = true) :
    ∃ record, record ∈ (s.derive device kind now 0).live := by
  have hdisagrees : liveDisagrees (s.derive device kind now 0).live = true := h
  cases hlive : (s.derive device kind now 0).live with
  | nil =>
    rw [hlive] at hdisagrees
    cases hdisagrees
  | cons record rest => exact ⟨record, mem_cons_self⟩

section

variable (h : s.Holds) (hcap : s.totalRecords ≤ kMaxCollectionEntries)
include h hcap

theorem Holds.conflictGroupOf_wf (hdisagrees : (s.derive device kind now 0).disagrees = true) :
    (conflictGroupOf (s.derive device kind now 0) device kind).WF where
  device := by
    obtain ⟨record, hrecord⟩ := exists_live_of_disagrees hdisagrees
    obtain ⟨raw, hraw, _⟩ := mem_derive_live.mp hrecord
    obtain ⟨key, stream, hfind, hdevice, _, stored, hstored, _⟩ := mem_rawFacts.mp hraw
    obtain ⟨hwf, hkey⟩ := h.streams key stream hfind stored hstored
    have hkeyWF := hwf.evidence.key.device
    rw [hkey, hdevice] at hkeyWF
    exact hkeyWF
  members_le := by
    rw [conflictGroupOf, length_insertionSort, length_map]
    rw [h.total] at hcap
    exact ((s.length_derive_live _ _ _).trans (s.length_derive_le _ _ _)).trans hcap
  generations_length := by simp [conflictGroupOf]

/-- One group's entry brought up to date: every entry is one of before or the group's own. -/
theorem refreshedConflicts_wf
    (hold : ∀ group ∈ s.conflictTable, group.WF) : ∀ group ∈ (s.refreshedConflicts device kind now).1, group.WF := by
  intro group hgroup
  rcases mem_of_mem_refreshed hgroup with hmem | ⟨hdisagrees, rfl⟩
  · exact hold group hmem
  · exact h.conflictGroupOf_wf hcap hdisagrees

end

/-- The table grows by one group at most, below its bound, and only for a group that has facts. -/
theorem length_refreshedConflicts (s : Registry) (device : DeviceIncarnationRef) (kind : CapabilityKind) (now : Tick) :
    (s.refreshedConflicts device kind now).1.length ≤ s.conflictTable.length ∨
      (s.refreshedConflicts device kind now).1.length = s.conflictTable.length + 1 ∧
        s.conflictTable.length < s.policy.limits.maxConflictGroups.toNat ∧
        1 ≤ (s.derive device kind now 0).facts.length := by
  generalize hop : s.refreshedConflicts device kind now = result
  cases s.refreshedConflicts_view hop with
  | settled _ => exact .inl eraseP_sublist.length_le
  | replaced _ _ _ => exact .inl (le_of_eq (length_replaceFirst _ _ _))
  | resorted _ _ =>
    refine .inl (le_of_eq ?_)
    rw [sortConflicts, length_insertionSort, length_replaceFirst]
  | dropped _ _ _ => exact .inl (le_refl _)
  | added hdisagrees _ hroom =>
    obtain ⟨record, hrecord⟩ := exists_live_of_disagrees hdisagrees
    refine .inr ⟨?_, hroom, ?_⟩
    · rw [sortConflicts, length_insertionSort, length_append, length_singleton]
    · exact (length_pos_of_mem hrecord).trans_le (s.length_derive_live _ _ _)

/-! ### The moves -/

/-- Readability looks at these parts only. -/
theorem Readable.congr (h : s.Readable) (hpolicy : t.policy = s.policy := by rfl)
    (hnext : t.nextIncarnation = s.nextIncarnation := by rfl)
    (hdevices : t.incarnationTable = s.incarnationTable := by rfl) (hstreams : t.streams = s.streams := by rfl)
    (htotal : t.totalRecords = s.totalRecords := by rfl) (htombstones : t.tombstones = s.tombstones := by rfl)
    (hconflicts : t.conflictTable = s.conflictTable := by rfl)
    (hresolutions : t.resolutionTable = s.resolutionTable := by rfl)
    (hevictions : t.evictionTable = s.evictionTable := by rfl) : t.Readable where
  policy := hpolicy ▸ h.policy
  devices := by
    rw [hnext, hdevices]
    exact h.devices
  holds := ⟨h.holds.streams.of_streams_eq hstreams, Counted.of_streams_eq h.holds.total hstreams htotal⟩
  bounded := by
    refine ⟨⟨?_, ?_⟩, htotal ▸ h.bounded.total_cap⟩
    · rw [htotal, hpolicy]
      exact h.bounded.total
    · intro key
      rw [streamSize, streamAt, findStream, hstreams, hpolicy]
      exact h.bounded.stream key
  tombstones := by
    rw [hpolicy, htombstones]
    exact h.tombstones
  conflicts := hconflicts ▸ h.conflicts
  resolutions := hresolutions ▸ h.resolutions
  evictions := hevictions ▸ h.evictions

theorem Readable.refreshConflict (h : s.Readable) (device : DeviceIncarnationRef) (kind : CapabilityKind)
    (now : Tick) (hroom : Room s.policy.limits.maxConflictGroups s.conflictTable.length 1) :
    (s.refreshConflict device kind now).Readable := by
  refine { h with
    holds := h.holds.of_frame (refreshConflict_evidence _ _ _ _)
    bounded := { h.bounded with }
    conflicts := ⟨?_, refreshedConflicts_wf h.holds h.bounded.total_cap h.conflicts.entries⟩ }
  rw [Registry.refreshConflict]
  rcases s.length_refreshedConflicts device kind now with hle | ⟨hlength, hbelow, _⟩
  · exact hle.trans h.conflicts.length_le
  · exact hlength.trans_le (hroom.succ_le hbelow)

/-- Conflicts recomputed one group after another: the table has an entry for each group with facts at most. -/
theorem foldl_refreshConflict (now : Tick) (groups : List (DeviceIncarnationRef × CapabilityKind))
    (facts : DeviceIncarnationRef → CapabilityKind → Nat) (t : Registry) (h : t.Holds)
    (hcap : t.totalRecords ≤ kMaxCollectionEntries)
    (hfacts : ∀ device kind, (t.derive device kind now 0).facts.length = facts device kind)
    (hold : ∀ group ∈ t.conflictTable, group.WF) :
    (∀ group ∈ (groups.foldl (fun s group => s.refreshConflict group.1 group.2 now) t).conflictTable, group.WF) ∧
      (groups.foldl (fun s group => s.refreshConflict group.1 group.2 now) t).conflictTable.length ≤
        t.conflictTable.length + (groups.map (fun group => facts group.1 group.2)).sum := by
  induction groups generalizing t with
  | nil => exact ⟨hold, le_refl _⟩
  | cons group groups ih =>
    have hgrown : (t.refreshConflict group.1 group.2 now).conflictTable.length ≤
        t.conflictTable.length + facts group.1 group.2 := by
      rw [← hfacts]
      rcases t.length_refreshedConflicts group.1 group.2 now with hle | ⟨hlength, _, hsome⟩
      · exact hle.trans (Nat.le_add_right _ _)
      · exact hlength.trans_le (Nat.add_le_add_left hsome _)
    -- the table is no input of a derivation, so the facts counted are the same after the refresh
    obtain ⟨hwf, hlength⟩ := ih (t.refreshConflict group.1 group.2 now)
      (h.of_frame (refreshConflict_evidence _ _ _ _)) hcap hfacts (refreshedConflicts_wf h hcap hold)
    rw [foldl_cons, map_cons, sum_cons]
    exact ⟨hwf, by omega⟩

theorem Readable.refreshAllConflicts (h : s.Readable) (now : Tick) : (s.refreshAllConflicts now).Readable := by
  have hfold := foldl_refreshConflict now s.groupKeys (fun device kind => (s.derive device kind now 0).facts.length)
    { s with conflictTable := [] } (h.holds.of_frame ⟨rfl, rfl, rfl, rfl, rfl, rfl⟩) h.bounded.total_cap
    (fun _ _ => rfl) (fun _ hgroup => nomatch hgroup)
  have hsum : (s.groupKeys.map (fun group => (s.derive group.1 group.2 now 0).facts.length)).sum =
      s.storedRecords := by
    rw [← length_allFactStates s now, allFactStates, length_flatMap]
    exact congrArg List.sum (map_congr_left (fun _ _ => (length_map _).symm))
  have hlisted : Listed ConflictGroup.WF (s.refreshAllConflicts now).conflictTable := by
    refine ⟨?_, hfold.1⟩
    have hlength := hfold.2
    rw [hsum, ← h.holds.total] at hlength
    exact hlength.trans ((Nat.zero_add _).trans_le h.bounded.total_cap)
  obtain ⟨conflicts, dropped, hrefresh⟩ := s.refreshAllConflicts_frame now
  rw [hrefresh] at hlisted ⊢
  exact { h with
    holds := h.holds.of_frame ⟨rfl, rfl, rfl, rfl, rfl, rfl⟩, bounded := { h.bounded with }, conflicts := hlisted }

/-! ### Devices -/

theorem nextAfter_ne_zero {incarnation : IncarnationId} (hnext : s.nextIncarnation ≠ 0)
    (hlast : incarnation ≠ lastIncarnation) : s.nextAfter incarnation ≠ 0 := by
  rw [nextAfter, nextSeen]
  split
  · intro hzero
    apply hlast
    rw [lastIncarnation]
    have hnat := congrArg UInt64.toNat hzero
    apply UInt64.toNat_inj.mp
    rw [UInt64.toNat_add] at hnat
    have hbound := incarnation.toNat_lt
    simp only [UInt64.toNat_one, UInt64.toNat_zero] at hnat
    have hlastNat : (18446744073709551615 : UInt64).toNat = 18446744073709551615 := rfl
    rw [hlastNat]
    omega
  · exact hnext

theorem Readable.withDevices (h : s.Readable) (hdevices : DevicesReady next table) :
    Readable { s with nextIncarnation := next, incarnationTable := table } :=
  { h with
    holds := h.holds.of_frame ⟨rfl, rfl, rfl, rfl, rfl, rfl⟩, bounded := { h.bounded with }, devices := hdevices }

theorem Readable.registerIncarnation (h : s.Readable) (hdevice : device.WF)
    (hlast : device.incarnation ≠ lastIncarnation) (hroom : s.DeviceRoom device.device)
    (hregistered : s.registerIncarnation device = .ok t) : t.Readable := by
  have hnext := nextAfter_ne_zero h.devices.next hlast
  have hdevices : DevicesReady t.nextIncarnation t.incarnationTable := by
    cases registerView_of_ok hregistered with
    | entered _ hbelow =>
      have hentry : DeviceIncarnationEntry.WF ⟨device.device, device.incarnation, [device.incarnation]⟩ :=
        ⟨hdevice.device, (by decide : 1 ≤ kMaxCollectionEntries)⟩
      exact h.devices.enter hnext hentry hbelow hroom.table
    | known _ _ => exact ⟨hnext, h.devices.size_le, h.devices.entries⟩
    | @added entry hsome _ hbelow =>
      refine h.devices.update hnext hsome ⟨(h.devices.entries _ _ hsome).device, ?_⟩
      exact history_room _ (not_le.mpr hbelow) (hroom.history entry hsome)
  obtain ⟨_, _, rfl⟩ := registerIncarnation_frame hregistered
  exact h.withDevices hdevices

/-! ### Admissions -/

/-- Evictions of records in good form leave good ledger entries, and no more than the ledger has room for. -/
theorem listed_evictions (hevicts : Evicts id now s t ids) (h : s.Holds)
    (hledger : Listed (fun entry => entry.key.WF) s.evictionTable)
    (hroom : Room s.policy.limits.maxEvictionLedger s.evictionTable.length ids.length) :
    Listed (fun entry => entry.key.WF) t.evictionTable := by
  induction hevicts with
  | refl s => exact hledger
  | @step s t u restrict candidate ids _ happly _ ih =>
    have hnext := h.evict happly
    obtain ⟨stream, record, hfind, hrecord, rfl⟩ := applyEviction_eq_some happly
    have hentry : (evictionEntryOf candidate.key stream record now).key.WF := by
      obtain ⟨hwf, hkey⟩ := h.streams _ _ hfind record (mem_of_find?_eq_some hrecord)
      have hkeyWF := hwf.evidence.key
      rw [hkey] at hkeyWF
      exact hkeyWF
    rw [length_cons] at hroom
    by_cases hfull : s.evictionTable.length ≥ s.policy.limits.maxEvictionLedger.toNat
    · refine ih hnext ?_ ?_
      · rw [pushEviction]
        simp only [hfull, if_true]
        exact hledger.rotate hentry
      · rw [pushEviction]
        simp only [hfull, if_true, length_append, length_drop, length_singleton]
        exact hroom.imp_right fun hfree => by omega
    · refine ih hnext ?_ ?_
      · rw [pushEviction]
        simp only [hfull, if_false]
        exact hledger.append hentry (not_le.mp hfull) (hroom.imp_right (fun hfree => by omega))
      · rw [pushEviction]
        simp only [hfull, if_false, length_append, length_singleton]
        exact hroom.imp_right fun hfree => by omega

/-- One round of a bound evicts one record at most. -/
theorem OneRound.evicts {isOver : Registry → Bool} {restrict : Option EvidenceKey}
    (h : OneRound isOver restrict incoming now s ok t) : ∃ ids, ids.length ≤ 1 ∧ Evicts incoming now s t ids := by
  cases h with
  | @evicted _ candidate _ hpick happly => exact ⟨[candidate.id], le_refl 1, .step hpick happly (.refl t)⟩
  | _ => exact ⟨[], Nat.zero_le 1, .refl s⟩

theorem evicts_at_most_two (htotal : s.totalRecords ≤ s.policy.limits.maxRecords.toNat + 1)
    (hsize : s.streamSize key ≤ s.policy.limits.maxRecordsPerStream.toNat + 1)
    (h : s.enforceBudget key incoming now = (ok, u, ids)) : ∃ ids, ids.length ≤ 2 ∧ Evicts incoming now s u ids := by
  obtain ⟨first, t, hround, hrest⟩ := enforceBudget_oneRound htotal hsize h
  obtain ⟨ids, hids, hevicts⟩ := hround.evicts
  rcases hrest with ⟨_, _, rfl⟩ | ⟨_, hround'⟩
  · exact ⟨ids, hids.trans (by decide), hevicts⟩
  · obtain ⟨ids', hids', hevicts'⟩ := hround'.evicts
    refine ⟨ids ++ ids', ?_, hevicts.trans hevicts'⟩
    rw [length_append]
    omega

/-- An advancing record under the bounds: what the evictions leave holds, and the ledger takes them. -/
theorem Readable.enforced (h : t.Readable) (hrecord : (t.evidenceOf request).WF)
    (hroom : Room t.policy.limits.maxEvictionLedger t.evictionTable.length 2)
    (hbudget : t.Budgeted request now ok u ids) : u.Holds ∧ Listed (fun entry => entry.key.WF) u.evictionTable := by
  have hholds : (t.insertAdmitted (t.evidenceOf request) now).Holds :=
    h.holds.insertInStream (storedOf_wf hrecord (by decide) _ now) _
  have hsize : (t.insertAdmitted (t.evidenceOf request) now).streamSize request.key ≤
      t.policy.limits.maxRecordsPerStream.toNat + 1 := by
    have hle := h.bounded.stream request.key
    rw [streamSize, insertAdmitted, evidenceOf_key, streamAt_insertInStream, length_insertRecord]
    exact Nat.add_le_add_right hle 1
  obtain ⟨few, hfew, hevicts⟩ := evicts_at_most_two (Nat.add_le_add_right h.bounded.total 1) hsize hbudget
  exact ⟨hholds.evicts hevicts, listed_evictions hevicts hholds h.evictions (hroom.mono hfew)⟩

theorem Bounded.rollback (h : t.Bounded)
    (hfresh : ∀ record ∈ (t.streamAt request.key).records, record.id ≠ (t.evidenceOf request).id)
    (hevicts : t.Displaces request now u ids) :
    (u.rollbackAdmission request.key (t.evidenceOf request).id).Bounded := by
  refine ⟨h.toRecordsWithin.rollback hfresh hevicts, ?_⟩
  rw [rollback_totalRecords hevicts]
  exact (Nat.sub_le _ _).trans h.total_cap

section

variable (h : t.Bounded) (hroom : Room t.policy.limits.maxRecords t.totalRecords 1)
include h hroom

theorem Bounded.accepted (hbudget : t.Budgeted request now true u ids) : u.Bounded := by
  have hwithin := h.toRecordsWithin.accepted hbudget
  have hevicts := evicts_of_budget hbudget
  refine ⟨hwithin, ?_⟩
  rcases hroom with hlimit | hfree
  · have hpolicy : u.policy = t.policy := hevicts.policy
    have htotal := hwithin.total
    rw [hpolicy] at htotal
    exact htotal.trans hlimit
  · exact (hevicts.totalRecords.trans_le (Nat.sub_le _ _)).trans hfree

theorem Bounded.retained {maxGeneration : RecordGeneration} (hfree : t.retainsRejected key) :
    (t.insertInStream key record maxGeneration).Bounded := by
  refine ⟨h.toRecordsWithin.retained hfree, ?_⟩
  rcases hroom with hlimit | hlength
  · exact Nat.le_trans hfree.2 hlimit
  · exact hlength

end

theorem Readable.admitRequest (h : s.Readable) (hrequest : request.WF) (hfits : s.Fits (.admitRequest request now)) :
    (s.admitRequest request now).2.Readable := by
  have hregistered : ∀ t, s.admissionRefusal request now = none → s.registerIncarnation request.device = .ok t →
      t.Readable ∧ t.RecordRoom := by
    intro t haccepted hregistered
    have hopen : ¬ s.DeviceRefused request.device := by
      rw [deviceRefused_iff, hregistered]
      rintro ⟨_, hcontra⟩
      cases hcontra
    obtain ⟨hlast, hdevice, hrecords⟩ := hfits haccepted hopen
    refine ⟨h.registerIncarnation hrequest.device hlast hdevice hregistered, ?_⟩
    obtain ⟨_, _, rfl⟩ := registerIncarnation_frame hregistered
    exact { hrecords with }
  have hevidence : ∀ t, Admissible s request now t → (t.evidenceOf request).WF := by
    intro t ht
    rw [evidenceOf_registered ht.registered]
    exact evidenceOf_wf hrequest ht.accepted
  generalize hop : s.admitRequest request now = result
  cases s.admitRequest_view hop with
  | @fenced t _ haccepted hreg _ => exact (hregistered t haccepted hreg).1.congr
  | @duplicate t ht _ | @rejected t ht _ _ _ =>
    exact (hregistered t ht.accepted ht.registered).1.congr
  | @retained t ht _ _ hfree =>
    obtain ⟨hreadable, hroom⟩ := hregistered t ht.accepted ht.registered
    have hcounted : t.countRejected.Readable := hreadable.congr
    refine Readable.refreshConflict ?_ _ _ _ hroom.conflicts
    refine { hcounted with holds := ?_, bounded := hcounted.bounded.retained hroom.records hfree }
    exact hcounted.holds.insertInStream (storedOf_wf (hevidence t ht) (by decide) _ now) _
  | @exhausted t u ids ht hnew hbudget =>
    obtain ⟨hreadable, hroom⟩ := hregistered t ht.accepted ht.registered
    have hevicts := evicts_of_budget hbudget
    obtain ⟨hholds, hledger⟩ := hreadable.enforced (hevidence t ht) hroom.evictions hbudget
    have hrolled := hholds.rollback (mem_pending hevicts)
    have hbounded := hreadable.bounded.rollback (fresh_of_not_duplicate hnew.fresh) hevicts
    rw [storedOf_id] at hrolled
    have hready : (u.rollbackAdmission request.key (t.evidenceOf request).id).Readable := by
      obtain ⟨_, _, _, _, _, rfl⟩ := hevicts.frame
      exact { hreadable with holds := hrolled, bounded := hbounded, evictions := hledger }
    exact hready.congr
  | @accepted t u ids ht hnew hbudget =>
    obtain ⟨hreadable, hroom⟩ := hregistered t ht.accepted ht.registered
    obtain ⟨hholds, hledger⟩ := hreadable.enforced (hevidence t ht) hroom.evictions hbudget
    have hbounded := hreadable.bounded.accepted hroom.records hbudget
    have hready : u.Readable ∧ Room u.policy.limits.maxConflictGroups u.conflictTable.length 1 := by
      obtain ⟨_, _, _, _, _, rfl⟩ := (evicts_of_budget hbudget).frame
      exact ⟨{ hreadable with holds := hholds, bounded := hbounded, evictions := hledger }, hroom.conflicts⟩
    have hcounted : u.countAccepted.Readable := hready.1.congr
    exact hcounted.refreshConflict _ _ _ hready.2
  | _ => exact h.congr

/-! ### Retirements -/

/-- A tombstone with a place keeps the table within its bound. -/
theorem pushTombstone_ready (h : TombstonesReady s.policy.limits.maxTombstones s.tombstones)
    (htombstone : tombstone.WF)
    (hraise : ∀ slot ∈ s.findTombstone tombstone.key, slot.generation < tombstone.generation)
    (hroom : s.TombstoneRoom tombstone.key tombstone.retiredAt) :
    TombstonesReady s.policy.limits.maxTombstones (s.pushTombstone tombstone).tombstones := by
  have hwf := forall_insert tombstone.key h.entries htombstone
  have hsize := s.tombstones.size_insert tombstone.key tombstone
  have hbound := (size_pushTombstone tombstone h.bound hraise).mpr hroom.1
  have hpushed : (s.pushTombstone tombstone).tombstones.size ≤ (s.tombstones.insert tombstone.key tombstone).size ∧
      ∀ key found, (s.pushTombstone tombstone).tombstones.find? key = some found → found.WF := by
    rcases pushTombstone_cases hraise with hpush | ⟨oldest, _, hpush⟩
    · rw [hpush]
      exact ⟨le_rfl, hwf⟩
    · rw [hpush]
      refine ⟨length_filter_le _ _, fun key found hkept => ?_⟩
      rw [find?_erase] at hkept
      split at hkept
      · cases hkept
      · exact hwf key found hkept
  refine ⟨?_, hbound, hpushed.2⟩
  split at hsize
  · exact (hpushed.1.trans_eq hsize).trans h.size_le
  next hslot =>
    rcases lt_or_ge s.tombstones.size s.policy.limits.maxTombstones.toNat with hbelow | hfull
    · exact (hpushed.1.trans_eq hsize).trans ((hroom.2 (Option.not_isSome_iff_eq_none.mp hslot) hbelow).succ_le hbelow)
    · exact (hbound.trans hfull).trans h.size_le

theorem Readable.retire {request : RetirementRequest} (h : s.Readable) (hrequest : request.WF)
    (hfits : s.Fits (.retire request now)) : (s.retire request now).2.Readable := by
  have hrepeated : s.countRetired.Readable := h.congr
  generalize hop : s.retire request now = result
  cases s.retire_view hop with
  | refused _ => exact h.congr
  | repeated _ _ => exact hrepeated
  | @retired stream haccepted hslot hstream habove =>
    have hfence := fenceRefusal_of_raise hslot hstream habove
    obtain ⟨hroom, hconflicts⟩ := hfits haccepted hfence
    have htombstone : (s.tombstoneOf request now).WF := ⟨⟨hrequest.device, hrequest.source⟩, hrequest.generation⟩
    have hready := pushTombstone_ready (s := s.retireStream (s.tombstoneOf request now)) h.tombstones htombstone
      hslot hroom
    have hholds : (s.retireStream (s.tombstoneOf request now)).Holds := by
      refine ⟨h.holds.streams.of_insert ?_ rfl, Counted.retireStream h.holds.total _⟩
      exact (h.holds.streams.at (fun key => by simp [Stream.Ready, Stream.empty]) _).retire _ _ _
    have hbounded := (h.bounded.toRecordsWithin.retireStream (s.tombstoneOf request now)).stream
    have hpushed : ((s.retireStream (s.tombstoneOf request now)).pushTombstone
        (s.tombstoneOf request now)).countRetired.Readable := by
      obtain ⟨tombstones, dropped, hpush⟩ := s.retired_frame request now
      rw [hpush] at hready ⊢
      exact { h with
        holds := { hholds with }, bounded := { h.bounded with stream := hbounded }, tombstones := hready }
    refine hpushed.refreshConflict _ _ _ ?_
    obtain ⟨tombstones, dropped, hpush⟩ := s.retired_frame request now
    rw [hpush]
    exact hconflicts

/-! ### Other mutations -/

theorem Readable.beginDeviceIncarnation {device : DeviceIdentity} (h : s.Readable) (hdevice : device.WF)
    (hfits : s.Fits (.beginDeviceIncarnation device now)) : (s.beginDeviceIncarnation device now).2.Readable := by
  have hfresh : s.freshIncarnation = s.nextIncarnation := if_neg h.devices.next
  have hcounter : s.nextIncarnation ≠ lastIncarnation → s.nextIncarnation + 1 ≠ 0 := by
    intro hlast
    have hafter := nextAfter_ne_zero h.devices.next hlast
    rwa [nextAfter, nextSeen, if_pos (le_refl _)] at hafter
  rw [Fits, FreshRefused] at hfits
  generalize hop : s.beginDeviceIncarnation device now = result
  cases s.beginDeviceIncarnation_view hop with
  | entered hnone hbelow =>
    simp only [hnone] at hfits
    obtain ⟨hlast, hroom⟩ := hfits (not_le.mpr hbelow)
    have hentry : DeviceIncarnationEntry.WF ⟨device, s.nextIncarnation, [s.nextIncarnation]⟩ :=
      ⟨hdevice, (by decide : 1 ≤ kMaxCollectionEntries)⟩
    rw [hfresh]
    exact (h.withDevices (h.devices.enter (hcounter hlast) hentry hbelow hroom.table)).congr
  | @begun entry hsome hbelow =>
    simp only [hsome] at hfits
    obtain ⟨hlast, hroom⟩ := hfits (not_le.mpr hbelow)
    have hknown := h.devices.entries _ _ hsome
    have hupdated : DeviceIncarnationEntry.WF { entry with
        current := s.nextIncarnation
        history := sortIncarnations (entry.history ++ [s.nextIncarnation]) } :=
      ⟨hknown.device, history_room _ (not_le.mpr hbelow) (hroom.history entry hsome)⟩
    apply Readable.refreshAllConflicts
    rw [hfresh]
    exact (h.withDevices (h.devices.update (hcounter hlast) hsome hupdated)).congr
  | _ => exact h

/-- Other policy entries, then everything that follows from them. -/
theorem Readable.withSources (h : s.Readable) (hlisted : Listed (fun source => source.id.chars ≠ []) sources)
    (hascending : sourcesAscending sources) (now : Tick) :
    ((s.withSources sources).bumpPolicyRevision.refreshAllConflicts now).Readable := by
  apply Readable.refreshAllConflicts
  exact { h with
    policy := ⟨⟨hlisted.length_le, hlisted.entries, h.policy.wf.name_le⟩, hascending⟩
    holds := h.holds.of_frame ⟨rfl, rfl, rfl, rfl, rfl, rfl⟩
    bounded := { h.bounded with } }

theorem Readable.sourcesListed (h : s.Readable) : Listed (fun source => source.id.chars ≠ []) s.policy.sources :=
  ⟨h.policy.wf.sources_le, h.policy.wf.sources⟩

end Registry

theorem sourcesAscending_iff (sources : List SourcePolicy) :
    sourcesAscending sources ↔ (sources.map SourcePolicy.id).IsChain (· < ·) := by
  rw [sourcesAscending, isChain_map]

/-- Replacing an entry by one with the same key keeps the order. -/
theorem sourcesAscending.of_ids {others : List SourcePolicy} (h : sourcesAscending sources)
    (hids : others.map SourcePolicy.id = sources.map SourcePolicy.id) : sourcesAscending others := by
  rw [sourcesAscending_iff] at h ⊢
  rw [hids]
  exact h

/-- A new source sorts into its place. -/
theorem sourcesAscending.insert {entry : SourcePolicy} (h : sourcesAscending sources)
    (hnew : ∀ source ∈ sources, source.id ≠ entry.id) : sourcesAscending (sortSources (sources ++ [entry])) := by
  have hnodup : ((sortSources (sources ++ [entry])).map SourcePolicy.id).Nodup := by
    have hperm : (sortSources (sources ++ [entry])).Perm (sources ++ [entry]) := perm_insertionSort _ _
    rw [(hperm.map SourcePolicy.id).nodup_iff, map_append, nodup_append]
    refine ⟨?_, nodup_singleton _, ?_⟩
    · rw [sourcesAscending_iff, isChain_iff_pairwise] at h
      exact h.imp ne_of_lt
    · intro id hid other hother
      obtain ⟨source, hsource, rfl⟩ := mem_map.mp hid
      rw [map_singleton, mem_singleton] at hother
      rw [hother]
      exact hnew source hsource
  have hsorted : (sortSources (sources ++ [entry])).Pairwise (fun a b => a.id ≤ b.id) :=
    Scan.insertionSort_ascends SourcePolicy.id _
  rw [sourcesAscending_iff, isChain_iff_pairwise]
  rw [← pairwise_map (f := SourcePolicy.id) (R := (· ≤ ·))] at hsorted
  exact (hsorted.and hnodup).imp fun hboth => lt_of_le_of_ne hboth.1 hboth.2

namespace Registry

variable {s t u : Registry} {now : Tick}

section

variable (h : s.Readable)
include h

theorem Readable.updateSource {source : SourceId} {settled : SourcePolicy → Bool}
    {change : SourcePolicy → SourcePolicy} (hchange : ∀ entry, (change entry).id = entry.id) :
    (s.updateSource source settled change now).2.Readable := by
  generalize hop : s.updateSource source settled change now = result
  cases s.updateSource_view hop with
  | missing _ | kept _ _ => exact h
  | @changed target htarget _ =>
    have hid : target.id = source := Scan.key_of_find? SourcePolicy.id htarget
    have hmem : target ∈ s.policy.sources := mem_reverse.mp (mem_of_find?_eq_some htarget)
    have hids : (replaceFirst (fun entry => entry.id == source) (change target) s.policy.sources.reverse).reverse.map
        SourcePolicy.id = s.policy.sources.map SourcePolicy.id := by
      rw [map_reverse, map_replaceFirst SourcePolicy.id, map_reverse, reverse_reverse]
      intro entry hentry
      rw [hchange, hid]
      simpa using List.find?_some (Option.mem_def.mp hentry)
    refine h.withSources ?_ (h.policy.ascending.of_ids hids) now
    have hreversed := h.sourcesListed.perm (reverse_perm s.policy.sources)
    refine (hreversed.replaceFirst _ ?_).perm (reverse_perm _)
    rw [hchange]
    exact h.policy.wf.sources target hmem

theorem Readable.upsertSourcePolicy {policy : SourcePolicy} (hpolicy : policy.id.chars ≠ [])
    (hroom : s.Fits (.upsertSourcePolicy policy now)) : (s.upsertSourcePolicy policy now).2.Readable := by
  have hraised : policy.raised.id.chars ≠ [] := by
    rw [SourcePolicy.raised_id]
    exact hpolicy
  generalize hop : s.upsertSourcePolicy policy now = result
  cases s.upsertSourcePolicy_view hop with
  | refused => exact h
  | replaced _ =>
    refine h.withSources (h.sourcesListed.replaceFirst _ hraised) (h.policy.ascending.of_ids ?_) now
    apply map_replaceFirst SourcePolicy.id
    intro found hfound
    simpa using List.find?_some (Option.mem_def.mp hfound)
  | added hnew hbelow =>
    refine h.withSources ?_ (h.policy.ascending.insert ?_) now
    · exact (h.sourcesListed.append hraised hbelow hroom).perm (perm_insertionSort _ _)
    · intro source hsource hsame
      apply hnew
      exact any_eq_true.mpr ⟨source, hsource, beq_iff_eq.mpr hsame⟩

theorem Readable.pushResolution {resolution : ConflictResolution} (hwf : resolution.WF)
    (hroom : Room s.policy.limits.maxResolutions s.resolutionTable.length 1) :
    (s.pushResolution resolution).Readable := by
  have hlisted : Listed ConflictResolution.WF (s.pushResolution resolution).resolutionTable := by
    rw [Registry.pushResolution]
    dsimp only
    split
    · exact h.resolutions.replaceFirst _ hwf
    · by_cases hfull : s.resolutionTable.length ≥ s.policy.limits.maxResolutions.toNat
      · simp only [hfull, if_true]
        exact (h.resolutions.rotate hwf).perm (perm_insertionSort _ _)
      · simp only [hfull, if_false]
        exact (h.resolutions.append hwf (not_le.mp hfull) hroom).perm (perm_insertionSort _ _)
  obtain ⟨resolutions, dropped, hpushed⟩ := s.pushResolution_frame resolution
  rw [hpushed] at hlisted ⊢
  exact { h with
    holds := h.holds.of_frame ⟨rfl, rfl, rfl, rfl, rfl, rfl⟩, bounded := { h.bounded with }, resolutions := hlisted }

theorem Readable.resolveConflict {conflict : ConflictId} {chosen : EvidenceId} {resolver : SourceId}
    (hresolver : resolver.chars ≠ []) (hroom : s.Fits (.resolveConflict conflict chosen resolver now)) :
    (s.resolveConflict conflict chosen resolver now).2.Readable := by
  generalize hop : s.resolveConflict conflict chosen resolver now = result
  cases s.resolveConflict_view hop with
  | refused _ => exact h
  | @resolved group hgroup =>
    have hmember := h.conflicts.entries group (mem_reverse.mp (mem_of_find?_eq_some hgroup.1))
    refine (h.pushResolution ⟨?_, hresolver⟩ hroom).congr
    exact (length_filter_le _ _).trans hmember.members_le

theorem Readable.evaluate (requirement : CapabilityRequirement) (now : Tick) :
    (s.evaluate requirement now).2.Readable := by
  obtain ⟨_, _, _, _, hevaluate⟩ := s.evaluate_frame requirement now
  rw [hevaluate]
  exact h.congr

end

/-! ### Runs -/

theorem Readable.init {policy : RegistryPolicy} (h : policy.Accepted) : (Registry.init policy).Readable := by
  have hsorted : sortSources policy.sources = policy.sources := by
    have hascending := h.ascending
    rw [sourcesAscending_iff, isChain_iff_pairwise, pairwise_map] at hascending
    exact Pairwise.insertionSort_eq (hascending.imp le_of_lt)
  have hpolicy : (Registry.init policy).policy = policy := by
    rw [Registry.init, hsorted]
  have haccepted : (Registry.init policy).policy.Accepted := by
    rw [hpolicy]
    exact h
  refine ⟨haccepted, ⟨(by decide : (1 : UInt64) ≠ 0), Nat.zero_le _, ?_⟩, ⟨?_, rfl⟩,
    ⟨⟨Nat.zero_le _, ?_⟩, Nat.zero_le _⟩, ⟨Nat.zero_le _, Nat.zero_le _, ?_⟩,
    ⟨Nat.zero_le _, ?_⟩, ⟨Nat.zero_le _, ?_⟩, ⟨Nat.zero_le _, ?_⟩⟩
  · intro device entry hfind
    cases hfind
  · intro key stream hfind
    cases hfind
  · intro key
    exact Nat.zero_le _
  · intro key tombstone hfind
    cases hfind
  · intro group hgroup
    cases hgroup
  · intro resolution hresolution
    cases hresolution
  · intro entry hentry
    cases hentry

/-- A fitting mutation of the wire protocol keeps the registry readable. -/
theorem Readable.step {op : Op} (h : s.Readable) (hop : op.Wire ∧ s.Fits op) : (s.step op).Readable := by
  obtain ⟨hwire, hfits⟩ := hop
  cases op with
  | admitRequest request now => exact h.admitRequest hwire.1 hfits
  | retire request now => exact h.retire hwire.1 hfits
  | beginDeviceIncarnation device now => exact h.beginDeviceIncarnation hwire hfits
  | revokeSource source now => exact h.updateSource (fun _ => rfl)
  | restoreSource source now | setSourceAuthority source authority now => exact h.updateSource (fun _ => rfl)
  | upsertSourcePolicy policy now => exact h.upsertSourcePolicy hwire hfits
  | resolveConflict conflict chosen resolver now => exact h.resolveConflict hwire hfits
  | evaluate requirement now => exact h.evaluate requirement now
  | setDeviceIncarnation device incarnation now => exact hwire.elim
  | setRuleGeneration generation => exact hwire.elim
  | advanceEpoch | setLogicalTick now | setLimits limits | adoptState state now => exact hwire.elim

end Registry

/-- Whatever fitting mutations a registry went through, its snapshot is read back as it was, to the last byte. -/
theorem snapshot_read_back_while_fitting {policy : RegistryPolicy} (hpolicy : policy.Accepted) {ops : List Op}
    (hops : Runs.Along step (fun s op => op.Wire ∧ s.Fits op) (init policy) ops) :
    RegistryState.decode.run ((init policy).run ops).toState.encode =
      .ok (((init policy).run ops).toState, []) := by
  have hreadable : ((init policy).run ops).Readable :=
    hops.invariant (I := Readable) (fun _ _ h hop => h.step hop) (Readable.init hpolicy)
  have hread := RegistryState.roundTrip hreadable.wf []
  rwa [append_nil] at hread

namespace Lab

theorem policy_accepted : policy.Accepted := ⟨⟨by decide, by decide, by decide⟩, by decide⟩

theorem request_wf : (request 0 1 5).WF where
  device := device_wf
  source := by decide
  features := ⟨by decide, fun _ h => nomatch h⟩
  limits := ⟨by decide, fun _ h => nomatch h⟩
  generation := by decide
  window := fun _ h => nomatch h

/-- A report of the device's last incarnation. -/
def lastReport : AdmissionRequest :=
  { request 0 1 5 with device := ⟨(Lab.device 0).device, lastIncarnation⟩ }

end Lab

theorem snapshot_read_back_one_report :
    RegistryState.decode.run ((init Lab.policy).run [.admitRequest (Lab.request 0 1 5) 5]).toState.encode =
      .ok (((init Lab.policy).run [.admitRequest (Lab.request 0 1 5) 5]).toState, []) := by
  refine snapshot_read_back_while_fitting Lab.policy_accepted ⟨⟨⟨Lab.request_wf, rfl⟩, ?_⟩, trivial⟩
  intro _ _
  exact ⟨by decide, ⟨.inl (by decide), fun _ h => nomatch h⟩,
    ⟨.inl (by decide), .inl (by decide), .inl (by decide)⟩⟩

/-- A report of the last incarnation wraps the counter to zero, and a retirement that is older than every stored
    one leaves one tombstone too many. The decoder refuses both snapshots. -/
theorem snapshots_not_read_back :
    (Op.admitRequest Lab.lastReport 5).Wire ∧
    RegistryState.decode.run ((init Lab.policy).run [.admitRequest Lab.lastReport 5]).toState.encode =
      .error .rejectedZeroIncarnation ∧
    RegistryState.decode.run ((init Lab.oneTombstone).run Lab.lateRetirement).toState.encode =
      .error .storeSemanticMismatch := by
  refine ⟨⟨?_, rfl⟩, by decide +kernel, by decide +kernel⟩
  exact { Lab.request_wf with device := ⟨Lab.device_wf.device, by decide⟩ }

end Ocreg
