/-
Module: Ocreg.Codec.State
Purpose: Canonical encodings of the policy, the durable registry state and the mutation requests.
-/
import Ocreg.Codec.Evidence

namespace Ocreg

open List Decoder Reader

variable {version : Reader SemVer} {s : RegistryState} {r : CapabilityRequirement}

def kStoreFormatVersion : UInt32 := 1

def kApiGeneration : UInt32 := 1

/-! ### Policy -/

namespace SourcePolicy

def encode (p : SourcePolicy) : Bytes :=
  Writer.name p.id ++ (Writer.u16 p.kind.numeric ++ (Writer.u16 p.authority.numeric ++
    (Writer.u16 p.trust.numeric ++ (Writer.u64 p.maxAge ++ Writer.boolean p.durableAcrossBoot))))

def decode : Reader SourcePolicy := do
  let id ← name
  let kind ← enum SourceKind.ofNumeric? .rejectedMalformedDocument
  let authority ← enum AuthorityRank.ofNumeric? .rejectedMalformedDocument
  let trust ← enum SourceTrustState.ofNumeric? .rejectedMalformedDocument
  let maxAge ← u64
  let durableAcrossBoot ← boolean
  pure { id, kind, authority, trust, maxAge, durableAcrossBoot }

theorem roundTrip {p : SourcePolicy} (h : p.id.chars ≠ []) : RoundTrip encode decode p := by
  intro rest
  simp only [encode, append_assoc, decode, run_bind, name_put h,
    enum_put _ (SourceKind.ofNumeric?_numeric _), authority_put,
    enum_put _ (SourceTrustState.ofNumeric?_numeric _), u64_put, boolean_put, run_pure]

theorem decode_yields : decode.Yields (fun p => p.id.chars ≠ []) := by
  refine .bind name_yields fun id hid => ?_
  iterate 5 refine .bind_any fun _ => ?_
  exact .pure hid

end SourcePolicy

namespace RegistryLimits

def encode (l : RegistryLimits) : Bytes :=
  Writer.u64 l.maxDevices ++ (Writer.u64 l.maxIncarnationsPerDevice ++ (Writer.u64 l.maxStreams ++
    (Writer.u64 l.maxRecords ++ (Writer.u64 l.maxRecordsPerStream ++ (Writer.u64 l.maxTombstones ++
    (Writer.u64 l.maxConflictGroups ++ (Writer.u64 l.maxResolutions ++ (Writer.u64 l.maxEvictionLedger ++
    (Writer.u64 l.maxSources ++ (Writer.u64 l.maxDecisions ++ (Writer.u64 l.maxFeaturesPerRecord ++
    (Writer.u64 l.maxLimitsPerRecord ++ (Writer.u64 l.maxLimitsPerRequirement ++
    Writer.u64 l.maxRequiredFeatures)))))))))))))

/-- Narrowing to `std::size_t` loses nothing on the 64-bit targets. -/
def decode : Reader RegistryLimits := do
  let maxDevices ← u64
  let maxIncarnationsPerDevice ← u64
  let maxStreams ← u64
  let maxRecords ← u64
  let maxRecordsPerStream ← u64
  let maxTombstones ← u64
  let maxConflictGroups ← u64
  let maxResolutions ← u64
  let maxEvictionLedger ← u64
  let maxSources ← u64
  let maxDecisions ← u64
  let maxFeaturesPerRecord ← u64
  let maxLimitsPerRecord ← u64
  let maxLimitsPerRequirement ← u64
  let maxRequiredFeatures ← u64
  pure { maxDevices, maxIncarnationsPerDevice, maxStreams, maxRecords, maxRecordsPerStream, maxTombstones,
         maxConflictGroups, maxResolutions, maxEvictionLedger, maxSources, maxDecisions,
         maxFeaturesPerRecord, maxLimitsPerRecord, maxLimitsPerRequirement, maxRequiredFeatures }

theorem roundTrip (l : RegistryLimits) : RoundTrip encode decode l := by
  intro rest
  simp [encode, decode, run_bind]

end RegistryLimits

namespace RegistryPolicy

/-- Named sources and a bounded policy name. -/
structure WF (p : RegistryPolicy) : Prop where
  sources_le : p.sources.length ≤ kMaxCollectionEntries
  sources : ∀ source ∈ p.sources, source.id.chars ≠ []
  name_le : p.policyName.length ≤ 128

def encode (p : RegistryPolicy) : Bytes :=
  Writer.collection SourcePolicy.encode p.sources ++ (Writer.boolean p.requireConfiguredSource ++
    (Writer.boolean p.refuseUntrustedSources ++ (Writer.u16 p.bootPolicy.numeric ++
    (Writer.u16 p.clockMode.numeric ++ (Writer.u64 p.retentionHorizon ++ (Writer.u64 p.maxFutureSkew ++
    (Writer.u64 p.defaultMaxAge ++ (p.limits.encode ++ (Writer.u64 p.ruleGeneration ++
    Writer.str p.policyName)))))))))

def decode : Reader RegistryPolicy := do
  let sources ← bounded SourcePolicy.decode
  let requireConfiguredSource ← boolean
  let refuseUntrustedSources ← boolean
  let bootPolicy ← enum BootPolicy.ofNumeric? .rejectedMalformedDocument
  let clockMode ← enum ClockMode.ofNumeric? .rejectedMalformedDocument
  let retentionHorizon ← u64
  let maxFutureSkew ← u64
  let defaultMaxAge ← u64
  let limits ← RegistryLimits.decode
  let ruleGeneration ← u64
  let policyName ← str
  ensure (policyName.length ≤ 128) .rejectedOversizedInput
  pure { sources, requireConfiguredSource, refuseUntrustedSources, bootPolicy, clockMode, retentionHorizon,
         maxFutureSkew, defaultMaxAge, limits, ruleGeneration, policyName }

theorem roundTrip {p : RegistryPolicy} (h : p.WF) : RoundTrip encode decode p := by
  intro rest
  have hsources : ∀ source ∈ p.sources, RoundTrip SourcePolicy.encode SourcePolicy.decode source :=
    fun source hsource => SourcePolicy.roundTrip (h.sources source hsource)
  have hname : p.policyName.length < 2 ^ 32 := by
    have hle := h.name_le
    omega
  simp only [encode, append_assoc, decode, run_bind, bounded_put hsources h.sources_le,
    boolean_put, enum_put _ (BootPolicy.ofNumeric?_numeric _),
    enum_put _ (ClockMode.ofNumeric?_numeric _), u64_put, (RegistryLimits.roundTrip _).apply,
    str_put hname, ensure_of _ _ h.name_le, run_pure]

theorem decode_yields : decode.Yields WF := by
  refine .bind (collection_yields SourcePolicy.decode_yields _ _) fun sources hsources => ?_
  iterate 10 refine .bind_any fun _ => ?_
  exact .ensure fun hname => .pure ⟨hsources.1, hsources.2, hname⟩

end RegistryPolicy

/-! ### Durable state -/

namespace RegistryCounters

def encode (c : RegistryCounters) : Bytes :=
  Writer.u64 c.admissionsAccepted ++ (Writer.u64 c.admissionsIdempotent ++ (Writer.u64 c.admissionsRejected ++
    (Writer.u64 c.retirementsAccepted ++ (Writer.u64 c.retirementsRejected ++ (Writer.u64 c.decisionsEmitted ++
    (Writer.u64 c.decisionsEvicted ++ (Writer.u64 c.conflictsResolved ++ (Writer.u64 c.evictionsTotal ++
    (Writer.u64 c.evictionLedgerDropped ++ (Writer.u64 c.conflictsDropped ++ (Writer.u64 c.resolutionsDropped ++
    Writer.u64 c.tombstonesDropped)))))))))))

def decode : Reader RegistryCounters := do
  let admissionsAccepted ← u64
  let admissionsIdempotent ← u64
  let admissionsRejected ← u64
  let retirementsAccepted ← u64
  let retirementsRejected ← u64
  let decisionsEmitted ← u64
  let decisionsEvicted ← u64
  let conflictsResolved ← u64
  let evictionsTotal ← u64
  let evictionLedgerDropped ← u64
  let conflictsDropped ← u64
  let resolutionsDropped ← u64
  let tombstonesDropped ← u64
  pure { admissionsAccepted, admissionsIdempotent, admissionsRejected, retirementsAccepted,
         retirementsRejected, decisionsEmitted, decisionsEvicted, conflictsResolved, evictionsTotal,
         evictionLedgerDropped, conflictsDropped, resolutionsDropped, tombstonesDropped }

theorem roundTrip (c : RegistryCounters) : RoundTrip encode decode c := by
  intro rest
  simp [encode, decode, run_bind]

end RegistryCounters

namespace DeviceIncarnationEntry

structure WF (e : DeviceIncarnationEntry) : Prop where
  device : e.device.WF
  history_le : e.history.length ≤ kMaxCollectionEntries

def encode (e : DeviceIncarnationEntry) : Bytes :=
  e.device.encode ++ (Writer.u64 e.current ++ Writer.collection Writer.u64 e.history)

def decode : Reader DeviceIncarnationEntry := do
  let device ← DeviceIdentity.decode
  let current ← u64
  let history ← bounded u64
  pure { device, current, history }

theorem roundTrip {e : DeviceIncarnationEntry} (h : e.WF) : RoundTrip encode decode e := by
  intro rest
  simp [encode, decode, run_bind, (DeviceIdentity.roundTrip h.device).apply,
    bounded_put (fun (v : UInt64) (_ : v ∈ e.history) => u64_put v) h.history_le]

theorem decode_yields : decode.Yields WF := by
  refine .bind DeviceIdentity.decode_yields fun device hdevice => .bind_any fun _ => ?_
  exact .bind (collection_yields (P := fun _ => True) (fun _ _ _ _ => trivial) _ _)
    (fun history hhistory => .pure ⟨hdevice, hhistory.1⟩)

end DeviceIncarnationEntry

/-- Source ids strictly increase. -/
def sourcesAscending (sources : List SourcePolicy) : Prop := sources.IsChain (fun a b => a.id < b.id)

instance (sources : List SourcePolicy) : Decidable (sourcesAscending sources) :=
  inferInstanceAs (Decidable (sources.IsChain _))

namespace RegistryState

/-- The states the decoder accepts: every part well formed, every collection within the common bound, and
    contents within the bounds the policy declares. -/
structure WF (s : RegistryState) : Prop where
  policy : s.policy.WF
  next_incarnation : s.nextIncarnation ≠ 0
  incarnations_le : s.incarnations.length ≤ kMaxCollectionEntries
  incarnations : ∀ entry ∈ s.incarnations, entry.WF
  records_le : s.records.length ≤ kMaxCollectionEntries
  records : ∀ record ∈ s.records, record.WF
  tombstones_le : s.tombstones.length ≤ kMaxCollectionEntries
  tombstones : ∀ tombstone ∈ s.tombstones, tombstone.WF
  conflicts_le : s.conflicts.length ≤ kMaxCollectionEntries
  conflicts : ∀ group ∈ s.conflicts, group.WF
  resolutions_le : s.resolutions.length ≤ kMaxCollectionEntries
  resolutions : ∀ resolution ∈ s.resolutions, resolution.WF
  evictions_le : s.evictions.length ≤ kMaxCollectionEntries
  evictions : ∀ entry ∈ s.evictions, entry.key.WF
  records_bound : s.records.length ≤ s.policy.limits.maxRecords.toNat
  tombstones_bound : s.tombstones.length ≤ s.policy.limits.maxTombstones.toNat
  sources : sourcesAscending s.policy.sources

def encode (s : RegistryState) : Bytes :=
  Writer.u32 kStoreFormatVersion ++ (s.policy.encode ++ (Writer.u64 s.epoch ++ (Writer.u64 s.ruleGeneration ++
    (Writer.u64 s.policyRevision ++ (Writer.u64 s.bootEpoch ++ (Writer.u64 s.storeGeneration ++
    (Writer.u64 s.logicalTick ++ (Writer.u64 s.nextIncarnation ++
    (Writer.collection DeviceIncarnationEntry.encode s.incarnations ++
    (Writer.collection StoredEvidence.encode s.records ++
    (Writer.collection RetirementRecord.encode s.tombstones ++
    (Writer.collection ConflictGroup.encode s.conflicts ++
    (Writer.collection ConflictResolution.encode s.resolutions ++
    (Writer.collection EvictionEntry.encode s.evictions ++ s.counters.encode))))))))))))))

/-- The state decoder, over the reader it uses for versions. -/
def decodeWith (version : Reader SemVer) : Reader RegistryState := do
  let format ← u32
  ensure (format = kStoreFormatVersion) .storeVersionIncompatible
  let policy ← RegistryPolicy.decode
  let epoch ← u64
  let ruleGeneration ← u64
  let policyRevision ← u64
  let bootEpoch ← u64
  let storeGeneration ← u64
  let logicalTick ← u64
  let nextIncarnation ← u64
  ensure (nextIncarnation ≠ 0) .rejectedZeroIncarnation
  let incarnations ← bounded DeviceIncarnationEntry.decode
  let records ← bounded (StoredEvidence.decodeWith version)
  let tombstones ← bounded RetirementRecord.decode
  let conflicts ← bounded ConflictGroup.decode
  let resolutions ← bounded ConflictResolution.decode
  let evictions ← bounded EvictionEntry.decode
  let counters ← RegistryCounters.decode
  -- a state whose declared bounds cannot hold its own contents is not a valid state
  ensure (records.length ≤ policy.limits.maxRecords.toNat) .storeSemanticMismatch
  ensure (tombstones.length ≤ policy.limits.maxTombstones.toNat) .storeSemanticMismatch
  ensure (sourcesAscending policy.sources) .storeSemanticMismatch
  pure { policy, epoch, ruleGeneration, policyRevision, bootEpoch, storeGeneration, logicalTick,
         nextIncarnation, incarnations, records, tombstones, conflicts, resolutions, evictions, counters }

def decode : Reader RegistryState := decodeWith SemVer.decode

theorem decodeWith_roundTrip (hversion : ∀ v, RoundTrip SemVer.encode version v) (h : s.WF) :
    RoundTrip encode (decodeWith version) s := by
  intro rest
  simp only [encode, append_assoc, decodeWith, run_bind, u32_put, ensure_of _ _ trivial,
    (RegistryPolicy.roundTrip h.policy).apply, u64_put, ensure_of _ _ h.next_incarnation,
    bounded_put (fun e he => DeviceIncarnationEntry.roundTrip (h.incarnations e he)) h.incarnations_le,
    bounded_put (fun r hr => StoredEvidence.decodeWith_roundTrip hversion (h.records r hr)) h.records_le,
    bounded_put (fun t ht => RetirementRecord.roundTrip (h.tombstones t ht)) h.tombstones_le,
    bounded_put (fun g hg => ConflictGroup.roundTrip (h.conflicts g hg)) h.conflicts_le,
    bounded_put (fun r hr => ConflictResolution.roundTrip (h.resolutions r hr)) h.resolutions_le,
    bounded_put (fun e he => EvictionEntry.roundTrip (h.evictions e he)) h.evictions_le,
    (RegistryCounters.roundTrip _).apply, ensure_of _ _ h.records_bound,
    ensure_of _ _ h.tombstones_bound, ensure_of _ _ h.sources, run_pure]

theorem roundTrip (h : s.WF) : RoundTrip encode decode s :=
  decodeWith_roundTrip SemVer.roundTrip h

theorem decodeWith_yields (version : Reader SemVer) : (decodeWith version).Yields WF := by
  refine .bind_any fun _ => .bind_any fun _ => ?_
  refine .bind RegistryPolicy.decode_yields fun policy hpolicy => ?_
  iterate 7 refine .bind_any fun _ => ?_
  refine .ensure fun hnext => ?_
  refine .bind (collection_yields DeviceIncarnationEntry.decode_yields _ _) fun _ hinc => ?_
  refine .bind (collection_yields (StoredEvidence.decodeWith_yields version) _ _) fun _ hrecords => ?_
  refine .bind (collection_yields RetirementRecord.decode_yields _ _) fun _ htombs => ?_
  refine .bind (collection_yields ConflictGroup.decode_yields _ _) fun _ hconflicts => ?_
  refine .bind (collection_yields ConflictResolution.decode_yields _ _) fun _ hres => ?_
  refine .bind (collection_yields EvictionEntry.decode_yields _ _) fun _ hevictions => ?_
  refine .bind_any fun _ => .ensure fun hrecordsBound => ?_
  refine .ensure fun htombsBound => ?_
  refine .ensure fun hsources => .pure ?_
  exact ⟨hpolicy, hnext, hinc.1, hinc.2, hrecords.1, hrecords.2, htombs.1, htombs.2, hconflicts.1,
    hconflicts.2, hres.1, hres.2, hevictions.1, hevictions.2, hrecordsBound, htombsBound, hsources⟩

end RegistryState

/-- Digest of the canonical encoding of a state. -/
def stateDigest (s : RegistryState) : Digest256 := Digest256.of s.encode

/-! ### Requests -/

namespace AdmissionRequest

/-- The requests the wire decoder accepts. Membership of features and limits in the kind is left to
    admission. -/
structure WF (r : AdmissionRequest) : Prop where
  device : r.device.WF
  source : r.source.source.chars ≠ []
  features : r.features.WF
  limits : r.limits.WF
  generation : r.generation ≠ 0
  window : ∀ tick ∈ r.validUntil, ¬ tick < r.observedAt

def encode (r : AdmissionRequest) : Bytes :=
  r.device.encode ++ (Writer.u16 r.kind.code ++ (r.source.encode ++ (r.capabilityVersion.encode ++
    (r.features.encode ++ (r.limits.encode ++ (Writer.optional SemVer.encode r.firmwareVersion ++
    (Writer.u64 r.firmwareGeneration ++ (Writer.optional SemVer.encode r.runtimeVersion ++
    (Writer.u64 r.runtimeGeneration ++ (Writer.u64 r.observedAt ++ (Writer.optional Writer.u64 r.validUntil ++
    Writer.u64 r.generation)))))))))))

def decodeWith (version : Reader SemVer) : Reader AdmissionRequest := do
  let device ← DeviceIncarnationRef.decode
  let kind ← decodeKind
  let source ← SourceIncarnation.decode
  let capabilityVersion ← version
  let features ← FeatureSet.decode
  let limits ← LimitSet.decode
  let firmwareVersion ← optional version
  let firmwareGeneration ← u64
  let runtimeVersion ← optional version
  let runtimeGeneration ← u64
  let observedAt ← u64
  let validUntil ← optional u64
  let generation ← u64
  ensure (generation ≠ 0) .rejectedGenerationRegression
  ensure (∀ tick ∈ validUntil, ¬ tick < observedAt) .rejectedValidityWindowInverted
  pure { device, kind, source, capabilityVersion, features, limits, firmwareVersion, firmwareGeneration,
         runtimeVersion, runtimeGeneration, observedAt, validUntil, generation }

def decode : Reader AdmissionRequest := decodeWith SemVer.decode

theorem decodeWith_roundTrip (hversion : ∀ v, RoundTrip SemVer.encode version v) {r : AdmissionRequest} (h : r.WF) :
    RoundTrip encode (decodeWith version) r := by
  intro rest
  simp only [encode, append_assoc, decodeWith, run_bind,
    (DeviceIncarnationRef.roundTrip h.device).apply, decodeKind_put, (SourceIncarnation.roundTrip h.source).apply,
    (hversion _).apply, (FeatureSet.roundTrip h.features).apply, (LimitSet.roundTrip h.limits).apply,
    optionalVersion_put hversion, u64_put, optionalU64_put, ensure_of _ _ h.generation,
    ensure_of _ _ h.window, run_pure]

theorem roundTrip {r : AdmissionRequest} (h : r.WF) : RoundTrip encode decode r :=
  decodeWith_roundTrip SemVer.roundTrip h

theorem decodeWith_yields (version : Reader SemVer) : (decodeWith version).Yields WF := by
  refine .bind DeviceIncarnationRef.decode_yields fun device hdevice => .bind_any fun _ => ?_
  refine .bind SourceIncarnation.decode_yields fun source hsource => .bind_any fun _ => ?_
  refine .bind FeatureSet.decode_yields fun features hfeatures => ?_
  refine .bind LimitSet.decode_yields fun limits hlimits => ?_
  iterate 7 refine .bind_any fun _ => ?_
  refine .ensure fun hgeneration => ?_
  refine .ensure fun hwindow => .pure ?_
  exact ⟨hdevice, hsource, hfeatures, hlimits, hgeneration, hwindow⟩

theorem decode_yields : decode.Yields WF := decodeWith_yields SemVer.decode

end AdmissionRequest

namespace RetirementRequest

structure WF (r : RetirementRequest) : Prop where
  device : r.device.WF
  source : r.source.chars ≠ []
  generation : r.generation ≠ 0

def encode (r : RetirementRequest) : Bytes :=
  r.device.encode ++ (Writer.u16 r.kind.code ++ (Writer.name r.source ++ (Writer.u64 r.generation ++
    (Writer.u64 r.retiredAt ++ Writer.reason r.reason))))

def decode : Reader RetirementRequest := do
  let device ← DeviceIncarnationRef.decode
  let kind ← decodeKind
  let source ← Reader.name
  let generation ← u64
  let retiredAt ← u64
  let reason ← Reader.reason
  ensure (generation ≠ 0) .rejectedGenerationRegression
  pure { device, kind, source, generation, retiredAt, reason }

theorem roundTrip {r : RetirementRequest} (h : r.WF) : RoundTrip encode decode r := by
  intro rest
  simp [encode, decode, run_bind, (DeviceIncarnationRef.roundTrip h.device).apply, name_put h.source, h.generation]

theorem decode_yields : decode.Yields WF := by
  refine .bind DeviceIncarnationRef.decode_yields fun device hdevice => .bind_any fun _ => ?_
  refine .bind name_yields fun source hsource => .bind_any fun generation => ?_
  refine .bind_any fun _ => .bind_any fun _ => ?_
  exact .ensure fun hgeneration => .pure ⟨hdevice, hsource, hgeneration⟩

end RetirementRequest

/-! ### Requirements -/

structure LimitRequirement.WF (limit : LimitRequirement) : Prop where
  nonneg : 0 ≤ limit.minimum
  unit_valid : unitValidForLimit limit.code limit.unit = true

def LimitRequirement.encode (limit : LimitRequirement) : Bytes :=
  Writer.u32 limit.code ++ (limit.unit.encode ++ Writer.i64 limit.minimum)

def LimitRequirement.decode : Reader LimitRequirement := do
  let (code, unit, minimum) ← decodeLimitParts
  pure ⟨code, unit, minimum⟩

theorem LimitRequirement.roundTrip {limit : LimitRequirement} (h : limit.WF) : RoundTrip encode decode limit := by
  intro rest
  simp [encode, decode, run_bind, decodeLimitParts_put h.nonneg h.unit_valid]

theorem LimitRequirement.decode_yields : LimitRequirement.decode.Yields LimitRequirement.WF :=
  .bind decodeLimitParts_yields (fun _ h => .pure ⟨h.1, h.2⟩)

namespace CapabilityRequirement

/-- The requirements the wire decoder accepts. -/
structure WF (r : CapabilityRequirement) : Prop where
  device : r.device.WF
  features : r.requiredFeatures.WF
  limits_le : r.requiredLimits.length ≤ kMaxLimitsPerRecord
  limits : ∀ limit ∈ r.requiredLimits, limit.WF
  limits_sorted : Scan.SortedBy LimitRequirement.code r.requiredLimits
  features_allowed : ∀ code ∈ r.requiredFeatures.codes, featureAllowedFor code r.capability = true
  limits_allowed : ∀ limit ∈ r.requiredLimits, limitAllowedFor limit.code r.capability = true

def encode (r : CapabilityRequirement) : Bytes :=
  r.device.encode ++ (Writer.u16 r.capability.code ++ (r.version.minimum.encode ++
    (Writer.optional SemVer.encode r.version.maximumExclusive ++ (r.requiredFeatures.encode ++
    (Writer.collection LimitRequirement.encode r.requiredLimits ++
    (Writer.optional SemVer.encode r.minimumFirmwareVersion ++
    (Writer.optional Writer.u64 r.minimumFirmwareGeneration ++
    (Writer.optional SemVer.encode r.minimumRuntimeVersion ++
    (Writer.optional Writer.u64 r.minimumRuntimeGeneration ++ Writer.u64 r.maxEvidenceAge)))))))))

def decodeWith (version : Reader SemVer) : Reader CapabilityRequirement := do
  let device ← DeviceIncarnationRef.decode
  let capability ← decodeKind
  let minimum ← version
  let maximumExclusive ← optional version
  let requiredFeatures ← FeatureSet.decode
  let limitCount ← u32
  ensure (limitCount.toNat ≤ kMaxLimitsPerRecord) .rejectedLimitBudgetExceeded
  let requiredLimits ← repeatAscending LimitRequirement.decode LimitRequirement.code .rejectedDuplicateKey
    limitCount.toNat none
  let minimumFirmwareVersion ← optional version
  let minimumFirmwareGeneration ← optional u64
  let minimumRuntimeVersion ← optional version
  let minimumRuntimeGeneration ← optional u64
  let maxEvidenceAge ← u64
  ensure (∀ code ∈ requiredFeatures.codes, featureAllowedFor code capability = true) .rejectedFeatureNotInKind
  ensure (∀ limit ∈ requiredLimits, limitAllowedFor limit.code capability = true) .rejectedLimitNotInKind
  pure { device, capability, version := ⟨minimum, maximumExclusive⟩, requiredFeatures, requiredLimits,
         minimumFirmwareVersion, minimumFirmwareGeneration, minimumRuntimeVersion,
         minimumRuntimeGeneration, maxEvidenceAge }

def decode : Reader CapabilityRequirement := decodeWith SemVer.decode

theorem decodeWith_roundTrip (hversion : ∀ v, RoundTrip SemVer.encode version v) (h : r.WF) :
    RoundTrip encode (decodeWith version) r := by
  intro rest
  have hcount : (UInt32.ofNat r.requiredLimits.length).toNat = r.requiredLimits.length :=
    UInt32.toNat_ofNat_of_lt' (h.limits_le.trans_lt (by decide))
  have hlimits := repeatAscending_roundTrip ReasonCode.rejectedDuplicateKey none
    (fun limit hlimit => LimitRequirement.roundTrip (h.limits limit hlimit)) h.limits_sorted (by simp)
  simp only [encode, Writer.collection, append_assoc, decodeWith, run_bind,
    (DeviceIncarnationRef.roundTrip h.device).apply, decodeKind_put, (hversion _).apply,
    optionalVersion_put hversion, (FeatureSet.roundTrip h.features).apply, u32_put,
    ensure_of _ _ h.limits_le, hcount, hlimits.apply, optionalU64_put, u64_put,
    ensure_of _ _ h.features_allowed, ensure_of _ _ h.limits_allowed, run_pure]

theorem roundTrip (h : r.WF) : RoundTrip encode decode r :=
  decodeWith_roundTrip SemVer.roundTrip h

theorem decodeWith_yields (version : Reader SemVer) : (decodeWith version).Yields WF := by
  refine .bind DeviceIncarnationRef.decode_yields fun device hdevice => ?_
  iterate 3 refine .bind_any fun _ => ?_
  refine .bind FeatureSet.decode_yields fun features hfeatures => .bind_any fun count => ?_
  refine .ensure fun hcount => ?_
  refine .bind (repeatAscending_yields LimitRequirement.decode_yields _ _) fun limits hlimits => ?_
  iterate 5 refine .bind_any fun _ => ?_
  refine .ensure fun hfeaturesAllowed => ?_
  refine .ensure fun hlimitsAllowed => .pure ?_
  exact ⟨hdevice, hfeatures, hlimits.1.trans_le hcount, hlimits.2.1, hlimits.2.2.1, hfeaturesAllowed, hlimitsAllowed⟩

theorem decode_yields : decode.Yields WF := decodeWith_yields SemVer.decode

end CapabilityRequirement

end Ocreg
