/-
Module: Ocreg.Model.Registry
Purpose: Policies, requests, outcomes, decisions and the durable state of a registry.
-/
import Ocreg.Model.Evidence

namespace Ocreg

/-! ### Policy -/

/-- How loaded evidence is treated after a restart. -/
inductive BootPolicy where
  | conservativeFence | carryForwardWithinFreshness
deriving DecidableEq

def BootPolicy.numeric : BootPolicy → UInt16
  | .conservativeFence => 1
  | .carryForwardWithinFreshness => 2

def BootPolicy.ofNumeric? (raw : UInt16) : Option BootPolicy :=
  [.conservativeFence, .carryForwardWithinFreshness].find? (fun policy => numeric policy == raw)

@[simp] theorem BootPolicy.ofNumeric?_numeric (policy : BootPolicy) : ofNumeric? policy.numeric = some policy := by
  cases policy <;> rfl

inductive ClockMode where
  | manual | systemMonotonic
deriving DecidableEq

def ClockMode.numeric : ClockMode → UInt16
  | .manual => 1
  | .systemMonotonic => 2

def ClockMode.ofNumeric? (raw : UInt16) : Option ClockMode :=
  [.manual, .systemMonotonic].find? (fun mode => numeric mode == raw)

@[simp] theorem ClockMode.ofNumeric?_numeric (mode : ClockMode) : ofNumeric? mode.numeric = some mode := by
  cases mode <;> rfl

/-- Hard upper bounds. -/
structure RegistryLimits where
  maxDevices : UInt64 := 4096
  maxIncarnationsPerDevice : UInt64 := 64
  maxStreams : UInt64 := 65536
  maxRecords : UInt64 := 262144
  maxRecordsPerStream : UInt64 := 64
  maxTombstones : UInt64 := 65536
  maxConflictGroups : UInt64 := 16384
  maxResolutions : UInt64 := 16384
  maxEvictionLedger : UInt64 := 65536
  maxSources : UInt64 := 1024
  maxDecisions : UInt64 := 8192
  maxFeaturesPerRecord : UInt64 := 64
  maxLimitsPerRecord : UInt64 := 64
  maxLimitsPerRequirement : UInt64 := 64
  maxRequiredFeatures : UInt64 := 64
deriving DecidableEq

/-- What a policy says of one source. -/
structure SourcePolicy where
  id : SourceId
  kind : SourceKind
  authority : AuthorityRank
  trust : SourceTrustState
  /-- Evidence older than this is stale; zero falls back to the policy default. -/
  maxAge : Tick
  durableAcrossBoot : Bool
deriving DecidableEq

/-- `RegistryPolicy`. -/
structure RegistryPolicy where
  sources : List SourcePolicy := []
  requireConfiguredSource : Bool := true
  refuseUntrustedSources : Bool := true
  bootPolicy : BootPolicy := .conservativeFence
  clockMode : ClockMode := .manual
  retentionHorizon : Tick := 0
  maxFutureSkew : Tick := 0
  defaultMaxAge : Tick := 0
  limits : RegistryLimits := {}
  ruleGeneration : RuleGeneration := 1
  policyName : Bytes := []
deriving DecidableEq

/-- First policy entry of a source. -/
def RegistryPolicy.findSource (policy : RegistryPolicy) (id : SourceId) : Option SourcePolicy :=
  policy.sources.find? (fun source => source.id == id)

/-- Policy entries by source id; the order in which `std::sort` leaves them. -/
def sortSources (sources : List SourcePolicy) : List SourcePolicy :=
  sources.insertionSort (fun a b => a.id ≤ b.id)

/-! ### Requests and outcomes -/

/-- A report to admit. -/
structure AdmissionRequest where
  device : DeviceIncarnationRef
  kind : CapabilityKind
  source : SourceIncarnation
  capabilityVersion : SemVer
  features : FeatureSet
  limits : LimitSet
  firmwareVersion : Option SemVer
  firmwareGeneration : FirmwareGeneration
  runtimeVersion : Option SemVer
  runtimeGeneration : RuntimeGeneration
  observedAt : Tick
  validUntil : Option Tick
  generation : RecordGeneration
deriving DecidableEq

/-- What an admission reports. -/
structure AdmissionOutcome where
  id : EvidenceId
  state : EvidenceState := .rejected
  reason : ReasonCode := .ok
  idempotent : Bool := false
  /-- Records demoted by this admission. -/
  superseded : List EvidenceId := []
  /-- Records evicted by a bound while applying this admission. -/
  evicted : List EvidenceId := []
  conflict : Option ConflictId := none
  streamGeneration : RecordGeneration := 0
  conflictsOpened : UInt64 := 0
deriving DecidableEq

/-- A stream to retire. -/
structure RetirementRequest where
  device : DeviceIncarnationRef
  kind : CapabilityKind
  source : SourceId
  generation : RecordGeneration
  retiredAt : Tick
  reason : ReasonCode
deriving DecidableEq

/-- What a retirement reports. -/
structure RetirementOutcome where
  key : EvidenceKey
  generation : RecordGeneration
  reason : ReasonCode := .ok
  idempotent : Bool := false
  retired : List EvidenceId := []
  evicted : List EvidenceId := []
deriving DecidableEq

structure CapabilityQuery where
  device : DeviceIncarnationRef
  kind : CapabilityKind
  /-- Zero means the freshness bound of the source policy. -/
  maxEvidenceAge : Tick := 0
  includeHistory : Bool := false
deriving DecidableEq

/-! ### Requirements and decisions -/

inductive DecisionKind where
  | compatible | incompatible | unknown | conflicted
deriving DecidableEq

def DecisionKind.numeric : DecisionKind → UInt16
  | .compatible => 1
  | .incompatible => 2
  | .unknown => 3
  | .conflicted => 4

def DecisionKind.ofNumeric? (raw : UInt16) : Option DecisionKind :=
  [.compatible, .incompatible, .unknown, .conflicted].find? (fun kind => numeric kind == raw)

@[simp] theorem DecisionKind.ofNumeric?_numeric (kind : DecisionKind) : ofNumeric? kind.numeric = some kind := by
  cases kind <;> rfl

structure LimitRequirement where
  code : LimitCode
  unit : PhysicalUnit
  minimum : Int64
deriving DecidableEq

/-- What a caller needs from a device incarnation. -/
structure CapabilityRequirement where
  device : DeviceIncarnationRef
  capability : CapabilityKind
  version : VersionRequirement
  requiredFeatures : FeatureSet
  requiredLimits : List LimitRequirement
  minimumFirmwareVersion : Option SemVer
  minimumFirmwareGeneration : Option FirmwareGeneration
  minimumRuntimeVersion : Option SemVer
  minimumRuntimeGeneration : Option RuntimeGeneration
  /-- Zero means the freshness bound of the source policy. -/
  maxEvidenceAge : Tick
deriving DecidableEq

/-- A derived fact about one record at one tick. -/
structure EvidenceStateFact where
  id : EvidenceId
  lifecycle : EvidenceLifecycle
  state : EvidenceState
  reason : ReasonCode
  observedAt : Tick
  age : Tick
  authority : AuthorityRank
  generation : RecordGeneration
  sourceIncarnation : SourceIncarnation
  capabilityVersion : SemVer
  features : FeatureSet
  limits : LimitSet
  firmwareVersion : Option SemVer
  runtimeVersion : Option SemVer
deriving DecidableEq

/-- The registry's answer, with everything needed to justify it. -/
structure CompatibilityDecision where
  id : DecisionId
  kind : DecisionKind
  device : DeviceIncarnationRef
  capability : CapabilityKind
  requirement : CapabilityRequirement
  reasons : List ReasonCode
  evidence : List EvidenceId
  evidenceFacts : List EvidenceStateFact
  selected : Option EvidenceId
  conflict : Option ConflictId
  selectedAuthority : AuthorityRank
  ruleGeneration : RuleGeneration
  registryEpoch : RegistryEpoch
  policyRevision : PolicyRevision
  evaluatedAt : Tick
deriving DecidableEq

/-- The answer to a query. -/
structure QueryResult where
  kind : DecisionKind
  device : DeviceIncarnationRef
  kindRequested : CapabilityKind
  reasons : List ReasonCode
  facts : List EvidenceStateFact
  selected : Option EvidenceId
  conflict : Option ConflictId
  ruleGeneration : RuleGeneration
  registryEpoch : RegistryEpoch
  policyRevision : PolicyRevision
  evaluatedAt : Tick
deriving DecidableEq

structure Explanation where
  decision : CompatibilityDecision
  involvedSources : List SourcePolicy
  conflict : Option ConflictGroup
  resolution : Option ConflictResolution
  decisionAvailable : Bool
  reason : ReasonCode
deriving DecidableEq

/-! ### Durable state -/

structure DeviceIncarnationEntry where
  device : DeviceIdentity
  current : IncarnationId
  history : List IncarnationId
deriving DecidableEq

structure RegistryCounters where
  admissionsAccepted : UInt64 := 0
  admissionsIdempotent : UInt64 := 0
  admissionsRejected : UInt64 := 0
  retirementsAccepted : UInt64 := 0
  retirementsRejected : UInt64 := 0
  decisionsEmitted : UInt64 := 0
  decisionsEvicted : UInt64 := 0
  conflictsResolved : UInt64 := 0
  evictionsTotal : UInt64 := 0
  evictionLedgerDropped : UInt64 := 0
  conflictsDropped : UInt64 := 0
  resolutionsDropped : UInt64 := 0
  tombstonesDropped : UInt64 := 0
deriving DecidableEq

/-- Full durable state of a registry. -/
structure RegistryState where
  policy : RegistryPolicy := {}
  epoch : RegistryEpoch := 0
  ruleGeneration : RuleGeneration := 0
  policyRevision : PolicyRevision := 0
  bootEpoch : BootEpoch := 0
  storeGeneration : StoreGeneration := 0
  logicalTick : Tick := 0
  nextIncarnation : UInt64 := 1
  incarnations : List DeviceIncarnationEntry := []
  records : List StoredEvidence := []
  tombstones : List RetirementRecord := []
  conflicts : List ConflictGroup := []
  resolutions : List ConflictResolution := []
  evictions : List EvictionEntry := []
  counters : RegistryCounters := {}
deriving DecidableEq

structure RegistryStats where
  devices : UInt64
  incarnations : UInt64
  streams : UInt64
  recordsTotal : UInt64
  recordsActive : UInt64
  recordsSuperseded : UInt64
  recordsRetired : UInt64
  recordsRejected : UInt64
  recordsFenced : UInt64
  recordsStale : UInt64
  recordsOutranked : UInt64
  recordsEvicted : UInt64
  conflictsOpen : UInt64
  conflictsResolved : UInt64
  tombstones : UInt64
  resolutions : UInt64
  evictionLedgerDropped : UInt64
  conflictsDropped : UInt64
  resolutionsDropped : UInt64
  tombstonesDropped : UInt64
  decisionsEmitted : UInt64
  decisionsEvicted : UInt64
  admissionsAccepted : UInt64
  admissionsIdempotent : UInt64
  admissionsRejected : UInt64
  retirementsAccepted : UInt64
  retirementsRejected : UInt64
  registryEpoch : RegistryEpoch
  ruleGeneration : RuleGeneration
  policyRevision : PolicyRevision
  bootEpoch : BootEpoch
  logicalTick : Tick
deriving DecidableEq

/-- Classification of a recovery. -/
inductive RecoveryClass where
  | cleanOpen | tornTailTruncated | trailingCorruptDropped | rebuiltFromSnapshot | journalReplayed | refused
deriving DecidableEq

structure RecoverySummary where
  classification : RecoveryClass := .cleanOpen
  reason : ReasonCode := .recoveryCleanOpen
  recordsAdopted : UInt64 := 0
  recordsFenced : UInt64 := 0
  recordsCarriedForward : UInt64 := 0
  tombstonesAdopted : UInt64 := 0
  conflictsAdopted : UInt64 := 0
  resolutionsAdopted : UInt64 := 0
  evictionsAdopted : UInt64 := 0
  journalRecordsReplayed : UInt64 := 0
  journalRecordsDropped : UInt64 := 0
  bytesDiscarded : UInt64 := 0
  snapshotGeneration : UInt64 := 0
  previousBootEpoch : BootEpoch := 0
  bootEpoch : BootEpoch := 0
  notes : List ReasonCode := []
deriving DecidableEq

/-! ### Export -/

structure ExportOptions where
  includeHistory : Bool := true
  includeRejected : Bool := true
  includeEvictions : Bool := true
  includePolicy : Bool := true
  pretty : Bool := false
  maxRecords : UInt64 := 262144
  maxBytes : UInt64 := 67108864
deriving DecidableEq

structure ExportResult where
  document : Bytes := []
  digest : Digest256 := .zero
  recordsWritten : UInt64 := 0
  tombstonesWritten : UInt64 := 0
  conflictsWritten : UInt64 := 0
  evictionsWritten : UInt64 := 0
  truncated : Bool := false
  notes : List ReasonCode := []
deriving DecidableEq

end Ocreg
