/-
Module: Ocreg.Model.Evidence
Purpose: Evidence, provenance and lifecycle data: identities with their canonical orders, the asserted
  record, the registry's own bookkeeping around it, tombstones, conflicts, resolutions and evictions.
-/
import Ocreg.Core.Catalog
import Ocreg.Lib.SortedMap

namespace Ocreg

abbrev RegistryEpoch := UInt64
abbrev RuleGeneration := UInt64
abbrev StoreGeneration := UInt64
abbrev BootEpoch := UInt64
abbrev IncarnationId := UInt64
abbrev SourceIncarnationCounter := UInt64
abbrev RecordGeneration := UInt64
abbrev Tick := UInt64
abbrev PolicyRevision := UInt64
abbrev FirmwareGeneration := UInt64
abbrev RuntimeGeneration := UInt64

abbrev EvidenceId := Digest256
abbrev DecisionId := Digest256
abbrev ConflictId := Digest256
abbrev ResolutionId := Digest256

def kMaxDeviceUnitIndex : UInt32 := 4095

/-! ### Enumerations -/

inductive SourceKind where
  | synthetic | adjacentRuntime | deviceSelfReport | operatorDeclaration | importedBundle
deriving DecidableEq

def SourceKind.numeric : SourceKind → UInt16
  | .synthetic => 1
  | .adjacentRuntime => 2
  | .deviceSelfReport => 3
  | .operatorDeclaration => 4
  | .importedBundle => 5

def SourceKind.ofNumeric? (raw : UInt16) : Option SourceKind :=
  [.synthetic, .adjacentRuntime, .deviceSelfReport, .operatorDeclaration, .importedBundle].find?
    (fun kind => numeric kind == raw)

@[simp] theorem SourceKind.ofNumeric?_numeric (kind : SourceKind) : ofNumeric? kind.numeric = some kind := by
  cases kind <;> rfl

/-- Authority of a source relative to other sources. Higher outranks lower. -/
inductive AuthorityRank where
  | none | synthetic | imported | adjacentRuntime | deviceSelfReport | operator
deriving DecidableEq

namespace AuthorityRank

def numeric : AuthorityRank → UInt16
  | .none => 0
  | .synthetic => 1
  | .imported => 2
  | .adjacentRuntime => 3
  | .deviceSelfReport => 4
  | .operator => 5

def ofNumeric? (raw : UInt16) : Option AuthorityRank :=
  [.none, .synthetic, .imported, .adjacentRuntime, .deviceSelfReport, .operator].find?
    (fun rank => numeric rank == raw)

@[simp] theorem ofNumeric?_numeric (rank : AuthorityRank) : ofNumeric? rank.numeric = some rank := by
  cases rank <;> rfl

theorem numeric_injective : Function.Injective numeric := by
  intro a b h
  have hsome := ofNumeric?_numeric a
  rw [h, ofNumeric?_numeric] at hsome
  exact (Option.some.inj hsome).symm

instance : LinearOrder AuthorityRank := LinearOrder.lift' numeric numeric_injective

end AuthorityRank

inductive SourceTrustState where
  | trusted | untrusted | revoked
deriving DecidableEq

def SourceTrustState.numeric : SourceTrustState → UInt16
  | .trusted => 1
  | .untrusted => 2
  | .revoked => 3

def SourceTrustState.ofNumeric? (raw : UInt16) : Option SourceTrustState :=
  [.trusted, .untrusted, .revoked].find? (fun state => numeric state == raw)

@[simp] theorem SourceTrustState.ofNumeric?_numeric (state : SourceTrustState) :
    ofNumeric? state.numeric = some state := by
  cases state <;> rfl

/-- Registry-side lifecycle of a stored record. -/
inductive EvidenceLifecycle where
  | admitted | rejected | retired
deriving DecidableEq

def EvidenceLifecycle.numeric : EvidenceLifecycle → UInt16
  | .admitted => 1
  | .rejected => 2
  | .retired => 3

def EvidenceLifecycle.ofNumeric? (raw : UInt16) : Option EvidenceLifecycle :=
  [.admitted, .rejected, .retired].find? (fun lifecycle => numeric lifecycle == raw)

@[simp] theorem EvidenceLifecycle.ofNumeric?_numeric (lifecycle : EvidenceLifecycle) :
    ofNumeric? lifecycle.numeric = some lifecycle := by
  cases lifecycle <;> rfl

/-- Effective state, derived at evaluation time. Only `active` can satisfy a requirement. -/
inductive EvidenceState where
  | active | superseded | retired | rejected | fenced | stale | outranked | evicted
deriving DecidableEq

def EvidenceState.numeric : EvidenceState → UInt16
  | .active => 1
  | .superseded => 2
  | .retired => 3
  | .rejected => 4
  | .fenced => 5
  | .stale => 6
  | .outranked => 7
  | .evicted => 8

def EvidenceState.ofNumeric? (raw : UInt16) : Option EvidenceState :=
  [.active, .superseded, .retired, .rejected, .fenced, .stale, .outranked, .evicted].find?
    (fun state => numeric state == raw)

@[simp] theorem EvidenceState.ofNumeric?_numeric (state : EvidenceState) : ofNumeric? state.numeric = some state := by
  cases state <;> rfl

/-! ### Identities -/

/-- A device identity; `unitIndex` tells repeated units of one model apart. -/
structure DeviceIdentity where
  provider : ProviderId
  model : DeviceModelId
  unitIndex : UInt32
  serial : Option DeviceSerialId
deriving DecidableEq

/-- Provider, model, unit, then serial, a missing serial first. -/
def DeviceIdentity.sortKey (d : DeviceIdentity) : ProviderId ×ₗ DeviceModelId ×ₗ UInt32 ×ₗ WithBot Name :=
  toLex (d.provider, toLex (d.model, toLex (d.unitIndex, d.serial)))

theorem DeviceIdentity.sortKey_injective : Function.Injective sortKey := by
  rintro ⟨p, m, u, s⟩ ⟨p', m', u', s'⟩ h
  simp only [sortKey, EmbeddingLike.apply_eq_iff_eq, Prod.mk.injEq] at h
  obtain ⟨rfl, rfl, rfl, rfl⟩ := h
  rfl

instance : LinearOrder DeviceIdentity := LinearOrder.lift' _ DeviceIdentity.sortKey_injective

/-- A specific incarnation of a device. -/
structure DeviceIncarnationRef where
  device : DeviceIdentity
  incarnation : IncarnationId
deriving DecidableEq

def DeviceIncarnationRef.sortKey (r : DeviceIncarnationRef) : DeviceIdentity ×ₗ IncarnationId :=
  toLex (r.device, r.incarnation)

theorem DeviceIncarnationRef.sortKey_injective : Function.Injective sortKey := by
  rintro ⟨d, i⟩ ⟨d', i'⟩ h
  simp only [sortKey, EmbeddingLike.apply_eq_iff_eq, Prod.mk.injEq] at h
  obtain ⟨rfl, rfl⟩ := h
  rfl

instance : LinearOrder DeviceIncarnationRef := LinearOrder.lift' _ DeviceIncarnationRef.sortKey_injective

/-- An observation source process, with the counter it restarts under. -/
structure SourceIncarnation where
  source : SourceId
  counter : SourceIncarnationCounter
deriving DecidableEq

/-- The stream a record belongs to. -/
structure EvidenceKey where
  device : DeviceIncarnationRef
  kind : CapabilityKind
  source : SourceId
deriving DecidableEq

def EvidenceKey.sortKey (k : EvidenceKey) : DeviceIncarnationRef ×ₗ CapabilityKind ×ₗ SourceId :=
  toLex (k.device, toLex (k.kind, k.source))

theorem EvidenceKey.sortKey_injective : Function.Injective sortKey := by
  rintro ⟨d, k, s⟩ ⟨d', k', s'⟩ h
  simp only [sortKey, EmbeddingLike.apply_eq_iff_eq, Prod.mk.injEq] at h
  obtain ⟨rfl, rfl, rfl⟩ := h
  rfl

/-- Streams are visited by device, then kind, then source: the order of the nested maps. -/
instance : LinearOrder EvidenceKey := LinearOrder.lift' _ EvidenceKey.sortKey_injective

/-! ### Records -/

/-- The exact content asserted by a source about one capability of one device incarnation. -/
structure CapabilityEvidence where
  key : EvidenceKey
  sourceIncarnation : SourceIncarnation
  capabilityVersion : SemVer
  features : FeatureSet
  limits : LimitSet
  firmwareVersion : Option SemVer
  firmwareGeneration : FirmwareGeneration
  runtimeVersion : Option SemVer
  runtimeGeneration : RuntimeGeneration
  observedAt : Tick
  validUntil : Option Tick
  generation : RecordGeneration
  authority : AuthorityRank
  epochAtIngest : RegistryEpoch
  bootAtIngest : BootEpoch
  policyRevision : PolicyRevision
deriving DecidableEq

/-- A record as held by the registry. Rejected records are retained so refusals stay explainable. -/
structure StoredEvidence where
  evidence : CapabilityEvidence
  lifecycle : EvidenceLifecycle
  admissionReason : ReasonCode
  admittedAt : Tick
  retiredAt : Option Tick
  retirementReason : ReasonCode
deriving DecidableEq

/-- A retirement tombstone: fences the records of its stream up to `generation`. -/
structure RetirementRecord where
  key : EvidenceKey
  generation : RecordGeneration
  retiredAt : Tick
  reason : ReasonCode
  epoch : RegistryEpoch
  policyRevision : PolicyRevision
  authority : AuthorityRank
deriving DecidableEq

/-- Records that disagree at equal authority. -/
structure ConflictGroup where
  id : ConflictId
  device : DeviceIncarnationRef
  kind : CapabilityKind
  authority : AuthorityRank
  members : List EvidenceId
  generations : List RecordGeneration
  observedFirst : Tick
  observedLast : Tick
deriving DecidableEq

/-- Explicit operator resolution of a conflict group. -/
structure ConflictResolution where
  id : ResolutionId
  conflict : ConflictId
  chosen : EvidenceId
  rejectedMembers : List EvidenceId
  resolver : SourceId
  resolvedAt : Tick
  epoch : RegistryEpoch
deriving DecidableEq

/-- One entry of the eviction ledger. -/
structure EvictionEntry where
  id : EvidenceId
  key : EvidenceKey
  generation : RecordGeneration
  stateAtEviction : EvidenceState
  reason : ReasonCode
  evictedAt : Tick
deriving DecidableEq

/-- Sort reason codes and drop duplicates. -/
def canonicalReasons (reasons : List ReasonCode) : List ReasonCode := Scan.sortUniqueBy id reasons

end Ocreg
