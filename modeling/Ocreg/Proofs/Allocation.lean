/-
Module: Ocreg.Proofs.Allocation
Purpose: How many collection elements the decoders create. Every counted collection is created in full once its count
  was read and checked; the bytes of the count pay for it.
-/
import Ocreg.Lib.Metered
import Ocreg.Proofs.Truncation
import Ocreg.Wire.Payloads

namespace Ocreg

open Decoder

variable {α : Type}

open Metered Reader

-- the longest records have some twenty fields
set_option synthInstance.maxSize 1000

/-- A reader that counts the collection elements it creates. -/
abbrev Meter (α : Type) := Metered ReasonCode α

/-! ### Counted collections -/

/-- A count, its check, then a collection created in full before its elements are read. A reservation counts like
    a resize. -/
def counted {α : Type} (guard : UInt32 → Prop) [DecidablePred guard] (refusal : ReasonCode) (body : Nat → Meter α) :
    Meter α := do
  let count ← lift u32
  lift (ensure (guard count) refusal)
  create count.toNat
  body count.toNat

def collectionOf {α : Type} (dec : Meter α) (bound : Nat) (oversized : ReasonCode) : Meter (List α) :=
  counted (fun count => count.toNat ≤ bound) oversized (times dec)

theorem erase_counted (guard : UInt32 → Prop) [DecidablePred guard] (refusal : ReasonCode)
    (body : Nat → Meter α) : erase (counted guard refusal body) =
      u32 >>= fun count => ensure (guard count) refusal >>= fun _ => erase (body count.toNat) := by
  simp only [counted, erase_bind, erase_lift, erase_create_bind]

@[simp] theorem erase_collectionOf (dec : Meter α) (bound : Nat) (oversized : ReasonCode) :
    erase (collectionOf dec bound oversized) = collection (erase dec) bound oversized := by
  simp only [collectionOf, erase_counted, erase_times, collection]

/-- Elements per byte: a count of four bytes creates at most `kMaxCollectionEntries` elements. -/
def kElementsPerByte : Nat := 262144

/-- Readers without collections create nothing. -/
instance {α : Type} {dec : Reader α} [h : dec.Steady] : Allots kElementsPerByte 0 (lift dec) := by
  refine Allots.lift (P := fun _ _ => True) ?_
  intro input a rest hrun
  obtain ⟨used, hinput, -⟩ := h.cut input a rest hrun
  exact ⟨used, hinput, trivial⟩

theorem u32_consumes : u32.Consumes (fun _ used => used.length = 4) := by
  refine Consumes.bind (takeBE_consumes _ 4) ?_
  rintro value _ ⟨rfl, -⟩
  exact Consumes.pure (by simp)

section

variable {refusal : ReasonCode} {body : Nat → Meter α}
  [hbody : ∀ count, Allots kElementsPerByte 0 (body count)]

theorem counted_allots {guard : UInt32 → Prop} [DecidablePred guard]
    (hguard : ∀ count, guard count → count.toNat ≤ kMaxCollectionEntries) :
    Allots kElementsPerByte 0 (counted guard refusal body) := by
  refine Allots.lift_bind u32_consumes fun count used hused => Allots.ensure_bind fun hcount => ?_
  refine Allots.create_bind ?_ (hbody _)
  rw [hused]
  exact hguard count hcount

instance {dec : Meter α} {bound : Nat} {oversized : ReasonCode} [hbound : Fact (bound ≤ kMaxCollectionEntries)]
    [Allots kElementsPerByte 0 dec] : Allots kElementsPerByte 0 (collectionOf dec bound oversized) :=
  counted_allots (fun _ hcount => Nat.le_trans hcount hbound.out)

instance : Fact (kMaxCollectionEntries ≤ kMaxCollectionEntries) := ⟨Nat.le_refl _⟩

/-- The collections of a record are bounded by the catalog. -/
instance : Allots kElementsPerByte 0 (counted (fun count => count.toNat ≤ kMaxFeaturesPerRecord) refusal body) :=
  counted_allots (fun _ hcount => Nat.le_trans hcount (by decide))

instance : Allots kElementsPerByte 0 (counted (fun count => count.toNat ≤ kMaxLimitsPerRecord) refusal body) :=
  counted_allots (fun _ hcount => Nat.le_trans hcount (by decide))

end

/-! ### Values and evidence -/

def FeatureSet.metered : Meter FeatureSet := do
  let codes ← counted (fun count => count.toNat ≤ kMaxFeaturesPerRecord) .rejectedFeatureBudgetExceeded (fun count =>
    lift (repeatAscending decodeFeatureCode id .rejectedDuplicateKey count none))
  pure (FeatureSet.fromValidated codes)

@[simp] theorem FeatureSet.erase_metered : erase FeatureSet.metered = FeatureSet.decode := by
  simp only [metered, decode, erase_bind, erase_counted, erase_lift, erase_pure, decoder_bind_assoc]

instance : Allots kElementsPerByte 0 FeatureSet.metered := by
  unfold FeatureSet.metered
  infer_instance

def LimitSet.metered : Meter LimitSet := do
  let values ← counted (fun count => count.toNat ≤ kMaxLimitsPerRecord) .rejectedLimitBudgetExceeded (fun count =>
    lift (repeatAscending LimitValue.decode LimitValue.code .rejectedDuplicateKey count none))
  pure (LimitSet.fromValidated values)

@[simp] theorem LimitSet.erase_metered : erase LimitSet.metered = LimitSet.decode := by
  simp only [metered, decode, erase_bind, erase_counted, erase_lift, erase_pure, decoder_bind_assoc]

instance : Allots kElementsPerByte 0 LimitSet.metered := by
  unfold LimitSet.metered
  infer_instance

def CapabilityEvidence.metered : Meter CapabilityEvidence := do
  let key ← lift EvidenceKey.decode
  let sourceIncarnation ← lift SourceIncarnation.decode
  let capabilityVersion ← lift SemVer.decode
  let features ← FeatureSet.metered
  let limits ← LimitSet.metered
  let firmwareVersion ← lift (optional SemVer.decode)
  let firmwareGeneration ← lift u64
  let runtimeVersion ← lift (optional SemVer.decode)
  let runtimeGeneration ← lift u64
  let observedAt ← lift u64
  let validUntil ← lift (optional u64)
  let generation ← lift u64
  let authority ← lift (enum AuthorityRank.ofNumeric? .rejectedMalformedDocument)
  let epochAtIngest ← lift u64
  let bootAtIngest ← lift u64
  let policyRevision ← lift u64
  lift (ensure (generation ≠ 0) .rejectedGenerationRegression)
  lift (ensure (∀ tick ∈ validUntil, ¬ tick < observedAt) .rejectedValidityWindowInverted)
  lift (ensure (∀ code ∈ features.codes, featureAllowedFor code key.kind = true) .rejectedFeatureNotInKind)
  lift (ensure (∀ limit ∈ limits.values, limitAllowedFor limit.code key.kind = true) .rejectedLimitNotInKind)
  pure { key, sourceIncarnation, capabilityVersion, features, limits, firmwareVersion, firmwareGeneration,
         runtimeVersion, runtimeGeneration, observedAt, validUntil, generation, authority, epochAtIngest,
         bootAtIngest, policyRevision }

@[simp] theorem CapabilityEvidence.erase_metered : erase CapabilityEvidence.metered = CapabilityEvidence.decode := by
  simp only [metered, decode, decodeWith, erase_bind, erase_lift, erase_pure, FeatureSet.erase_metered,
    LimitSet.erase_metered]

instance : Allots kElementsPerByte 0 CapabilityEvidence.metered := by
  unfold CapabilityEvidence.metered
  infer_instance

def StoredEvidence.metered : Meter StoredEvidence := do
  let evidence ← CapabilityEvidence.metered
  let lifecycle ← lift (enum EvidenceLifecycle.ofNumeric? .rejectedMalformedDocument)
  let admissionReason ← lift reason
  let admittedAt ← lift u64
  let retiredAt ← lift (optional u64)
  let retirementReason ← lift reason
  lift (ensure (lifecycle = .retired → retiredAt.isSome) .rejectedMalformedDocument)
  pure { evidence, lifecycle, admissionReason, admittedAt, retiredAt, retirementReason }

@[simp] theorem StoredEvidence.erase_metered : erase StoredEvidence.metered = StoredEvidence.decode := by
  simp only [metered, decode, decodeWith, erase_bind, erase_lift, erase_pure, CapabilityEvidence.erase_metered,
    CapabilityEvidence.decode]

instance : Allots kElementsPerByte 0 StoredEvidence.metered := by
  unfold StoredEvidence.metered
  infer_instance

/-! ### The registry state -/

def ConflictGroup.metered : Meter ConflictGroup := do
  let id ← lift digest
  let device ← lift DeviceIncarnationRef.decode
  let kind ← lift decodeKind
  let authority ← lift (enum AuthorityRank.ofNumeric? .rejectedMalformedDocument)
  let members ← collectionOf (lift digest) kMaxCollectionEntries .rejectedOversizedInput
  let generations ← counted
    (fun count => count.toNat ≤ kMaxCollectionEntries ∧ count.toNat = members.length) .rejectedMalformedDocument
    (times (lift u64))
  let observedFirst ← lift u64
  let observedLast ← lift u64
  pure { id, device, kind, authority, members, generations, observedFirst, observedLast }

@[simp] theorem ConflictGroup.erase_metered : erase ConflictGroup.metered = ConflictGroup.decode := by
  simp only [metered, decode, erase_bind, erase_lift, erase_pure, erase_collectionOf, erase_counted, erase_times,
    decoder_bind_assoc, bounded]

instance : Allots kElementsPerByte 0 ConflictGroup.metered := by
  have hgenerations : ∀ members : List EvidenceId, Allots kElementsPerByte 0 (counted
      (fun count => count.toNat ≤ kMaxCollectionEntries ∧ count.toNat = members.length) .rejectedMalformedDocument
      (times (lift u64))) := fun members => counted_allots (fun _ hcount => hcount.1)
  unfold ConflictGroup.metered
  infer_instance

def ConflictResolution.metered : Meter ConflictResolution := do
  let id ← lift digest
  let conflict ← lift digest
  let chosen ← lift digest
  let rejectedMembers ← collectionOf (lift digest) kMaxCollectionEntries .rejectedOversizedInput
  let resolver ← lift name
  let resolvedAt ← lift u64
  let epoch ← lift u64
  pure { id, conflict, chosen, rejectedMembers, resolver, resolvedAt, epoch }

@[simp] theorem ConflictResolution.erase_metered : erase ConflictResolution.metered = ConflictResolution.decode := by
  simp only [metered, decode, erase_bind, erase_lift, erase_pure, erase_collectionOf, bounded]

instance : Allots kElementsPerByte 0 ConflictResolution.metered := by
  unfold ConflictResolution.metered
  infer_instance

def DeviceIncarnationEntry.metered : Meter DeviceIncarnationEntry := do
  let device ← lift DeviceIdentity.decode
  let current ← lift u64
  let history ← collectionOf (lift u64) kMaxCollectionEntries .rejectedOversizedInput
  pure { device, current, history }

@[simp] theorem DeviceIncarnationEntry.erase_metered :
    erase DeviceIncarnationEntry.metered = DeviceIncarnationEntry.decode := by
  simp only [metered, decode, erase_bind, erase_lift, erase_pure, erase_collectionOf, bounded]

instance : Allots kElementsPerByte 0 DeviceIncarnationEntry.metered := by
  unfold DeviceIncarnationEntry.metered
  infer_instance

def RegistryPolicy.metered : Meter RegistryPolicy := do
  let sources ← collectionOf (lift SourcePolicy.decode) kMaxCollectionEntries .rejectedOversizedInput
  let requireConfiguredSource ← lift boolean
  let refuseUntrustedSources ← lift boolean
  let bootPolicy ← lift (enum BootPolicy.ofNumeric? .rejectedMalformedDocument)
  let clockMode ← lift (enum ClockMode.ofNumeric? .rejectedMalformedDocument)
  let retentionHorizon ← lift u64
  let maxFutureSkew ← lift u64
  let defaultMaxAge ← lift u64
  let limits ← lift RegistryLimits.decode
  let ruleGeneration ← lift u64
  let policyName ← lift str
  lift (ensure (policyName.length ≤ 128) .rejectedOversizedInput)
  pure { sources, requireConfiguredSource, refuseUntrustedSources, bootPolicy, clockMode, retentionHorizon,
         maxFutureSkew, defaultMaxAge, limits, ruleGeneration, policyName }

@[simp] theorem RegistryPolicy.erase_metered : erase RegistryPolicy.metered = RegistryPolicy.decode := by
  simp only [metered, decode, erase_bind, erase_lift, erase_pure, erase_collectionOf, bounded]

instance : Allots kElementsPerByte 0 RegistryPolicy.metered := by
  unfold RegistryPolicy.metered
  infer_instance

def RegistryState.metered : Meter RegistryState := do
  let format ← lift u32
  lift (ensure (format = kStoreFormatVersion) .storeVersionIncompatible)
  let policy ← RegistryPolicy.metered
  let epoch ← lift u64
  let ruleGeneration ← lift u64
  let policyRevision ← lift u64
  let bootEpoch ← lift u64
  let storeGeneration ← lift u64
  let logicalTick ← lift u64
  let nextIncarnation ← lift u64
  lift (ensure (nextIncarnation ≠ 0) .rejectedZeroIncarnation)
  let incarnations ← collectionOf DeviceIncarnationEntry.metered kMaxCollectionEntries .rejectedOversizedInput
  let records ← collectionOf StoredEvidence.metered kMaxCollectionEntries .rejectedOversizedInput
  let tombstones ← collectionOf (lift RetirementRecord.decode) kMaxCollectionEntries .rejectedOversizedInput
  let conflicts ← collectionOf ConflictGroup.metered kMaxCollectionEntries .rejectedOversizedInput
  let resolutions ← collectionOf ConflictResolution.metered kMaxCollectionEntries .rejectedOversizedInput
  let evictions ← collectionOf (lift EvictionEntry.decode) kMaxCollectionEntries .rejectedOversizedInput
  let counters ← lift RegistryCounters.decode
  lift (ensure (records.length ≤ policy.limits.maxRecords.toNat) .storeSemanticMismatch)
  lift (ensure (tombstones.length ≤ policy.limits.maxTombstones.toNat) .storeSemanticMismatch)
  lift (ensure (sourcesAscending policy.sources) .storeSemanticMismatch)
  pure { policy, epoch, ruleGeneration, policyRevision, bootEpoch, storeGeneration, logicalTick,
         nextIncarnation, incarnations, records, tombstones, conflicts, resolutions, evictions, counters }

theorem RegistryState.erase_metered : erase RegistryState.metered = RegistryState.decode := by
  simp only [metered, decode, decodeWith, erase_bind, erase_lift, erase_pure, erase_collectionOf, bounded,
    RegistryPolicy.erase_metered, DeviceIncarnationEntry.erase_metered, StoredEvidence.erase_metered,
    StoredEvidence.decode, ConflictGroup.erase_metered, ConflictResolution.erase_metered]

instance : Allots kElementsPerByte 0 RegistryState.metered := by
  unfold RegistryState.metered
  infer_instance

/-! ### Answers -/

def EvidenceStateFact.metered : Meter EvidenceStateFact := do
  let id ← lift Reader.digest
  let rawLifecycle ← lift u16
  let rawState ← lift u16
  let lifecycle ← lift (expect .rejectedMalformedDocument (EvidenceLifecycle.ofNumeric? rawLifecycle))
  let state ← lift (expect .rejectedMalformedDocument (EvidenceState.ofNumeric? rawState))
  let reason ← lift Reader.reason
  let observedAt ← lift u64
  let age ← lift u64
  let authority ← lift (enum AuthorityRank.ofNumeric? .rejectedMalformedDocument)
  let generation ← lift u64
  let sourceIncarnation ← lift SourceIncarnation.decode
  let capabilityVersion ← lift SemVer.decode
  let features ← FeatureSet.metered
  let limits ← LimitSet.metered
  let firmwareVersion ← lift (optional SemVer.decode)
  let runtimeVersion ← lift (optional SemVer.decode)
  pure { id, lifecycle, state, reason, observedAt, age, authority, generation, sourceIncarnation, capabilityVersion,
         features, limits, firmwareVersion, runtimeVersion }

@[simp] theorem EvidenceStateFact.erase_metered : erase EvidenceStateFact.metered = EvidenceStateFact.decode := by
  simp only [metered, decode, erase_bind, erase_lift, erase_pure, FeatureSet.erase_metered, LimitSet.erase_metered]

instance : Allots kElementsPerByte 0 EvidenceStateFact.metered := by
  unfold EvidenceStateFact.metered
  infer_instance

def reasonsMetered : Meter (List ReasonCode) := do
  let reasons ← collectionOf (lift reason) 4096 .rejectedOversizedInput
  pure (canonicalReasons reasons)

def idsMetered : Meter (List EvidenceId) := collectionOf (lift digest) 1048576 .rejectedOversizedInput

def factsMetered : Meter (List EvidenceStateFact) :=
  collectionOf EvidenceStateFact.metered 1048576 .rejectedOversizedInput

instance : Allots kElementsPerByte 0 reasonsMetered := by
  have : Fact (4096 ≤ kMaxCollectionEntries) := ⟨by decide⟩
  unfold reasonsMetered
  infer_instance

instance : Allots kElementsPerByte 0 idsMetered :=
  inferInstanceAs (Allots _ 0 (collectionOf (lift digest) kMaxCollectionEntries _))

instance : Allots kElementsPerByte 0 factsMetered :=
  inferInstanceAs (Allots _ 0 (collectionOf EvidenceStateFact.metered kMaxCollectionEntries _))

@[simp] theorem erase_reasonsMetered : erase reasonsMetered = decodeReasons := by
  simp only [reasonsMetered, decodeReasons, erase_bind, erase_lift, erase_pure, erase_collectionOf]

@[simp] theorem erase_idsMetered : erase idsMetered = decodeIds := by
  simp only [idsMetered, decodeIds, erase_lift, erase_collectionOf]

@[simp] theorem erase_factsMetered : erase factsMetered = decodeFacts := by
  simp only [factsMetered, decodeFacts, erase_collectionOf, EvidenceStateFact.erase_metered]

def AdmissionOutcome.metered : Meter AdmissionOutcome := do
  let id ← lift Reader.digest
  let state ← lift (enum EvidenceState.ofNumeric? .rejectedMalformedDocument)
  let reason ← lift Reader.reason
  let idempotent ← lift boolean
  let superseded ← idsMetered
  let evicted ← idsMetered
  let conflict ← lift (optional Reader.digest)
  let streamGeneration ← lift u64
  let conflictsOpened ← lift u64
  pure { id, state, reason, idempotent, superseded, evicted, conflict, streamGeneration, conflictsOpened }

theorem AdmissionOutcome.erase_metered : erase AdmissionOutcome.metered = AdmissionOutcome.decode := by
  simp only [metered, decode, erase_bind, erase_lift, erase_pure, erase_idsMetered]

instance : Allots kElementsPerByte 0 AdmissionOutcome.metered := by
  unfold AdmissionOutcome.metered
  infer_instance

def QueryResult.metered : Meter QueryResult := do
  let kind ← lift (enum DecisionKind.ofNumeric? .rejectedMalformedDocument)
  let device ← lift DeviceIncarnationRef.decode
  let kindRequested ← lift decodeKind
  let reasons ← reasonsMetered
  let facts ← factsMetered
  let selected ← lift (optional digest)
  let conflict ← lift (optional digest)
  let ruleGeneration ← lift u64
  let registryEpoch ← lift u64
  let policyRevision ← lift u64
  let evaluatedAt ← lift u64
  pure { kind, device, kindRequested, reasons, facts, selected, conflict, ruleGeneration, registryEpoch,
         policyRevision, evaluatedAt }

theorem QueryResult.erase_metered : erase QueryResult.metered = QueryResult.decode := by
  simp only [metered, decode, erase_bind, erase_lift, erase_pure, erase_reasonsMetered, erase_factsMetered]

instance : Allots kElementsPerByte 0 QueryResult.metered := by
  unfold QueryResult.metered
  infer_instance

def CapabilityRequirement.metered : Meter CapabilityRequirement := do
  let device ← lift DeviceIncarnationRef.decode
  let capability ← lift decodeKind
  let minimum ← lift SemVer.decode
  let maximumExclusive ← lift (optional SemVer.decode)
  let requiredFeatures ← FeatureSet.metered
  let requiredLimits ← counted (fun count => count.toNat ≤ kMaxLimitsPerRecord) .rejectedLimitBudgetExceeded
    (fun count => lift (repeatAscending LimitRequirement.decode LimitRequirement.code .rejectedDuplicateKey count none))
  let minimumFirmwareVersion ← lift (optional SemVer.decode)
  let minimumFirmwareGeneration ← lift (optional u64)
  let minimumRuntimeVersion ← lift (optional SemVer.decode)
  let minimumRuntimeGeneration ← lift (optional u64)
  let maxEvidenceAge ← lift u64
  lift (ensure (∀ code ∈ requiredFeatures.codes, featureAllowedFor code capability = true) .rejectedFeatureNotInKind)
  lift (ensure (∀ limit ∈ requiredLimits, limitAllowedFor limit.code capability = true) .rejectedLimitNotInKind)
  pure { device, capability, version := ⟨minimum, maximumExclusive⟩, requiredFeatures, requiredLimits,
         minimumFirmwareVersion, minimumFirmwareGeneration, minimumRuntimeVersion,
         minimumRuntimeGeneration, maxEvidenceAge }

@[simp] theorem CapabilityRequirement.erase_metered :
    erase CapabilityRequirement.metered = CapabilityRequirement.decode := by
  simp only [metered, decode, decodeWith, erase_bind, erase_lift, erase_pure, erase_counted, decoder_bind_assoc,
    FeatureSet.erase_metered]

instance : Reader.Steady LimitRequirement.decode :=
  inferInstanceAs (Reader.Steady (decodeLimitParts >>= fun parts =>
    pure (LimitRequirement.mk parts.1 parts.2.1 parts.2.2)))

instance : Allots kElementsPerByte 0 CapabilityRequirement.metered := by
  unfold CapabilityRequirement.metered
  infer_instance

def CompatibilityDecision.metered : Meter CompatibilityDecision := do
  let id ← lift digest
  let kind ← lift (enum DecisionKind.ofNumeric? .rejectedMalformedDocument)
  let device ← lift DeviceIncarnationRef.decode
  let capability ← lift decodeKind
  let requirement ← CapabilityRequirement.metered
  let reasons ← reasonsMetered
  let evidence ← idsMetered
  let evidenceFacts ← factsMetered
  let selected ← lift (optional digest)
  let conflict ← lift (optional digest)
  let selectedAuthority ← lift (enum AuthorityRank.ofNumeric? .rejectedMalformedDocument)
  let ruleGeneration ← lift u64
  let registryEpoch ← lift u64
  let policyRevision ← lift u64
  let evaluatedAt ← lift u64
  pure { id, kind, device, capability, requirement, reasons, evidence, evidenceFacts, selected, conflict,
         selectedAuthority, ruleGeneration, registryEpoch, policyRevision, evaluatedAt }

theorem CompatibilityDecision.erase_metered : erase CompatibilityDecision.metered = CompatibilityDecision.decode := by
  simp only [metered, decode, erase_bind, erase_lift, erase_pure, CapabilityRequirement.erase_metered,
    erase_reasonsMetered, erase_idsMetered, erase_factsMetered]

instance : Allots kElementsPerByte 0 CompatibilityDecision.metered := by
  unfold CompatibilityDecision.metered
  infer_instance

/-! ### All inputs -/

/-- The decoders of states, query results, decisions and admission outcomes create a number of collection elements
    that is bounded by a fixed multiple of the input's length, whether they accept it or not. -/
theorem decoding_creates_in_proportion :
    (erase RegistryState.metered = RegistryState.decode ∧ erase QueryResult.metered = QueryResult.decode ∧
      erase CompatibilityDecision.metered = CompatibilityDecision.decode ∧
      erase AdmissionOutcome.metered = AdmissionOutcome.decode) ∧
    ∃ k, ∀ input : Bytes,
      RegistryState.metered.created input ≤ k * (input.length + 1) ∧
      QueryResult.metered.created input ≤ k * (input.length + 1) ∧
      CompatibilityDecision.metered.created input ≤ k * (input.length + 1) ∧
      AdmissionOutcome.metered.created input ≤ k * (input.length + 1) := by
  constructor
  · exact ⟨RegistryState.erase_metered, QueryResult.erase_metered, CompatibilityDecision.erase_metered,
      AdmissionOutcome.erase_metered⟩
  · have hpaid : ∀ {α : Type} (dec : Meter α) [Allots kElementsPerByte 0 dec] (input : Bytes),
        dec.created input ≤ kElementsPerByte * (input.length + 1) := by
      intro α dec h input
      have hle := h.created_le input
      rw [Nat.mul_succ]
      omega
    exact ⟨kElementsPerByte, fun input => ⟨hpaid _ input, hpaid _ input, hpaid _ input, hpaid _ input⟩⟩

end Ocreg
