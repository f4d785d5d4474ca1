/-
Module: Ocreg.Core.Reason
Purpose: The stable reason codes: numeric value, category and failure flag of every outcome the registry
  can report, and the Outcome type that carries them.
-/
import Ocreg.Core.Hash
import Ocreg.Lib.Scan

namespace Ocreg

variable {α : Type} {cond : Prop}

inductive ReasonCategory where
  | acceptance | idempotent | rejection | unknown | incompatible | conflict | persistence | recovery
  | accounting | transport | cancellation
deriving DecidableEq

/-- Numeric value of a category. -/
def ReasonCategory.numeric : ReasonCategory → UInt8
  | .acceptance => 0
  | .idempotent => 1
  | .rejection => 2
  | .unknown => 3
  | .incompatible => 4
  | .conflict => 5
  | .persistence => 6
  | .recovery => 7
  | .accounting => 8
  | .transport => 9
  | .cancellation => 10

inductive ReasonCode where
  | ok | acceptedNew | acceptedSuperseding | alreadyPresent | acceptedAuthoritativeOverride
  | acceptedAfterRetirement | rejectedMalformedName | rejectedMalformedVersion | rejectedMalformedFeature
  | rejectedMalformedLimit | rejectedMalformedDocument | rejectedOversizedInput | rejectedTruncatedInput
  | rejectedDuplicateKey | rejectedInvalidUtf8 | rejectedNestingTooDeep | rejectedUnexpectedField
  | rejectedMissingField | rejectedTrailingGarbage | rejectedUnknownCapabilityKind
  | rejectedUnknownFeatureCode | rejectedUnknownLimitCode | rejectedFeatureNotInKind
  | rejectedLimitNotInKind | rejectedLimitUnitInvalid | rejectedLimitUnitScaleInvalid
  | rejectedNegativeLimit | rejectedLimitScaleNotPermitted | rejectedUnsupportedSemanticVersion
  | rejectedZeroIncarnation | rejectedUnknownSource | rejectedSourceRevoked | rejectedSourceUntrusted
  | rejectedAuthorityInsufficient | rejectedGenerationRegression | rejectedGenerationCollision
  | rejectedSupersededGeneration | rejectedStaleObservation | rejectedFutureObservation
  | rejectedValidityWindowInverted | rejectedRetiredStream | rejectedDeviceIncarnationFenced
  | rejectedEpochOutOfRange | rejectedRuleGenerationOutOfRange | rejectedFeatureBudgetExceeded
  | rejectedLimitBudgetExceeded | rejectedRecordBudgetExhausted | rejectedHistoryBudgetExhausted
  | rejectedStreamBudgetExhausted | rejectedDeviceBudgetExhausted | rejectedBeyondRetentionHorizon
  | unknownNoEvidence | unknownStaleEvidence | unknownConflictingEvidence | unknownEvidenceEvicted
  | unknownFencedEvidence | unknownUnitMismatch | unknownInexactUnitConversion | unknownLimitNotReported
  | unknownDeviceNotRegistered | unknownIncarnationNotCurrent | unknownSourceNotConfigured
  | unknownPolicyNotConfigured | unknownCapabilityRetired | unknownRuleGenerationMismatch
  | unknownFirmwareGenerationAbsent | unknownRuntimeGenerationAbsent | unknownTruncatedHistory
  | incompatibleVersionTooLow | incompatibleFeatureAbsent | incompatibleLimitBelowRequirement
  | incompatibleFirmwareGenerationTooLow | incompatibleRuntimeGenerationTooLow
  | incompatibleCapabilityRetired | incompatibleDeviceReincarnated | incompatibleSourceRevoked
  | conflictEqualAuthority | conflictOutranked | conflictResolvedByAuthority | conflictResolvedByResolution
  | conflictUnresolved | evictedSuperseded | evictedRetired | evictedBudgetPressure | evictionRecorded
  | exportTruncated | exportComplete | storeNotFound | storeEmptyNew | storeHeaderCorrupt
  | storeVersionIncompatible | storeSemanticMismatch | storePayloadCorrupt | storeTornTail
  | storeJournalCorrupt | storeFooterMissing | storeOversized | storeWriteFailed | storeReadFailed
  | storeSyncFailed | storeEpochReplay | storeBootReplay | storeIncarnationReplay | storeGenerationReplay
  | storeRotationPerformed | storeCommitDurable | recoveryCleanOpen | recoveryTornTailTruncated
  | recoveryTrailingCorruptDropped | recoveryRefused | recoveryRebuiltFromSnapshot
  | recoveryJournalReplayed | protocolFrameTooLarge | protocolFrameMalformed | protocolVersionUnsupported
  | protocolChecksumMismatch | protocolSequenceViolation | protocolUnknownOpcode | protocolConnectionLimit
  | protocolBackpressure | protocolShutdownInProgress | protocolRequestIdReplay | transportClosed
  | transportUnavailable | transportListening | transportAccepted | cancelled | cancelTooLate
  | internalInvariantViolated
deriving DecidableEq

instance : Inhabited ReasonCode := ⟨.ok⟩

/-- One row of the reason table. -/
structure ReasonEntry where
  identifier : String
  numeric : UInt16
  category : ReasonCategory
  failure : Bool

namespace ReasonCode

/-- The reason table: identifier, numeric value, category, failure flag. -/
def entry : ReasonCode → ReasonEntry
  | .ok => ⟨"Ok", 0, .acceptance, false⟩
  | .acceptedNew => ⟨"AcceptedNew", 1, .acceptance, false⟩
  | .acceptedSuperseding => ⟨"AcceptedSuperseding", 2, .acceptance, false⟩
  | .alreadyPresent => ⟨"AlreadyPresent", 3, .idempotent, false⟩
  | .acceptedAuthoritativeOverride => ⟨"AcceptedAuthoritativeOverride", 4, .acceptance, false⟩
  | .acceptedAfterRetirement => ⟨"AcceptedAfterRetirement", 5, .acceptance, false⟩
  | .rejectedMalformedName => ⟨"RejectedMalformedName", 16, .rejection, true⟩
  | .rejectedMalformedVersion => ⟨"RejectedMalformedVersion", 17, .rejection, true⟩
  | .rejectedMalformedFeature => ⟨"RejectedMalformedFeature", 18, .rejection, true⟩
  | .rejectedMalformedLimit => ⟨"RejectedMalformedLimit", 19, .rejection, true⟩
  | .rejectedMalformedDocument => ⟨"RejectedMalformedDocument", 20, .rejection, true⟩
  | .rejectedOversizedInput => ⟨"RejectedOversizedInput", 21, .rejection, true⟩
  | .rejectedTruncatedInput => ⟨"RejectedTruncatedInput", 22, .rejection, true⟩
  | .rejectedDuplicateKey => ⟨"RejectedDuplicateKey", 23, .rejection, true⟩
  | .rejectedInvalidUtf8 => ⟨"RejectedInvalidUtf8", 24, .rejection, true⟩
  | .rejectedNestingTooDeep => ⟨"RejectedNestingTooDeep", 25, .rejection, true⟩
  | .rejectedUnexpectedField => ⟨"RejectedUnexpectedField", 26, .rejection, true⟩
  | .rejectedMissingField => ⟨"RejectedMissingField", 27, .rejection, true⟩
  | .rejectedTrailingGarbage => ⟨"RejectedTrailingGarbage", 28, .rejection, true⟩
  | .rejectedUnknownCapabilityKind => ⟨"RejectedUnknownCapabilityKind", 32, .rejection, true⟩
  | .rejectedUnknownFeatureCode => ⟨"RejectedUnknownFeatureCode", 33, .rejection, true⟩
  | .rejectedUnknownLimitCode => ⟨"RejectedUnknownLimitCode", 34, .rejection, true⟩
  | .rejectedFeatureNotInKind => ⟨"RejectedFeatureNotInKind", 35, .rejection, true⟩
  | .rejectedLimitNotInKind => ⟨"RejectedLimitNotInKind", 36, .rejection, true⟩
  | .rejectedLimitUnitInvalid => ⟨"RejectedLimitUnitInvalid", 37, .rejection, true⟩
  | .rejectedLimitUnitScaleInvalid => ⟨"RejectedLimitUnitScaleInvalid", 38, .rejection, true⟩
  | .rejectedNegativeLimit => ⟨"RejectedNegativeLimit", 39, .rejection, true⟩
  | .rejectedLimitScaleNotPermitted => ⟨"RejectedLimitScaleNotPermitted", 40, .rejection, true⟩
  | .rejectedUnsupportedSemanticVersion => ⟨"RejectedUnsupportedSemanticVersion", 41, .rejection, true⟩
  | .rejectedZeroIncarnation => ⟨"RejectedZeroIncarnation", 42, .rejection, true⟩
  | .rejectedUnknownSource => ⟨"RejectedUnknownSource", 48, .rejection, true⟩
  | .rejectedSourceRevoked => ⟨"RejectedSourceRevoked", 49, .rejection, true⟩
  | .rejectedSourceUntrusted => ⟨"RejectedSourceUntrusted", 50, .rejection, true⟩
  | .rejectedAuthorityInsufficient => ⟨"RejectedAuthorityInsufficient", 51, .rejection, true⟩
  | .rejectedGenerationRegression => ⟨"RejectedGenerationRegression", 52, .rejection, true⟩
  | .rejectedGenerationCollision => ⟨"RejectedGenerationCollision", 53, .rejection, true⟩
  | .rejectedSupersededGeneration => ⟨"RejectedSupersededGeneration", 54, .rejection, true⟩
  | .rejectedStaleObservation => ⟨"RejectedStaleObservation", 55, .rejection, true⟩
  | .rejectedFutureObservation => ⟨"RejectedFutureObservation", 56, .rejection, true⟩
  | .rejectedValidityWindowInverted => ⟨"RejectedValidityWindowInverted", 57, .rejection, true⟩
  | .rejectedRetiredStream => ⟨"RejectedRetiredStream", 58, .rejection, true⟩
  | .rejectedDeviceIncarnationFenced => ⟨"RejectedDeviceIncarnationFenced", 59, .rejection, true⟩
  | .rejectedEpochOutOfRange => ⟨"RejectedEpochOutOfRange", 60, .rejection, true⟩
  | .rejectedRuleGenerationOutOfRange => ⟨"RejectedRuleGenerationOutOfRange", 61, .rejection, true⟩
  | .rejectedFeatureBudgetExceeded => ⟨"RejectedFeatureBudgetExceeded", 62, .rejection, true⟩
  | .rejectedLimitBudgetExceeded => ⟨"RejectedLimitBudgetExceeded", 63, .rejection, true⟩
  | .rejectedRecordBudgetExhausted => ⟨"RejectedRecordBudgetExhausted", 64, .rejection, true⟩
  | .rejectedHistoryBudgetExhausted => ⟨"RejectedHistoryBudgetExhausted", 65, .rejection, true⟩
  | .rejectedStreamBudgetExhausted => ⟨"RejectedStreamBudgetExhausted", 66, .rejection, true⟩
  | .rejectedDeviceBudgetExhausted => ⟨"RejectedDeviceBudgetExhausted", 67, .rejection, true⟩
  | .rejectedBeyondRetentionHorizon => ⟨"RejectedBeyondRetentionHorizon", 68, .rejection, true⟩
  | .unknownNoEvidence => ⟨"UnknownNoEvidence", 80, .unknown, false⟩
  | .unknownStaleEvidence => ⟨"UnknownStaleEvidence", 81, .unknown, false⟩
  | .unknownConflictingEvidence => ⟨"UnknownConflictingEvidence", 82, .unknown, false⟩
  | .unknownEvidenceEvicted => ⟨"UnknownEvidenceEvicted", 83, .unknown, false⟩
  | .unknownFencedEvidence => ⟨"UnknownFencedEvidence", 84, .unknown, false⟩
  | .unknownUnitMismatch => ⟨"UnknownUnitMismatch", 85, .unknown, false⟩
  | .unknownInexactUnitConversion => ⟨"UnknownInexactUnitConversion", 86, .unknown, false⟩
  | .unknownLimitNotReported => ⟨"UnknownLimitNotReported", 87, .unknown, false⟩
  | .unknownDeviceNotRegistered => ⟨"UnknownDeviceNotRegistered", 88, .unknown, false⟩
  | .unknownIncarnationNotCurrent => ⟨"UnknownIncarnationNotCurrent", 89, .unknown, false⟩
  | .unknownSourceNotConfigured => ⟨"UnknownSourceNotConfigured", 90, .unknown, false⟩
  | .unknownPolicyNotConfigured => ⟨"UnknownPolicyNotConfigured", 91, .unknown, false⟩
  | .unknownCapabilityRetired => ⟨"UnknownCapabilityRetired", 92, .unknown, false⟩
  | .unknownRuleGenerationMismatch => ⟨"UnknownRuleGenerationMismatch", 93, .unknown, false⟩
  | .unknownFirmwareGenerationAbsent => ⟨"UnknownFirmwareGenerationAbsent", 94, .unknown, false⟩
  | .unknownRuntimeGenerationAbsent => ⟨"UnknownRuntimeGenerationAbsent", 95, .unknown, false⟩
  | .unknownTruncatedHistory => ⟨"UnknownTruncatedHistory", 96, .unknown, false⟩
  | .incompatibleVersionTooLow => ⟨"IncompatibleVersionTooLow", 112, .incompatible, false⟩
  | .incompatibleFeatureAbsent => ⟨"IncompatibleFeatureAbsent", 113, .incompatible, false⟩
  | .incompatibleLimitBelowRequirement => ⟨"IncompatibleLimitBelowRequirement", 114, .incompatible, false⟩
  | .incompatibleFirmwareGenerationTooLow => ⟨"IncompatibleFirmwareGenerationTooLow", 115, .incompatible, false⟩
  | .incompatibleRuntimeGenerationTooLow => ⟨"IncompatibleRuntimeGenerationTooLow", 116, .incompatible, false⟩
  | .incompatibleCapabilityRetired => ⟨"IncompatibleCapabilityRetired", 117, .incompatible, false⟩
  | .incompatibleDeviceReincarnated => ⟨"IncompatibleDeviceReincarnated", 118, .incompatible, false⟩
  | .incompatibleSourceRevoked => ⟨"IncompatibleSourceRevoked", 119, .incompatible, false⟩
  | .conflictEqualAuthority => ⟨"ConflictEqualAuthority", 144, .conflict, false⟩
  | .conflictOutranked => ⟨"ConflictOutranked", 145, .conflict, false⟩
  | .conflictResolvedByAuthority => ⟨"ConflictResolvedByAuthority", 146, .conflict, false⟩
  | .conflictResolvedByResolution => ⟨"ConflictResolvedByResolution", 147, .conflict, false⟩
  | .conflictUnresolved => ⟨"ConflictUnresolved", 148, .conflict, false⟩
  | .evictedSuperseded => ⟨"EvictedSuperseded", 160, .accounting, false⟩
  | .evictedRetired => ⟨"EvictedRetired", 161, .accounting, false⟩
  | .evictedBudgetPressure => ⟨"EvictedBudgetPressure", 162, .accounting, false⟩
  | .evictionRecorded => ⟨"EvictionRecorded", 163, .accounting, false⟩
  | .exportTruncated => ⟨"ExportTruncated", 164, .accounting, false⟩
  | .exportComplete => ⟨"ExportComplete", 165, .accounting, false⟩
  | .storeNotFound => ⟨"StoreNotFound", 176, .persistence, true⟩
  | .storeEmptyNew => ⟨"StoreEmptyNew", 177, .persistence, false⟩
  | .storeHeaderCorrupt => ⟨"StoreHeaderCorrupt", 178, .persistence, true⟩
  | .storeVersionIncompatible => ⟨"StoreVersionIncompatible", 179, .persistence, true⟩
  | .storeSemanticMismatch => ⟨"StoreSemanticMismatch", 180, .persistence, true⟩
  | .storePayloadCorrupt => ⟨"StorePayloadCorrupt", 181, .persistence, true⟩
  | .storeTornTail => ⟨"StoreTornTail", 182, .persistence, false⟩
  | .storeJournalCorrupt => ⟨"StoreJournalCorrupt", 183, .persistence, true⟩
  | .storeFooterMissing => ⟨"StoreFooterMissing", 184, .persistence, true⟩
  | .storeOversized => ⟨"StoreOversized", 185, .persistence, true⟩
  | .storeWriteFailed => ⟨"StoreWriteFailed", 186, .persistence, true⟩
  | .storeReadFailed => ⟨"StoreReadFailed", 187, .persistence, true⟩
  | .storeSyncFailed => ⟨"StoreSyncFailed", 188, .persistence, true⟩
  | .storeEpochReplay => ⟨"StoreEpochReplay", 189, .persistence, true⟩
  | .storeBootReplay => ⟨"StoreBootReplay", 190, .persistence, true⟩
  | .storeIncarnationReplay => ⟨"StoreIncarnationReplay", 191, .persistence, true⟩
  | .storeGenerationReplay => ⟨"StoreGenerationReplay", 192, .persistence, true⟩
  | .storeRotationPerformed => ⟨"StoreRotationPerformed", 193, .persistence, false⟩
  | .storeCommitDurable => ⟨"StoreCommitDurable", 194, .persistence, false⟩
  | .recoveryCleanOpen => ⟨"RecoveryCleanOpen", 208, .recovery, false⟩
  | .recoveryTornTailTruncated => ⟨"RecoveryTornTailTruncated", 209, .recovery, false⟩
  | .recoveryTrailingCorruptDropped => ⟨"RecoveryTrailingCorruptDropped", 210, .recovery, false⟩
  | .recoveryRefused => ⟨"RecoveryRefused", 211, .recovery, true⟩
  | .recoveryRebuiltFromSnapshot => ⟨"RecoveryRebuiltFromSnapshot", 212, .recovery, false⟩
  | .recoveryJournalReplayed => ⟨"RecoveryJournalReplayed", 213, .recovery, false⟩
  | .protocolFrameTooLarge => ⟨"ProtocolFrameTooLarge", 224, .transport, true⟩
  | .protocolFrameMalformed => ⟨"ProtocolFrameMalformed", 225, .transport, true⟩
  | .protocolVersionUnsupported => ⟨"ProtocolVersionUnsupported", 226, .transport, true⟩
  | .protocolChecksumMismatch => ⟨"ProtocolChecksumMismatch", 227, .transport, true⟩
  | .protocolSequenceViolation => ⟨"ProtocolSequenceViolation", 228, .transport, true⟩
  | .protocolUnknownOpcode => ⟨"ProtocolUnknownOpcode", 229, .transport, true⟩
  | .protocolConnectionLimit => ⟨"ProtocolConnectionLimit", 230, .transport, true⟩
  | .protocolBackpressure => ⟨"ProtocolBackpressure", 231, .transport, true⟩
  | .protocolShutdownInProgress => ⟨"ProtocolShutdownInProgress", 232, .transport, true⟩
  | .protocolRequestIdReplay => ⟨"ProtocolRequestIdReplay", 233, .transport, true⟩
  | .transportClosed => ⟨"TransportClosed", 234, .transport, true⟩
  | .transportUnavailable => ⟨"TransportUnavailable", 235, .transport, true⟩
  | .transportListening => ⟨"TransportListening", 236, .transport, false⟩
  | .transportAccepted => ⟨"TransportAccepted", 237, .transport, false⟩
  | .cancelled => ⟨"Cancelled", 248, .cancellation, true⟩
  | .cancelTooLate => ⟨"CancelTooLate", 249, .cancellation, false⟩
  | .internalInvariantViolated => ⟨"InternalInvariantViolated", 250, .rejection, true⟩

/-- All codes in table order, which is that of their declaration. -/
def all : List ReasonCode := (List.range 129).map ReasonCode.ofNat

def numeric (code : ReasonCode) : UInt16 := code.entry.numeric

def category (code : ReasonCode) : ReasonCategory := code.entry.category

/-- The code with a given numeric value; `none` for a number outside the table. -/
def ofNumeric? (raw : UInt16) : Option ReasonCode := all.find? (fun code => code.numeric == raw)

theorem mem_all (code : ReasonCode) : code ∈ all := by
  have hindex : all[code.ctorIdx]? = some code := by cases code <;> rfl
  exact List.mem_of_getElem? hindex

/-- The table lists the codes by increasing number. -/
theorem numeric_ascending : (all.map numeric).IsChain (· < ·) := by decide +kernel

theorem numeric_nodup : (all.map numeric).Nodup :=
  (List.isChain_iff_pairwise.mp numeric_ascending).imp ne_of_lt

@[simp] theorem ofNumeric?_numeric (code : ReasonCode) : ofNumeric? code.numeric = some code :=
  Scan.find?_key_of_mem numeric_nodup (mem_all code)

theorem numeric_injective : Function.Injective numeric := by
  intro a b h
  have hsome := ofNumeric?_numeric a
  rw [h, ofNumeric?_numeric] at hsome
  exact (Option.some.inj hsome).symm

/-- Codes are ordered by their numeric value. -/
instance : LinearOrder ReasonCode := LinearOrder.lift' numeric numeric_injective

end ReasonCode

/-- True when the code denotes a hard failure of the operation. -/
def isFailure (code : ReasonCode) : Bool := code.entry.failure

/-! ### Canonical spelling -/

/-- Turn an identifier into upper snake case: an underscore before every capital that follows a lower-case
    letter or a digit, then every letter capitalised. -/
def canonicalSpelling : Option UInt8 → Bytes → Bytes
  | _, [] => []
  | prev, c :: rest =>
    let upper := 65 ≤ c && c ≤ 90
    let prevLower := match prev with
      | some p => (97 ≤ p && p ≤ 122) || (48 ≤ p && p ≤ 57)
      | none => false
    let shown := if 97 ≤ c && c ≤ 122 then c - 32 else c
    (if upper && prevLower then [95, shown] else [shown]) ++ canonicalSpelling (some c) rest

def ReasonCode.toText (code : ReasonCode) : Bytes := canonicalSpelling none (text code.entry.identifier)

example : ReasonCode.rejectedInvalidUtf8.toText = text "REJECTED_INVALID_UTF8" := by decide

/-- Digest prefix over the (numeric, spelling, category, failure) table. -/
def reasonTableFingerprint : UInt32 :=
  (ReasonCode.all.foldl (fun hash code =>
    (((hash.updateU16 code.numeric).updateBytes code.toText).updateByte code.category.numeric).updateByte
      (if isFailure code then 1 else 0)) Sha256.init).finish.leadingU32

/-! ### Outcomes -/

/-- Why an operation is refused, with the detail text it reports. -/
structure Refusal where
  reason : ReasonCode
  detail : Bytes
deriving DecidableEq

/-- Go on only under a condition. -/
def require (cond : Prop) [Decidable cond] (reason : ReasonCode) (detail : Bytes) : Except Refusal Unit :=
  if cond then .ok () else .error ⟨reason, detail⟩

theorem bind_ok {ε β : Type} {first : Except ε α} {next : α → Except ε β} {b : β} (h : (first >>= next) = .ok b) :
    ∃ a, first = .ok a ∧ next a = .ok b := by
  cases first with
  | error e => cases h
  | ok a => exact ⟨a, rfl, h⟩

theorem require_bind [Decidable cond] (reason : ReasonCode) (detail : Bytes) (h : cond)
    (next : Unit → Except Refusal α) : (require cond reason detail >>= next) = next () := by
  rw [require, if_pos h]
  rfl

theorem ok_of_require [Decidable cond] {reason : ReasonCode} {detail : Bytes}
    {next : Unit → Except Refusal α} {a : α} (h : (require cond reason detail >>= next) = .ok a) :
    cond ∧ next () = .ok a := by
  by_cases hcond : cond
  · exact ⟨hcond, (require_bind reason detail hcond next) ▸ h⟩
  · rw [require, if_neg hcond] at h
    cases h

/-- Result of a fallible operation. Success carries a value and the reason it succeeded with, failure a
    reason and a detail text. The success flag is separate from the reason. -/
inductive Outcome (α : Type) where
  | success (value : α) (reason : ReasonCode)
  | failure (reason : ReasonCode) (detail : Bytes)
deriving DecidableEq

namespace Outcome

variable {β : Type}

def ok : Outcome α → Bool
  | .success _ _ => true
  | .failure _ _ => false

def reason : Outcome α → ReasonCode
  | .success _ reason => reason
  | .failure reason _ => reason

def value? : Outcome α → Option α
  | .success value _ => some value
  | .failure _ _ => none

@[simp] theorem ok_success (value : α) (reason : ReasonCode) : (success value reason).ok = true := rfl

@[simp] theorem ok_failure (reason : ReasonCode) (detail : Bytes) :
    (failure reason detail : Outcome α).ok = false := rfl

end Outcome

end Ocreg
