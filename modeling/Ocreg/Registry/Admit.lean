/-
Module: Ocreg.Registry.Admit
Purpose: Admission of one observation: the refusals in their order, registration of the device incarnation,
  duplicates, retained rejections, acceptance under the record bounds and its rollback.
-/
import Ocreg.Registry.Evict

namespace Ocreg

variable {s t u : Registry} {device : DeviceIncarnationRef} {ids : List EvidenceId} {incarnation : IncarnationId}

/-! ### Width and catalog checks -/

def featureCodeRefusal (kind : CapabilityKind) (code : FeatureCode) : Option ReasonCode :=
  if (featureInfo code).isNone then some .rejectedUnknownFeatureCode
  else if ¬ featureAllowedFor code kind then some .rejectedFeatureNotInKind
  else none

/-- `feature_set_valid`; none when the set is valid. -/
def featureSetRefusal (set : FeatureSet) (kind : CapabilityKind) : Option ReasonCode :=
  if set.codes.length > kMaxFeaturesPerRecord then some .rejectedFeatureBudgetExceeded
  else if ¬ set.codes.IsChain (· < ·) then some .rejectedDuplicateKey
  else set.codes.findSome? (featureCodeRefusal kind)

def limitValueRefusal (kind : CapabilityKind) (entry : LimitValue) : Option ReasonCode :=
  match limitInfo entry.code with
  | none => some .rejectedUnknownLimitCode
  | some info =>
    if ¬ limitAllowedFor entry.code kind then some .rejectedLimitNotInKind
    else if entry.value < 0 then some .rejectedNegativeLimit
    else if entry.unit.code ≠ info.unit then some .rejectedLimitUnitInvalid
    else if ¬ unitIsWellFormed entry.unit then some .rejectedLimitUnitScaleInvalid
    else if ¬ unitValidForLimit entry.code entry.unit then some .rejectedLimitScaleNotPermitted
    else none

/-- `limit_set_valid`; none when the set is valid. -/
def limitSetRefusal (set : LimitSet) (kind : CapabilityKind) : Option ReasonCode :=
  if set.values.length > kMaxLimitsPerRecord then some .rejectedLimitBudgetExceeded
  else if ¬ set.values.IsChain (fun a b => a.code < b.code) then some .rejectedDuplicateKey
  else set.values.findSome? (limitValueRefusal kind)

/-- State of the last fact about a record; `rejected` is what an outcome starts from. -/
def Derivation.stateOf (derivation : Derivation) (id : EvidenceId) : EvidenceState :=
  derivation.facts.foldl (fun state fact => if fact.record.id = id then fact.state else state) .rejected

namespace Registry

/-! ### Refusals -/

section

variable (s)

/-- Refusals that look at the observation's generation and ticks. -/
def windowRefusal (request : AdmissionRequest) (now : Tick) : Option Refusal :=
  if request.generation = 0 then
    some ⟨.rejectedGenerationRegression, text "stream generation must be non-zero"⟩
  else if ∃ tick ∈ request.validUntil, tick < request.observedAt then
    some ⟨.rejectedValidityWindowInverted, text "valid_until precedes observed_at"⟩
  else if request.observedAt > now ∧ request.observedAt - now > s.policy.maxFutureSkew then
    some ⟨.rejectedFutureObservation, text "observation is ahead of the logical clock"⟩
  else if s.policy.retentionHorizon ≠ 0 ∧ now ≠ 0 ∧
      observedAge now request.observedAt > s.policy.retentionHorizon then
    some ⟨.rejectedBeyondRetentionHorizon, text "observation is outside the retention horizon"⟩
  else none

/-- Refusals that look at the policy entry of the source. -/
def sourceRefusal (source : SourceId) : Option Refusal :=
  match s.policy.findSource source with
  | none =>
    if s.policy.requireConfiguredSource then
      some ⟨.rejectedUnknownSource, text "source has no policy entry"⟩
    else none
  | some source =>
    if source.trust = .revoked then some ⟨.rejectedSourceRevoked, text "source is revoked"⟩
    else if source.trust = .untrusted ∧ s.policy.refuseUntrustedSources then
      some ⟨.rejectedSourceUntrusted, text "source is untrusted"⟩
    else none

/-- Refusals that look at the asserted features and limits. -/
def contentRefusal (request : AdmissionRequest) : Option Refusal :=
  if request.features.codes.length > s.policy.limits.maxFeaturesPerRecord.toNat ∨
      request.limits.values.length > s.policy.limits.maxLimitsPerRecord.toNat then
    some ⟨.rejectedFeatureBudgetExceeded, text "record exceeds the configured width bound"⟩
  else match featureSetRefusal request.features request.kind with
    | some reason => some ⟨reason, text "feature set rejected"⟩
    | none =>
      match limitSetRefusal request.limits request.kind with
      | some reason => some ⟨reason, text "limit set rejected"⟩
      | none => none

/-- The refusals that come before anything is changed, in their order. -/
def admissionRefusal (request : AdmissionRequest) (now : Tick) : Option Refusal :=
  match s.windowRefusal request now with
  | some refusal => some refusal
  | none =>
    match s.sourceRefusal request.source.source with
    | some refusal => some refusal
    | none => s.contentRefusal request

end

theorem generation_ne_zero_of_accepted {request : AdmissionRequest} {now : Tick}
    (h : s.admissionRefusal request now = none) : request.generation ≠ 0 := by
  intro hzero
  rw [admissionRefusal, windowRefusal, if_pos hzero] at h
  cases h

end Registry

/-! ### Device incarnations -/

/-- The largest incarnation. The counter after it is zero. -/
def lastIncarnation : IncarnationId := 18446744073709551615

/-- The counter after an incarnation was seen. It wraps to zero after the last one. -/
def nextSeen (next incarnation : IncarnationId) : IncarnationId :=
  if next ≤ incarnation then incarnation + 1 else next

theorem nextSeen_last (next : IncarnationId) : nextSeen next lastIncarnation = 0 := by
  have hle : next ≤ lastIncarnation := by
    rw [UInt64.le_iff_toNat_le]
    have hlt := next.toNat_lt
    have hlast : lastIncarnation.toNat = 18446744073709551615 := rfl
    omega
  rw [nextSeen, if_pos hle]
  rfl

/-- Below the last one, the counter stays above every incarnation seen. -/
theorem nextSeen_le_iff {next bound : IncarnationId} (h : incarnation ≠ lastIncarnation) :
    nextSeen next incarnation ≤ bound ↔ next ≤ bound ∧ incarnation < bound := by
  have hsucc : (incarnation + 1).toNat = incarnation.toNat + 1 := by
    have hne : incarnation.toNat ≠ lastIncarnation.toNat := fun heq => h (UInt64.toNat_inj.mp heq)
    have hlast : lastIncarnation.toNat = 18446744073709551615 := rfl
    have hlt := incarnation.toNat_lt
    rw [UInt64.toNat_add]
    have hone : (1 : UInt64).toNat = 1 := rfl
    omega
  rw [nextSeen]
  split
  next hle =>
    rw [UInt64.le_iff_toNat_le] at hle ⊢
    rw [UInt64.le_iff_toNat_le, UInt64.lt_iff_toNat_lt, hsucc]
    omega
  next hnot =>
    rw [not_le] at hnot
    exact ⟨fun hle => ⟨hle, hnot.trans_le hle⟩, fun hboth => hboth.1⟩

/-- Histories are kept in ascending order. -/
def sortIncarnations (history : List IncarnationId) : List IncarnationId := history.insertionSort (· ≤ ·)

theorem mem_sortIncarnations {history : List IncarnationId} :
    incarnation ∈ sortIncarnations history ↔ incarnation ∈ history := List.mem_insertionSort _

namespace Registry

/-- The incarnation counter after an incarnation was seen. -/
def nextAfter (s : Registry) (incarnation : IncarnationId) : UInt64 := nextSeen s.nextIncarnation incarnation

section

variable (s) (device)

/-- Enter a device incarnation in the table: a new device takes it as its current one, a known device adds
    it to its history. -/
def registerIncarnation : Except Refusal Registry :=
  match s.findDevice device.device with
  | none =>
    if s.incarnationTable.size ≥ s.policy.limits.maxDevices.toNat then
      .error ⟨.rejectedDeviceBudgetExhausted, text "device bound reached"⟩
    else
      .ok { s with
        incarnationTable := s.incarnationTable.insert device.device
          ⟨device.device, device.incarnation, [device.incarnation]⟩
        nextIncarnation := s.nextAfter device.incarnation }
  | some entry =>
    if device.incarnation ∈ entry.history then
      .ok { s with nextIncarnation := s.nextAfter device.incarnation }
    else if entry.history.length ≥ s.policy.limits.maxIncarnationsPerDevice.toNat then
      .error ⟨.rejectedDeviceBudgetExhausted, text "incarnation bound reached"⟩
    else
      .ok { s with
        incarnationTable := s.incarnationTable.insert device.device
          { entry with history := sortIncarnations (entry.history ++ [device.incarnation]) }
        nextIncarnation := s.nextAfter device.incarnation }

/-- What registration can do: refuse a device or an incarnation for want of room, enter a new device, find the incarnation
    known, or add it to the history of its device. -/
inductive RegisterView : Except Refusal Registry → Prop
  | deviceBound (hnone : s.findDevice device.device = none)
      (hfull : s.policy.limits.maxDevices.toNat ≤ s.incarnationTable.size) :
      RegisterView (.error ⟨.rejectedDeviceBudgetExhausted, text "device bound reached"⟩)
  | entered (hnone : s.findDevice device.device = none)
      (hroom : s.incarnationTable.size < s.policy.limits.maxDevices.toNat) :
      RegisterView (.ok { s with
        incarnationTable := s.incarnationTable.insert device.device
          ⟨device.device, device.incarnation, [device.incarnation]⟩
        nextIncarnation := s.nextAfter device.incarnation })
  | known {entry : DeviceIncarnationEntry} (hsome : s.findDevice device.device = some entry)
      (hknown : device.incarnation ∈ entry.history) :
      RegisterView (.ok { s with nextIncarnation := s.nextAfter device.incarnation })
  | incarnationBound {entry : DeviceIncarnationEntry} (hsome : s.findDevice device.device = some entry)
      (hnew : device.incarnation ∉ entry.history)
      (hfull : s.policy.limits.maxIncarnationsPerDevice.toNat ≤ entry.history.length) :
      RegisterView (.error ⟨.rejectedDeviceBudgetExhausted, text "incarnation bound reached"⟩)
  | added {entry : DeviceIncarnationEntry} (hsome : s.findDevice device.device = some entry)
      (hnew : device.incarnation ∉ entry.history)
      (hroom : entry.history.length < s.policy.limits.maxIncarnationsPerDevice.toNat) :
      RegisterView (.ok { s with
        incarnationTable := s.incarnationTable.insert device.device
          { entry with history := sortIncarnations (entry.history ++ [device.incarnation]) }
        nextIncarnation := s.nextAfter device.incarnation })

theorem registerIncarnation_view : RegisterView s device (s.registerIncarnation device) := by
  rw [registerIncarnation]
  split
  next hnone =>
    split
    next hfull => exact .deviceBound hnone hfull
    next hroom => exact .entered hnone (not_le.mp hroom)
  next entry hsome =>
    split
    next hknown => exact .known hsome hknown
    next hnew =>
      split
      next hfull => exact .incarnationBound hsome hnew hfull
      next hroom => exact .added hsome hnew (not_le.mp hroom)

end

/-- The ways in which a registration succeeds. -/
theorem registerView_of_ok (h : s.registerIncarnation device = .ok t) : RegisterView s device (.ok t) := by
  rw [← h]
  exact s.registerIncarnation_view device

end Registry

/-! ### Admission -/

def AdmissionRequest.key (request : AdmissionRequest) : EvidenceKey :=
  ⟨request.device, request.kind, request.source.source⟩

namespace Registry

section

variable (s)

/-- Refusals that look at the stream: the stream bound and the tombstone. -/
def streamRefusal (request : AdmissionRequest) : Option Refusal :=
  if s.findStream request.key = none ∧ s.countStreams ≥ s.policy.limits.maxStreams.toNat then
    some ⟨.rejectedStreamBudgetExhausted, text "stream bound reached"⟩
  else if ∃ tombstone ∈ s.findTombstone request.key, tombstone.generation ≥ request.generation then
    some ⟨.rejectedRetiredStream, text "stream is retired at this generation or later"⟩
  else none

/-- Authority evidence from a source carries. -/
def sourceAuthority (source : SourceId) : AuthorityRank :=
  match s.policy.findSource source with
  | some source => source.authority
  | none => .none

/-- The record content a request asserts, stamped with the registry's epochs. -/
def evidenceOf (request : AdmissionRequest) : CapabilityEvidence where
  key := request.key
  sourceIncarnation := request.source
  capabilityVersion := request.capabilityVersion
  features := request.features
  limits := request.limits
  firmwareVersion := request.firmwareVersion
  firmwareGeneration := request.firmwareGeneration
  runtimeVersion := request.runtimeVersion
  runtimeGeneration := request.runtimeGeneration
  observedAt := request.observedAt
  validUntil := request.validUntil
  generation := request.generation
  authority := s.sourceAuthority request.source.source
  epochAtIngest := s.epoch
  bootAtIngest := s.bootEpoch
  policyRevision := s.policyRevision

/-- Count a rejected admission. -/
def countRejected : Registry :=
  { s with counters := { s.counters with admissionsRejected := s.counters.admissionsRejected + 1 } }

/-- Refuse and count an admission. -/
def rejectAdmission (refusal : Refusal) : Outcome AdmissionOutcome × Registry :=
  (.failure refusal.reason refusal.detail, s.countRejected)

/-- A record with this id is already stored in its stream. -/
def admitDuplicate (evidence : CapabilityEvidence) (now : Tick) : Outcome AdmissionOutcome × Registry :=
  (.success
    { id := evidence.id
      state := (s.derive evidence.key.device evidence.key.kind now 0).stateOf evidence.id
      reason := .alreadyPresent
      idempotent := true
      streamGeneration := (s.streamAt evidence.key).maxGeneration } .ok,
    { s with counters := { s.counters with admissionsIdempotent := s.counters.admissionsIdempotent + 1 } })

end

/-- Why a generation that does not exceed the stream's maximum is rejected. -/
def generationRejection (stream : Stream) (evidence : CapabilityEvidence) : ReasonCode :=
  if evidence.generation < stream.maxGeneration then .rejectedSupersededGeneration
  else .rejectedGenerationCollision

section

variable (evidence : CapabilityEvidence) (lifecycle : EvidenceLifecycle) (reason : ReasonCode) (now : Tick)

/-- A fresh record with no retirement. -/
def storedOf : StoredEvidence :=
  { evidence, lifecycle, admissionReason := reason, admittedAt := now, retiredAt := none,
    retirementReason := .ok }

@[simp] theorem storedOf_id : (storedOf evidence lifecycle reason now).id = evidence.id := rfl

end

/-- Store one more record in a stream whose maximum becomes `maxGeneration`. -/
def insertInStream (s : Registry) (key : EvidenceKey) (record : StoredEvidence)
    (maxGeneration : RecordGeneration) : Registry :=
  { s with
    streams := s.streams.insert key ⟨insertRecord record (s.streamAt key).records, maxGeneration⟩
    totalRecords := s.totalRecords + 1 }

/-- A rejected record is retained only below both record bounds. -/
def retainsRejected (s : Registry) (key : EvidenceKey) : Prop :=
  (s.streamAt key).records.length < s.policy.limits.maxRecordsPerStream.toNat ∧
    s.totalRecords < s.policy.limits.maxRecords.toNat

instance (s : Registry) (key : EvidenceKey) : Decidable (s.retainsRejected key) :=
  inferInstanceAs (Decidable (_ ∧ _))

section

variable (s) (evidence : CapabilityEvidence)

/-- What the caller is told about a rejected generation. -/
def rejectedOutcome : AdmissionOutcome where
  id := evidence.id
  state := .rejected
  reason := generationRejection (s.streamAt evidence.key) evidence
  streamGeneration := (s.streamAt evidence.key).maxGeneration

/-- Keep a rejected record beside the others; the stream's maximum stays. -/
def retainRejected (now : Tick) : Registry :=
  (s.insertInStream evidence.key
    (storedOf evidence .rejected (generationRejection (s.streamAt evidence.key) evidence) now)
    (s.streamAt evidence.key).maxGeneration).refreshConflict evidence.key.device evidence.key.kind now

/-- The generation regresses or collides: the caller is told, and the record kept where bounds allow. -/
def admitRejected (now : Tick) : Outcome AdmissionOutcome × Registry :=
  (.success (s.rejectedOutcome evidence) .ok,
    if s.retainsRejected evidence.key then s.countRejected.retainRejected evidence now else s.countRejected)

end

/-- The code an accepted record is stored with. -/
def acceptanceReason (stream : Stream) : ReasonCode :=
  if stream.maxGeneration = 0 then .acceptedNew else .acceptedSuperseding

section

variable (s)

/-- The registry right after an accepted record went into its stream, before the bounds are applied. -/
def insertAdmitted (evidence : CapabilityEvidence) (now : Tick) : Registry :=
  s.insertInStream evidence.key
    (storedOf evidence .admitted (acceptanceReason (s.streamAt evidence.key)) now) evidence.generation

/-- Undo an insertion the bounds did not allow. What was evicted before stays evicted. -/
def rollbackAdmission (key : EvidenceKey) (id : EvidenceId) : Registry :=
  let stream := (s.streamAt key).without id
  { s with
    streams := if stream.records = [] then s.streams.erase key else s.streams.insert key stream
    totalRecords := if (s.streamAt key).records.any (fun record => record.id == id) then s.totalRecords - 1
      else s.totalRecords }

/-- Ids demoted by an admission. -/
def supersededBy (evidence : CapabilityEvidence) : List EvidenceId :=
  if (s.streamAt evidence.key).maxGeneration = 0 then []
  else (((s.streamAt evidence.key).records.filter
    (fun record => record.evidence.generation < evidence.generation)).map StoredEvidence.id).insertionSort
      (· ≤ ·)

/-- Count an accepted admission. -/
def countAccepted : Registry :=
  { s with counters := { s.counters with admissionsAccepted := s.counters.admissionsAccepted + 1 } }

/-- An accepted admission under the bounds: count it and bring the group's conflict up to date. -/
def settleAccepted (key : EvidenceKey) (now : Tick) : Registry :=
  s.countAccepted.refreshConflict key.device key.kind now

end

/-- What the caller is told about an accepted record; `settled` is the registry it ends up in. -/
def acceptedOutcome (s settled : Registry) (evidence : CapabilityEvidence) (now : Tick)
    (evicted : List EvidenceId) : AdmissionOutcome where
  id := evidence.id
  state := (settled.derive evidence.key.device evidence.key.kind now 0).stateOf evidence.id
  reason := acceptanceReason (s.streamAt evidence.key)
  superseded := s.supersededBy evidence
  evicted
  conflict := (settled.derive evidence.key.device evidence.key.kind now 0).conflict
  streamGeneration := evidence.generation

/-- The refusal when the bounds cannot be met. -/
def budgetRefusal : Refusal :=
  ⟨.rejectedRecordBudgetExhausted, text "no evictable record exists to satisfy the record budget"⟩

section

variable (s) (evidence : CapabilityEvidence)

/-- Admit a record that advances its stream, and apply the bounds. -/
def admitAdvancing (now : Tick) : Outcome AdmissionOutcome × Registry :=
  match (s.insertAdmitted evidence now).enforceBudget evidence.key evidence.id now with
  | (false, bounded, _) => (bounded.rollbackAdmission evidence.key evidence.id).rejectAdmission budgetRefusal
  | (true, bounded, evicted) =>
    (.success (s.acceptedOutcome (bounded.settleAccepted evidence.key now) evidence now evicted) .ok,
      bounded.settleAccepted evidence.key now)

/-- The stream holds a record with the id of this evidence. -/
def isDuplicate : Bool :=
  (s.streamAt evidence.key).records.any (fun record => record.id == evidence.id)

/-- The generation does not exceed the maximum of a stream that has one. -/
def isRegression : Prop :=
  (s.streamAt evidence.key).maxGeneration ≠ 0 ∧
    evidence.generation ≤ (s.streamAt evidence.key).maxGeneration

instance (s : Registry) (evidence : CapabilityEvidence) : Decidable (s.isRegression evidence) :=
  inferInstanceAs (Decidable (_ ∧ _))

/-- The part of admission that works on the stream. A missing stream has no duplicate and no maximum, so
    only an advancing record creates one. -/
def admitToStream (now : Tick) : Outcome AdmissionOutcome × Registry :=
  if s.isDuplicate evidence then s.admitDuplicate evidence now
  else if s.isRegression evidence then s.admitRejected evidence now
  else s.admitAdvancing evidence now

end

/-- `Registry::admit`. -/
def admitRequest (s : Registry) (request : AdmissionRequest) (now : Tick) : Outcome AdmissionOutcome × Registry :=
  match s.admissionRefusal request now with
  | some refusal => s.rejectAdmission refusal
  | none =>
    match s.registerIncarnation request.device with
    | .error refusal => s.rejectAdmission refusal
    | .ok registered =>
      match registered.streamRefusal request with
      | some refusal => registered.rejectAdmission refusal
      | none => registered.admitToStream (registered.evidenceOf request) now

end Registry

/-! ### The ways an admission can go -/

/-- A request that reaches its stream, with the registry that has its incarnation registered. -/
structure Admissible (s : Registry) (request : AdmissionRequest) (now : Tick) (t : Registry) : Prop where
  accepted : s.admissionRefusal request now = none
  registered : s.registerIncarnation request.device = .ok t
  unfenced : t.streamRefusal request = none

/-- A record that is new to its stream and advances it. -/
structure Advancing (t : Registry) (evidence : CapabilityEvidence) : Prop where
  fresh : t.isDuplicate evidence = false
  advances : ¬ t.isRegression evidence

section

variable (s : Registry) (request : AdmissionRequest) (now : Tick)

/-- What applying the bounds gives with the request's record in place. -/
abbrev Registry.Budgeted (ok : Bool) (u : Registry) (ids : List EvidenceId) : Prop :=
  (s.insertAdmitted (s.evidenceOf request) now).enforceBudget request.key (s.evidenceOf request).id now = (ok, u, ids)

/-- Evictions with the request's record in place, which is spared. -/
abbrev Registry.Displaces (u : Registry) (ids : List EvidenceId) : Prop :=
  Evicts (s.evidenceOf request).id now (s.insertAdmitted (s.evidenceOf request) now) u ids

/-- Every way an admission can go, with what it returns and the registry it leaves. -/
inductive Admission : Outcome AdmissionOutcome × Registry → Prop
  | refused {refusal : Refusal} (hrefused : s.admissionRefusal request now = some refusal) :
      Admission (s.rejectAdmission refusal)
  | unregistered {refusal : Refusal} (haccepted : s.admissionRefusal request now = none)
      (hbound : s.registerIncarnation request.device = .error refusal) :
      Admission (s.rejectAdmission refusal)
  | fenced {t : Registry} {refusal : Refusal} (haccepted : s.admissionRefusal request now = none)
      (hregistered : s.registerIncarnation request.device = .ok t)
      (hfenced : t.streamRefusal request = some refusal) :
      Admission (t.rejectAdmission refusal)
  | duplicate {t : Registry} (ht : Admissible s request now t)
      (hduplicate : t.isDuplicate (t.evidenceOf request) = true) :
      Admission (t.admitDuplicate (t.evidenceOf request) now)
  | rejected {t : Registry} (ht : Admissible s request now t)
      (hfresh : t.isDuplicate (t.evidenceOf request) = false)
      (hregression : t.isRegression (t.evidenceOf request))
      (hfull : ¬ t.retainsRejected request.key) :
      Admission (.success (t.rejectedOutcome (t.evidenceOf request)) .ok, t.countRejected)
  | retained {t : Registry} (ht : Admissible s request now t)
      (hfresh : t.isDuplicate (t.evidenceOf request) = false)
      (hregression : t.isRegression (t.evidenceOf request))
      (hroom : t.retainsRejected request.key) :
      Admission (.success (t.rejectedOutcome (t.evidenceOf request)) .ok,
        t.countRejected.retainRejected (t.evidenceOf request) now)
  | exhausted {t u : Registry} {ids : List EvidenceId} (ht : Admissible s request now t)
      (hnew : Advancing t (t.evidenceOf request))
      (hbudget : t.Budgeted request now false u ids) :
      Admission
        ((u.rollbackAdmission request.key (t.evidenceOf request).id).rejectAdmission Registry.budgetRefusal)
  | accepted {t u : Registry} {ids : List EvidenceId} (ht : Admissible s request now t)
      (hnew : Advancing t (t.evidenceOf request))
      (hbudget : t.Budgeted request now true u ids) :
      Admission
        (.success (t.acceptedOutcome (u.settleAccepted request.key now) (t.evidenceOf request) now ids) .ok,
          u.settleAccepted request.key now)

end

namespace Registry

/-- Inversion of `admitRequest`. -/
theorem admitRequest_view (s : Registry) {request : AdmissionRequest} {now : Tick} {result : _}
    (hop : s.admitRequest request now = result) : Admission s request now result := by
  subst hop
  rw [admitRequest]
  cases hrefusal : s.admissionRefusal request now with
  | some refusal => exact .refused hrefusal
  | none =>
    cases hregister : s.registerIncarnation request.device with
    | error refusal => exact .unregistered hrefusal hregister
    | ok t =>
      cases hfence : t.streamRefusal request with
      | some refusal =>
        simp only [hfence]
        exact .fenced hrefusal hregister hfence
      | none =>
        have ht : Admissible s request now t := ⟨hrefusal, hregister, hfence⟩
        simp only [hfence]
        rw [admitToStream]
        cases hdup : t.isDuplicate (t.evidenceOf request) with
        | true => exact .duplicate ht hdup
        | false =>
          rw [if_neg Bool.false_ne_true]
          by_cases hregression : t.isRegression (t.evidenceOf request)
          · rw [if_pos hregression, admitRejected]
            by_cases hroom : t.retainsRejected (t.evidenceOf request).key
            · rw [if_pos hroom]
              exact .retained ht hdup hregression hroom
            · rw [if_neg hroom]
              exact .rejected ht hdup hregression hroom
          · rw [if_neg hregression, admitAdvancing]
            cases hbudget : (t.insertAdmitted (t.evidenceOf request) now).enforceBudget
                (t.evidenceOf request).key (t.evidenceOf request).id now with
            | mk ok rest =>
              obtain ⟨u, ids⟩ := rest
              cases ok with
              | false => exact .exhausted ht ⟨hdup, hregression⟩ hbudget
              | true => exact .accepted ht ⟨hdup, hregression⟩ hbudget

/-! ### What an admission leaves alone -/

/-- Registration touches the incarnation table and counter only. -/
theorem registerIncarnation_frame (h : s.registerIncarnation device = .ok t) :
    ∃ table next, t = { s with incarnationTable := table, nextIncarnation := next } := by
  cases registerView_of_ok h with
  | known _ _ => exact ⟨s.incarnationTable, _, rfl⟩
  | _ => exact ⟨_, _, rfl⟩

/-- Bringing a conflict up to date touches the conflict table and one counter only. -/
theorem refreshConflict_frame (s : Registry) (device : DeviceIncarnationRef) (kind : CapabilityKind) (now : Tick) :
    ∃ conflicts dropped, s.refreshConflict device kind now =
      { s with conflictTable := conflicts, counters := { s.counters with conflictsDropped := dropped } } := by
  have hcounters : ∃ dropped, (s.refreshedConflicts device kind now).2 =
      { s.counters with conflictsDropped := dropped } := by
    generalize hop : s.refreshedConflicts device kind now = result
    cases s.refreshedConflicts_view hop with
    | _ => exact ⟨_, rfl⟩
  obtain ⟨dropped, hdropped⟩ := hcounters
  exact ⟨(s.refreshedConflicts device kind now).1, dropped, by rw [refreshConflict, hdropped]⟩

/-- `t` differs from `s` only in what an admission may touch, and no tombstone was dropped. -/
def AdmitFrame (s t : Registry) : Prop :=
  ∃ table next streams total conflicts ledger counters,
    t = { s with
      incarnationTable := table
      nextIncarnation := next
      streams
      totalRecords := total
      conflictTable := conflicts
      evictionTable := ledger
      counters } ∧
    counters.tombstonesDropped = s.counters.tombstonesDropped

theorem AdmitFrame.trans (hst : AdmitFrame s t) (htu : AdmitFrame t u) : AdmitFrame s u := by
  obtain ⟨_, _, _, _, _, _, _, rfl, hdropped⟩ := hst
  obtain ⟨table, next, streams, total, conflicts, ledger, counters, rfl, hdropped'⟩ := htu
  exact ⟨table, next, streams, total, conflicts, ledger, counters, rfl, hdropped'.trans hdropped⟩

theorem AdmitFrame.registered (h : s.registerIncarnation device = .ok t) : AdmitFrame s t := by
  obtain ⟨table, next, rfl⟩ := registerIncarnation_frame h
  exact ⟨table, next, _, _, _, _, _, rfl, rfl⟩

theorem AdmitFrame.refreshed (s : Registry) (device : DeviceIncarnationRef) (kind : CapabilityKind)
    (now : Tick) : AdmitFrame s (s.refreshConflict device kind now) := by
  obtain ⟨conflicts, dropped, hrefresh⟩ := s.refreshConflict_frame device kind now
  rw [hrefresh]
  exact ⟨_, _, _, _, conflicts, _, _, rfl, rfl⟩

theorem AdmitFrame.evicted {incoming : EvidenceId} {now : Tick} (h : Evicts incoming now s t ids) : AdmitFrame s t := by
  obtain ⟨streams, total, ledger, _, _, rfl⟩ := h.frame
  exact ⟨_, _, streams, total, _, ledger, _, rfl, rfl⟩

/-- The evictions an admission makes. -/
theorem evicts_of_budget {key : EvidenceKey} {id : EvidenceId} {now : Tick} {ok : Bool}
    (h : t.enforceBudget key id now = (ok, u, ids)) : Evicts id now t u ids := by
  obtain ⟨ok', u', ids', hspec, hevicts, _⟩ := t.enforceBudget_spec key id now
  rw [h] at hspec
  cases hspec
  exact hevicts

theorem admitRequest_frame (s : Registry) (request : AdmissionRequest) (now : Tick) :
    AdmitFrame s (s.admitRequest request now).2 := by
  generalize hop : s.admitRequest request now = result
  cases s.admitRequest_view hop with
  | fenced _ hregistered _ =>
    exact (AdmitFrame.registered hregistered).trans ⟨_, _, _, _, _, _, _, rfl, rfl⟩
  | duplicate ht _ | rejected ht _ _ _ =>
    exact (AdmitFrame.registered ht.registered).trans ⟨_, _, _, _, _, _, _, rfl, rfl⟩
  | @retained t ht _ _ _ =>
    refine (AdmitFrame.registered ht.registered).trans (AdmitFrame.trans ?_ (AdmitFrame.refreshed _ _ _ _))
    exact ⟨_, _, _, _, _, _, _, rfl, rfl⟩
  | @exhausted t u ids ht _ hbudget =>
    have hinserted : AdmitFrame t (t.insertAdmitted (t.evidenceOf request) now) :=
      ⟨_, _, _, _, _, _, _, rfl, rfl⟩
    refine (AdmitFrame.registered ht.registered).trans (hinserted.trans
      ((AdmitFrame.evicted (evicts_of_budget hbudget)).trans ?_))
    exact ⟨_, _, _, _, _, _, _, rfl, rfl⟩
  | @accepted t u ids ht _ hbudget =>
    have hinserted : AdmitFrame t (t.insertAdmitted (t.evidenceOf request) now) :=
      ⟨_, _, _, _, _, _, _, rfl, rfl⟩
    have hcounted : AdmitFrame u u.countAccepted := ⟨_, _, _, _, _, _, _, rfl, rfl⟩
    exact (AdmitFrame.registered ht.registered).trans (hinserted.trans
      ((AdmitFrame.evicted (evicts_of_budget hbudget)).trans
        (hcounted.trans (AdmitFrame.refreshed _ _ _ _))))
  | _ => exact ⟨_, _, _, _, _, _, _, rfl, rfl⟩

end Registry

end Ocreg
