/-
Module: Ocreg.Wire.Payloads
Purpose: The payloads of the wire protocol: the response envelope, the requests of the opcodes and the answers they
  get, with the encoders and decoders of protocol.cpp.
-/
import Ocreg.Codec.State
import Ocreg.Wire.Frame

namespace Ocreg

open List Decoder Reader

/-! ### Envelope -/

/-- Every answer travels in one. -/
structure ResponseEnvelope where
  reason : ReasonCode := .ok
  detail : Bytes := []
  body : Bytes := []
deriving DecidableEq

namespace ResponseEnvelope

def encode (e : ResponseEnvelope) : Bytes := Writer.reason e.reason ++ (Writer.str e.detail ++ Writer.str e.body)

def decode : Reader ResponseEnvelope := do
  let reason ← Reader.reason
  let detail ← str
  ensure (detail.length ≤ 4096) .rejectedOversizedInput
  let length ← u32
  ensure (length.toNat ≤ kMaxFramePayload) .rejectedOversizedInput
  let body ← takeBytes .rejectedTruncatedInput length.toNat
  pure { reason, detail, body }

theorem roundTrip {e : ResponseEnvelope} (hdetail : e.detail.length ≤ 4096)
    (hbody : e.body.length ≤ kMaxFramePayload) : RoundTrip encode decode e := by
  intro rest
  have hlength : (UInt32.ofNat e.body.length).toNat = e.body.length := by
    rw [UInt32.toNat_ofNat']
    exact Nat.mod_eq_of_lt (lt_of_le_of_lt hbody (by decide))
  have hstr := str_put (lt_of_le_of_lt hdetail (by decide)) (Writer.str e.body ++ rest)
  rw [encode, append_assoc, append_assoc, decode, bind_of_ok _ (reason_put _ _),
    bind_of_ok _ hstr, bind_of_ok _ (ensure_of _ _ hdetail), Writer.str, append_assoc,
    bind_of_ok _ (u32_put _ _), bind_of_ok _ (ensure_of _ _ (hlength.trans_le hbody)),
    bind_of_ok _ (takeBytes_append _ rest hlength.symm)]
  rfl

@[simp] theorem length_encode (e : ResponseEnvelope) : e.encode.length = 10 + e.detail.length + e.body.length := by
  simp only [encode, Writer.reason, Writer.str, length_append, length_u16, length_u32]
  omega

end ResponseEnvelope

/-! ### Requests -/

structure NowRequest where
  now : Tick

namespace NowRequest

def encode (r : NowRequest) : Bytes := Writer.u64 r.now

def decode : Reader NowRequest := do
  let now ← u64
  pure ⟨now⟩

theorem roundTrip (r : NowRequest) : RoundTrip encode decode r := by
  intro rest
  simp [encode, decode, run_bind]

end NowRequest

structure QueryRequest where
  query : CapabilityQuery
  now : Tick

namespace QueryRequest

def encode (r : QueryRequest) : Bytes :=
  r.query.device.encode ++ (Writer.u16 r.query.kind.code ++ (Writer.u64 r.query.maxEvidenceAge ++
    (Writer.boolean r.query.includeHistory ++ Writer.u64 r.now)))

def decode : Reader QueryRequest := do
  let device ← DeviceIncarnationRef.decode
  let kind ← decodeKind
  let maxEvidenceAge ← u64
  let includeHistory ← boolean
  let now ← u64
  pure ⟨{ device, kind, maxEvidenceAge, includeHistory }, now⟩

end QueryRequest

structure EvaluateRequest where
  requirement : CapabilityRequirement
  now : Tick

namespace EvaluateRequest

def encode (r : EvaluateRequest) : Bytes := r.requirement.encode ++ Writer.u64 r.now

def decode : Reader EvaluateRequest := do
  let requirement ← CapabilityRequirement.decode
  let now ← u64
  pure ⟨requirement, now⟩

end EvaluateRequest

structure ExplainRequest where
  id : DecisionId

namespace ExplainRequest

def encode (r : ExplainRequest) : Bytes := Writer.digest r.id

def decode : Reader ExplainRequest := do
  let id ← digest
  pure ⟨id⟩

end ExplainRequest

structure ExportRequest where
  options : ExportOptions
  now : Tick

namespace ExportRequest

def encode (r : ExportRequest) : Bytes :=
  Writer.boolean r.options.includeHistory ++ (Writer.boolean r.options.includeRejected ++
    (Writer.boolean r.options.includeEvictions ++ (Writer.boolean r.options.includePolicy ++
    (Writer.boolean r.options.pretty ++ (Writer.u64 r.options.maxRecords ++ (Writer.u64 r.options.maxBytes ++
    Writer.u64 r.now))))))

def decode : Reader ExportRequest := do
  let includeHistory ← boolean
  let includeRejected ← boolean
  let includeEvictions ← boolean
  let includePolicy ← boolean
  let pretty ← boolean
  let maxRecords ← u64
  let maxBytes ← u64
  let now ← u64
  pure ⟨{ includeHistory, includeRejected, includeEvictions, includePolicy, pretty, maxRecords, maxBytes }, now⟩

end ExportRequest

structure SourceRequest where
  source : SourceId
  now : Tick

namespace SourceRequest

def encode (r : SourceRequest) : Bytes := Writer.name r.source ++ Writer.u64 r.now

def decode : Reader SourceRequest := do
  let source ← name
  let now ← u64
  pure ⟨source, now⟩

theorem decode_yields : decode.Yields (fun request => request.source.chars ≠ []) :=
  .bind name_yields fun _ h => .bind_any fun _ => .pure h

end SourceRequest

structure AuthorityRequest where
  source : SourceId
  authority : AuthorityRank
  now : Tick

namespace AuthorityRequest

def encode (r : AuthorityRequest) : Bytes :=
  Writer.name r.source ++ (Writer.u16 r.authority.numeric ++ Writer.u64 r.now)

def decode : Reader AuthorityRequest := do
  let source ← name
  let authority ← enum AuthorityRank.ofNumeric? .rejectedMalformedDocument
  let now ← u64
  pure ⟨source, authority, now⟩

end AuthorityRequest

structure SourcePolicyRequest where
  policy : SourcePolicy
  now : Tick

namespace SourcePolicyRequest

def encode (r : SourcePolicyRequest) : Bytes := r.policy.encode ++ Writer.u64 r.now

def decode : Reader SourcePolicyRequest := do
  let policy ← SourcePolicy.decode
  let now ← u64
  pure ⟨policy, now⟩

end SourcePolicyRequest

structure IncarnationRequest where
  device : DeviceIdentity
  now : Tick

namespace IncarnationRequest

def encode (r : IncarnationRequest) : Bytes := r.device.encode ++ Writer.u64 r.now

def decode : Reader IncarnationRequest := do
  let device ← DeviceIdentity.decode
  let now ← u64
  pure ⟨device, now⟩

end IncarnationRequest

structure ResolveConflictRequest where
  conflict : ConflictId
  chosen : EvidenceId
  resolver : SourceId
  now : Tick

namespace ResolveConflictRequest

def encode (r : ResolveConflictRequest) : Bytes :=
  Writer.digest r.conflict ++ (Writer.digest r.chosen ++ (Writer.name r.resolver ++ Writer.u64 r.now))

def decode : Reader ResolveConflictRequest := do
  let conflict ← digest
  let chosen ← digest
  let resolver ← name
  let now ← u64
  pure ⟨conflict, chosen, resolver, now⟩

end ResolveConflictRequest

/-! ### Small responses -/

structure BoolResponse where
  value : Bool := false
  reason : ReasonCode := .ok
deriving DecidableEq

namespace BoolResponse

def encode (r : BoolResponse) : Bytes := Writer.boolean r.value ++ Writer.reason r.reason

def decode : Reader BoolResponse := do
  let value ← boolean
  let reason ← Reader.reason
  pure ⟨value, reason⟩

end BoolResponse

structure IdResponse where
  incarnation : IncarnationId := 0
  reason : ReasonCode := .ok
deriving DecidableEq

namespace IdResponse

def encode (r : IdResponse) : Bytes := Writer.u64 r.incarnation ++ Writer.reason r.reason

def decode : Reader IdResponse := do
  let incarnation ← u64
  let reason ← Reader.reason
  pure ⟨incarnation, reason⟩

end IdResponse

structure ExportResponse where
  document : Bytes := []
  digest : Digest256 := .zero
  truncated : Bool := false
  notes : List ReasonCode := []
deriving DecidableEq

namespace ExportResponse

def encode (r : ExportResponse) : Bytes :=
  Writer.str r.document ++ (Writer.digest r.digest ++ (Writer.boolean r.truncated ++
    Writer.collection Writer.reason r.notes))

def decode : Reader ExportResponse := do
  let document ← str
  ensure (document.length ≤ kMaxFramePayload) .rejectedOversizedInput
  let digest ← Reader.digest
  let truncated ← boolean
  let notes ← collection Reader.reason 64 .rejectedOversizedInput
  pure { document, digest, truncated, notes }

end ExportResponse

structure EvictionLedgerResponse where
  entries : List EvictionEntry := []
  truncated : Bool := false

namespace EvictionLedgerResponse

def encode (r : EvictionLedgerResponse) : Bytes :=
  Writer.boolean r.truncated ++ Writer.collection EvictionEntry.encode r.entries

def decode : Reader EvictionLedgerResponse := do
  let truncated ← boolean
  let entries ← collection EvictionEntry.decode 1048576 .rejectedOversizedInput
  pure { truncated, entries }

end EvictionLedgerResponse

/-! ### Outcomes of admission and retirement -/

/-- `read_ids`. -/
def decodeIds : Reader (List EvidenceId) := collection digest 1048576 .rejectedOversizedInput

namespace AdmissionOutcome

def encode (o : AdmissionOutcome) : Bytes :=
  Writer.digest o.id ++ (Writer.u16 o.state.numeric ++ (Writer.reason o.reason ++ (Writer.boolean o.idempotent ++
    (Writer.collection Writer.digest o.superseded ++ (Writer.collection Writer.digest o.evicted ++
    (Writer.optional Writer.digest o.conflict ++ (Writer.u64 o.streamGeneration ++
    Writer.u64 o.conflictsOpened)))))))

def decode : Reader AdmissionOutcome := do
  let id ← Reader.digest
  let state ← enum EvidenceState.ofNumeric? .rejectedMalformedDocument
  let reason ← Reader.reason
  let idempotent ← boolean
  let superseded ← decodeIds
  let evicted ← decodeIds
  let conflict ← optional Reader.digest
  let streamGeneration ← u64
  let conflictsOpened ← u64
  pure { id, state, reason, idempotent, superseded, evicted, conflict, streamGeneration, conflictsOpened }

end AdmissionOutcome

namespace RetirementOutcome

def encode (o : RetirementOutcome) : Bytes :=
  o.key.encode ++ (Writer.u64 o.generation ++ (Writer.reason o.reason ++ (Writer.boolean o.idempotent ++
    (Writer.collection Writer.digest o.retired ++ Writer.collection Writer.digest o.evicted))))

def decode : Reader RetirementOutcome := do
  let key ← EvidenceKey.decode
  let generation ← u64
  let reason ← Reader.reason
  let idempotent ← boolean
  let retired ← decodeIds
  let evicted ← decodeIds
  pure { key, generation, reason, idempotent, retired, evicted }

end RetirementOutcome

/-! ### Query results, decisions and explanations -/

namespace EvidenceStateFact

def encode (f : EvidenceStateFact) : Bytes :=
  Writer.digest f.id ++ (Writer.u16 f.lifecycle.numeric ++ (Writer.u16 f.state.numeric ++ (Writer.reason f.reason ++
    (Writer.u64 f.observedAt ++ (Writer.u64 f.age ++ (Writer.u16 f.authority.numeric ++ (Writer.u64 f.generation ++
    (f.sourceIncarnation.encode ++ (f.capabilityVersion.encode ++ (f.features.encode ++ (f.limits.encode ++
    (Writer.optional SemVer.encode f.firmwareVersion ++
    Writer.optional SemVer.encode f.runtimeVersion))))))))))))

/-- Both codes are read before either is checked. -/
def decode : Reader EvidenceStateFact := do
  let id ← Reader.digest
  let rawLifecycle ← u16
  let rawState ← u16
  let lifecycle ← expect .rejectedMalformedDocument (EvidenceLifecycle.ofNumeric? rawLifecycle)
  let state ← expect .rejectedMalformedDocument (EvidenceState.ofNumeric? rawState)
  let reason ← Reader.reason
  let observedAt ← u64
  let age ← u64
  let authority ← enum AuthorityRank.ofNumeric? .rejectedMalformedDocument
  let generation ← u64
  let sourceIncarnation ← SourceIncarnation.decode
  let capabilityVersion ← SemVer.decode
  let features ← FeatureSet.decode
  let limits ← LimitSet.decode
  let firmwareVersion ← optional SemVer.decode
  let runtimeVersion ← optional SemVer.decode
  pure { id, lifecycle, state, reason, observedAt, age, authority, generation, sourceIncarnation, capabilityVersion,
         features, limits, firmwareVersion, runtimeVersion }

end EvidenceStateFact

/-- A list of reasons, put in canonical order after it is read. -/
def decodeReasons : Reader (List ReasonCode) := do
  let reasons ← collection reason 4096 .rejectedOversizedInput
  pure (canonicalReasons reasons)

def decodeFacts : Reader (List EvidenceStateFact) :=
  collection EvidenceStateFact.decode 1048576 .rejectedOversizedInput

namespace QueryResult

def encode (q : QueryResult) : Bytes :=
  Writer.u16 q.kind.numeric ++ (q.device.encode ++ (Writer.u16 q.kindRequested.code ++
    (Writer.collection Writer.reason q.reasons ++ (Writer.collection EvidenceStateFact.encode q.facts ++
    (Writer.optional Writer.digest q.selected ++ (Writer.optional Writer.digest q.conflict ++
    (Writer.u64 q.ruleGeneration ++ (Writer.u64 q.registryEpoch ++ (Writer.u64 q.policyRevision ++
    Writer.u64 q.evaluatedAt)))))))))

def decode : Reader QueryResult := do
  let kind ← enum DecisionKind.ofNumeric? .rejectedMalformedDocument
  let device ← DeviceIncarnationRef.decode
  let kindRequested ← decodeKind
  let reasons ← decodeReasons
  let facts ← decodeFacts
  let selected ← optional digest
  let conflict ← optional digest
  let ruleGeneration ← u64
  let registryEpoch ← u64
  let policyRevision ← u64
  let evaluatedAt ← u64
  pure { kind, device, kindRequested, reasons, facts, selected, conflict, ruleGeneration, registryEpoch,
         policyRevision, evaluatedAt }

end QueryResult

namespace CompatibilityDecision

def encode (d : CompatibilityDecision) : Bytes :=
  Writer.digest d.id ++ (Writer.u16 d.kind.numeric ++ (d.device.encode ++ (Writer.u16 d.capability.code ++
    (d.requirement.encode ++ (Writer.collection Writer.reason d.reasons ++
    (Writer.collection Writer.digest d.evidence ++ (Writer.collection EvidenceStateFact.encode d.evidenceFacts ++
    (Writer.optional Writer.digest d.selected ++ (Writer.optional Writer.digest d.conflict ++
    (Writer.u16 d.selectedAuthority.numeric ++ (Writer.u64 d.ruleGeneration ++ (Writer.u64 d.registryEpoch ++
    (Writer.u64 d.policyRevision ++ Writer.u64 d.evaluatedAt)))))))))))))

def decode : Reader CompatibilityDecision := do
  let id ← digest
  let kind ← enum DecisionKind.ofNumeric? .rejectedMalformedDocument
  let device ← DeviceIncarnationRef.decode
  let capability ← decodeKind
  let requirement ← CapabilityRequirement.decode
  let reasons ← decodeReasons
  let evidence ← decodeIds
  let evidenceFacts ← decodeFacts
  let selected ← optional digest
  let conflict ← optional digest
  let selectedAuthority ← enum AuthorityRank.ofNumeric? .rejectedMalformedDocument
  let ruleGeneration ← u64
  let registryEpoch ← u64
  let policyRevision ← u64
  let evaluatedAt ← u64
  pure { id, kind, device, capability, requirement, reasons, evidence, evidenceFacts, selected, conflict,
         selectedAuthority, ruleGeneration, registryEpoch, policyRevision, evaluatedAt }

end CompatibilityDecision

namespace Explanation

def encode (e : Explanation) : Bytes :=
  e.decision.encode ++ (Writer.boolean e.decisionAvailable ++ (Writer.reason e.reason ++
    (Writer.collection SourcePolicy.encode e.involvedSources ++ (Writer.optional ConflictGroup.encode e.conflict ++
    Writer.optional ConflictResolution.encode e.resolution))))

def decode : Reader Explanation := do
  let decision ← CompatibilityDecision.decode
  let decisionAvailable ← boolean
  let reason ← Reader.reason
  let involvedSources ← collection SourcePolicy.decode 4096 .rejectedOversizedInput
  let conflict ← optional ConflictGroup.decode
  let resolution ← optional ConflictResolution.decode
  pure { decision, decisionAvailable, reason, involvedSources, conflict, resolution }

end Explanation

/-! ### Statistics -/

namespace RegistryStats

def encode (s : RegistryStats) : Bytes :=
  Writer.u64 s.devices ++ (Writer.u64 s.incarnations ++ (Writer.u64 s.streams ++ (Writer.u64 s.recordsTotal ++
    (Writer.u64 s.recordsActive ++ (Writer.u64 s.recordsSuperseded ++ (Writer.u64 s.recordsRetired ++
    (Writer.u64 s.recordsRejected ++ (Writer.u64 s.recordsFenced ++ (Writer.u64 s.recordsStale ++
    (Writer.u64 s.recordsOutranked ++ (Writer.u64 s.recordsEvicted ++ (Writer.u64 s.conflictsOpen ++
    (Writer.u64 s.conflictsResolved ++ (Writer.u64 s.tombstones ++ (Writer.u64 s.resolutions ++
    (Writer.u64 s.evictionLedgerDropped ++ (Writer.u64 s.conflictsDropped ++ (Writer.u64 s.resolutionsDropped ++
    (Writer.u64 s.tombstonesDropped ++ (Writer.u64 s.decisionsEmitted ++ (Writer.u64 s.decisionsEvicted ++
    (Writer.u64 s.admissionsAccepted ++ (Writer.u64 s.admissionsIdempotent ++ (Writer.u64 s.admissionsRejected ++
    (Writer.u64 s.retirementsAccepted ++ (Writer.u64 s.retirementsRejected ++ (Writer.u64 s.registryEpoch ++
    (Writer.u64 s.ruleGeneration ++ (Writer.u64 s.policyRevision ++ (Writer.u64 s.bootEpoch ++
    Writer.u64 s.logicalTick))))))))))))))))))))))))))))))

def decode : Reader RegistryStats := do
  let devices ← u64
  let incarnations ← u64
  let streams ← u64
  let recordsTotal ← u64
  let recordsActive ← u64
  let recordsSuperseded ← u64
  let recordsRetired ← u64
  let recordsRejected ← u64
  let recordsFenced ← u64
  let recordsStale ← u64
  let recordsOutranked ← u64
  let recordsEvicted ← u64
  let conflictsOpen ← u64
  let conflictsResolved ← u64
  let tombstones ← u64
  let resolutions ← u64
  let evictionLedgerDropped ← u64
  let conflictsDropped ← u64
  let resolutionsDropped ← u64
  let tombstonesDropped ← u64
  let decisionsEmitted ← u64
  let decisionsEvicted ← u64
  let admissionsAccepted ← u64
  let admissionsIdempotent ← u64
  let admissionsRejected ← u64
  let retirementsAccepted ← u64
  let retirementsRejected ← u64
  let registryEpoch ← u64
  let ruleGeneration ← u64
  let policyRevision ← u64
  let bootEpoch ← u64
  let logicalTick ← u64
  pure { devices, incarnations, streams, recordsTotal, recordsActive, recordsSuperseded, recordsRetired,
         recordsRejected, recordsFenced, recordsStale, recordsOutranked, recordsEvicted, conflictsOpen,
         conflictsResolved, tombstones, resolutions, evictionLedgerDropped, conflictsDropped, resolutionsDropped,
         tombstonesDropped, decisionsEmitted, decisionsEvicted, admissionsAccepted, admissionsIdempotent,
         admissionsRejected, retirementsAccepted, retirementsRejected, registryEpoch, ruleGeneration,
         policyRevision, bootEpoch, logicalTick }

end RegistryStats

end Ocreg
