/-
Module: Ocreg.Wire.RoundTrips
Purpose: Every payload the protocol carries is read back from its own encoding, with nothing left over.
-/
import Ocreg.Registry.Step
import Ocreg.Wire.Payloads

namespace Ocreg

open List Decoder Reader

/-! ### Parts -/

theorem optionalDigest_put (value : Option Digest256) (rest : Bytes) :
    (Reader.optional Reader.digest).run (Writer.optional Writer.digest value ++ rest) = .ok (value, rest) :=
  optional_put (fun v _ => digest_put v) rest

theorem decodeIds_put {ids : List EvidenceId} (h : ids.length ≤ 1048576) (rest : Bytes) :
    decodeIds.run (Writer.collection Writer.digest ids ++ rest) = .ok (ids, rest) :=
  digests_put h rest

/-- Reasons as `canonicalize_reasons` leaves them, within the bound of the decoders. -/
structure ReasonsWF (reasons : List ReasonCode) : Prop where
  canonical : canonicalReasons reasons = reasons
  length_le : reasons.length ≤ 4096

theorem decodeReasons_put {reasons : List ReasonCode} (h : ReasonsWF reasons) (rest : Bytes) :
    decodeReasons.run (Writer.collection Writer.reason reasons ++ rest) = .ok (reasons, rest) := by
  have hread := collection_put .rejectedOversizedInput (fun reason _ => reason_put reason) h.length_le (by decide) rest
  rw [decodeReasons, bind_of_ok _ hread, h.canonical]
  rfl

theorem decisionKind_put (kind : DecisionKind) (rest : Bytes) :
    (Reader.enum DecisionKind.ofNumeric? .rejectedMalformedDocument).run (Writer.u16 kind.numeric ++ rest)
      = .ok (kind, rest) := enum_put _ (DecisionKind.ofNumeric?_numeric kind) rest

/-! ### Requests -/

theorem QueryRequest.roundTrip {r : QueryRequest} (h : r.query.device.WF) : RoundTrip encode decode r := by
  intro rest
  simp [encode, decode, run_bind, (DeviceIncarnationRef.roundTrip h).apply]

theorem EvaluateRequest.roundTrip {r : EvaluateRequest} (h : r.requirement.WF) : RoundTrip encode decode r := by
  intro rest
  simp [encode, decode, run_bind, (CapabilityRequirement.roundTrip h).apply]

theorem ExplainRequest.roundTrip (r : ExplainRequest) : RoundTrip encode decode r := by
  intro rest
  simp [encode, decode, run_bind]

theorem ExportRequest.roundTrip (r : ExportRequest) : RoundTrip encode decode r := by
  intro rest
  simp [encode, decode, run_bind]

theorem SourceRequest.roundTrip {r : SourceRequest} (h : r.source.chars ≠ []) : RoundTrip encode decode r := by
  intro rest
  simp [encode, decode, run_bind, name_put h]

theorem AuthorityRequest.roundTrip {r : AuthorityRequest} (h : r.source.chars ≠ []) : RoundTrip encode decode r := by
  intro rest
  simp [encode, decode, run_bind, name_put h, authority_put]

theorem SourcePolicyRequest.roundTrip {r : SourcePolicyRequest} (h : r.policy.id.chars ≠ []) :
    RoundTrip encode decode r := by
  intro rest
  simp [encode, decode, run_bind, (SourcePolicy.roundTrip h).apply]

theorem IncarnationRequest.roundTrip {r : IncarnationRequest} (h : r.device.WF) : RoundTrip encode decode r := by
  intro rest
  simp [encode, decode, run_bind, (DeviceIdentity.roundTrip h).apply]

theorem ResolveConflictRequest.roundTrip {r : ResolveConflictRequest} (h : r.resolver.chars ≠ []) :
    RoundTrip encode decode r := by
  intro rest
  simp [encode, decode, run_bind, name_put h]

/-! ### Small responses -/

theorem BoolResponse.roundTrip (r : BoolResponse) : RoundTrip encode decode r := by
  intro rest
  simp [encode, decode, run_bind]

theorem IdResponse.roundTrip (r : IdResponse) : RoundTrip encode decode r := by
  intro rest
  simp [encode, decode, run_bind]

structure ExportResponse.WF (r : ExportResponse) : Prop where
  document_le : r.document.length ≤ kMaxFramePayload
  notes_le : r.notes.length ≤ 64

theorem ExportResponse.roundTrip {r : ExportResponse} (h : r.WF) : RoundTrip encode decode r := by
  intro rest
  have hdocument : r.document.length < 2 ^ 32 := lt_of_le_of_lt h.document_le (by decide)
  have hnotes := collection_put .rejectedOversizedInput (fun note _ => reason_put note) h.notes_le (by decide) rest
  simp only [encode, append_assoc, decode, run_bind, str_put hdocument,
    ensure_of _ _ h.document_le, digest_put, boolean_put, hnotes,
    run_pure]

structure EvictionLedgerResponse.WF (r : EvictionLedgerResponse) : Prop where
  entries_le : r.entries.length ≤ 1048576
  entries : ∀ entry ∈ r.entries, entry.key.WF

theorem EvictionLedgerResponse.roundTrip {r : EvictionLedgerResponse} (h : r.WF) : RoundTrip encode decode r := by
  intro rest
  have hentries := collection_put .rejectedOversizedInput
    (fun entry hentry => EvictionEntry.roundTrip (h.entries entry hentry)) h.entries_le (by decide) rest
  rw [encode, append_assoc, decode, bind_of_ok _ (boolean_put _ _), bind_of_ok _ hentries]
  rfl

/-! ### Outcomes -/

structure AdmissionOutcome.WF (o : AdmissionOutcome) : Prop where
  superseded_le : o.superseded.length ≤ 1048576
  evicted_le : o.evicted.length ≤ 1048576

theorem AdmissionOutcome.roundTrip {o : AdmissionOutcome} (h : o.WF) : RoundTrip encode decode o := by
  intro rest
  simp [encode, decode, run_bind, EvictionEntry.evidenceState_put, decodeIds_put h.superseded_le,
    decodeIds_put h.evicted_le, optionalDigest_put]

structure RetirementOutcome.WF (o : RetirementOutcome) : Prop where
  key : o.key.WF
  retired_le : o.retired.length ≤ 1048576
  evicted_le : o.evicted.length ≤ 1048576

theorem RetirementOutcome.roundTrip {o : RetirementOutcome} (h : o.WF) : RoundTrip encode decode o := by
  intro rest
  simp [encode, decode, run_bind, (EvidenceKey.roundTrip h.key).apply, decodeIds_put h.retired_le,
    decodeIds_put h.evicted_le]

/-! ### Query results, decisions and explanations -/

structure EvidenceStateFact.WF (f : EvidenceStateFact) : Prop where
  source : f.sourceIncarnation.source.chars ≠ []
  features : f.features.WF
  limits : f.limits.WF

theorem EvidenceStateFact.roundTrip {f : EvidenceStateFact} (h : f.WF) : RoundTrip encode decode f := by
  intro rest
  simp only [encode, append_assoc, decode, run_bind, digest_put, u16_put,
    EvidenceLifecycle.ofNumeric?_numeric, EvidenceState.ofNumeric?_numeric, expect_some,
    reason_put, u64_put, authority_put,
    (SourceIncarnation.roundTrip h.source).apply, (SemVer.roundTrip _).apply,
    (FeatureSet.roundTrip h.features).apply, (LimitSet.roundTrip h.limits).apply,
    optionalVersion_put SemVer.roundTrip, run_pure]

structure FactsWF (facts : List EvidenceStateFact) : Prop where
  length_le : facts.length ≤ 1048576
  each : ∀ fact ∈ facts, fact.WF

theorem decodeFacts_put {facts : List EvidenceStateFact} (h : FactsWF facts) (rest : Bytes) :
    decodeFacts.run (Writer.collection EvidenceStateFact.encode facts ++ rest) = .ok (facts, rest) :=
  collection_put _ (fun fact hfact => EvidenceStateFact.roundTrip (h.each fact hfact)) h.length_le
    (by decide) rest

structure QueryResult.WF (q : QueryResult) : Prop where
  device : q.device.WF
  reasons : ReasonsWF q.reasons
  facts : FactsWF q.facts

theorem QueryResult.roundTrip {q : QueryResult} (h : q.WF) : RoundTrip encode decode q := by
  intro rest
  simp only [encode, append_assoc, decode, run_bind, decisionKind_put,
    (DeviceIncarnationRef.roundTrip h.device).apply, decodeKind_put, decodeReasons_put h.reasons,
    decodeFacts_put h.facts, optionalDigest_put, u64_put, run_pure]

structure CompatibilityDecision.WF (d : CompatibilityDecision) : Prop where
  device : d.device.WF
  requirement : d.requirement.WF
  reasons : ReasonsWF d.reasons
  evidence_le : d.evidence.length ≤ 1048576
  evidenceFacts : FactsWF d.evidenceFacts

theorem CompatibilityDecision.roundTrip {d : CompatibilityDecision} (h : d.WF) : RoundTrip encode decode d := by
  intro rest
  simp only [encode, append_assoc, decode, run_bind, digest_put, decisionKind_put,
    (DeviceIncarnationRef.roundTrip h.device).apply, decodeKind_put,
    (CapabilityRequirement.roundTrip h.requirement).apply, decodeReasons_put h.reasons, decodeIds_put h.evidence_le,
    decodeFacts_put h.evidenceFacts, optionalDigest_put, authority_put, u64_put, run_pure]

structure Explanation.WF (e : Explanation) : Prop where
  decision : e.decision.WF
  sources_le : e.involvedSources.length ≤ 4096
  sources : ∀ source ∈ e.involvedSources, source.id.chars ≠ []
  conflict : ∀ group ∈ e.conflict, group.WF
  resolution : ∀ resolution ∈ e.resolution, resolution.WF

theorem Explanation.roundTrip {e : Explanation} (h : e.WF) : RoundTrip encode decode e := by
  intro rest
  have hsources := collection_put ReasonCode.rejectedOversizedInput
    (fun source hsource => SourcePolicy.roundTrip (h.sources source hsource)) h.sources_le (by decide)
  have hconflict := optional_put (fun group hgroup => ConflictGroup.roundTrip (h.conflict group hgroup))
  have hresolution := optional_put (fun resolution hin => ConflictResolution.roundTrip (h.resolution resolution hin))
  simp only [encode, append_assoc, decode, run_bind,
    (CompatibilityDecision.roundTrip h.decision).apply, boolean_put, reason_put, hsources, hconflict,
    hresolution, run_pure]

theorem RegistryStats.roundTrip (s : RegistryStats) : RoundTrip encode decode s := by
  intro rest
  simp [encode, decode, run_bind]

/-! ### The protocol -/

structure ResponseEnvelope.WF (e : ResponseEnvelope) : Prop where
  detail_le : e.detail.length ≤ 4096
  body_le : e.body.length ≤ kMaxFramePayload

/-- A type of payloads with its codec and the values the codec is for: well-formed parts, canonical reasons and
    bounded collections. -/
structure Format (α : Type) where
  encode : α → Bytes
  decode : Reader α
  WF : α → Prop := fun _ => True

/-- What a frame, or the body of an envelope, may hold. -/
inductive Payload where
  | envelope | now | admission | retirement | query | evaluate | explain | exportRegistry | source | authority
  | sourcePolicy | incarnation | resolveConflict | boolResponse | idResponse | exportResponse | evictionLedger
  | admissionOutcome | retirementOutcome | fact | queryResult | decision | explanation | stats | policy | conflict
  | resolution
deriving DecidableEq

namespace Payload

abbrev Carrier : Payload → Type
  | envelope => ResponseEnvelope
  | now => NowRequest
  | admission => AdmissionRequest
  | retirement => RetirementRequest
  | query => QueryRequest
  | evaluate => EvaluateRequest
  | explain => ExplainRequest
  | exportRegistry => ExportRequest
  | source => SourceRequest
  | authority => AuthorityRequest
  | sourcePolicy => SourcePolicyRequest
  | incarnation => IncarnationRequest
  | resolveConflict => ResolveConflictRequest
  | boolResponse => BoolResponse
  | idResponse => IdResponse
  | exportResponse => ExportResponse
  | evictionLedger => EvictionLedgerResponse
  | admissionOutcome => AdmissionOutcome
  | retirementOutcome => RetirementOutcome
  | fact => EvidenceStateFact
  | queryResult => QueryResult
  | decision => CompatibilityDecision
  | explanation => Explanation
  | stats => RegistryStats
  | policy => SourcePolicy
  | conflict => ConflictGroup
  | resolution => ConflictResolution

def format : (payload : Payload) → Format payload.Carrier
  | envelope => { encode := ResponseEnvelope.encode, decode := ResponseEnvelope.decode, WF := ResponseEnvelope.WF }
  | now => { encode := NowRequest.encode, decode := NowRequest.decode }
  | admission => { encode := AdmissionRequest.encode, decode := AdmissionRequest.decode, WF := AdmissionRequest.WF }
  | retirement => { encode := RetirementRequest.encode, decode := RetirementRequest.decode, WF := RetirementRequest.WF }
  | query => { encode := QueryRequest.encode, decode := QueryRequest.decode, WF := fun value => value.query.device.WF }
  | evaluate =>
    { encode := EvaluateRequest.encode, decode := EvaluateRequest.decode, WF := fun value => value.requirement.WF }
  | explain => { encode := ExplainRequest.encode, decode := ExplainRequest.decode }
  | exportRegistry => { encode := ExportRequest.encode, decode := ExportRequest.decode }
  | source =>
    { encode := SourceRequest.encode, decode := SourceRequest.decode, WF := fun value => value.source.chars ≠ [] }
  | authority =>
    { encode := AuthorityRequest.encode, decode := AuthorityRequest.decode, WF := fun value => value.source.chars ≠ [] }
  | sourcePolicy =>
    { encode := SourcePolicyRequest.encode, decode := SourcePolicyRequest.decode,
        WF := fun value => value.policy.id.chars ≠ [] }
  | incarnation =>
    { encode := IncarnationRequest.encode, decode := IncarnationRequest.decode, WF := fun value => value.device.WF }
  | resolveConflict =>
    { encode := ResolveConflictRequest.encode, decode := ResolveConflictRequest.decode,
        WF := fun value => value.resolver.chars ≠ [] }
  | boolResponse => { encode := BoolResponse.encode, decode := BoolResponse.decode }
  | idResponse => { encode := IdResponse.encode, decode := IdResponse.decode }
  | exportResponse => { encode := ExportResponse.encode, decode := ExportResponse.decode, WF := ExportResponse.WF }
  | evictionLedger =>
    { encode := EvictionLedgerResponse.encode, decode := EvictionLedgerResponse.decode,
        WF := EvictionLedgerResponse.WF }
  | admissionOutcome =>
    { encode := AdmissionOutcome.encode, decode := AdmissionOutcome.decode, WF := AdmissionOutcome.WF }
  | retirementOutcome =>
    { encode := RetirementOutcome.encode, decode := RetirementOutcome.decode, WF := RetirementOutcome.WF }
  | fact => { encode := EvidenceStateFact.encode, decode := EvidenceStateFact.decode, WF := EvidenceStateFact.WF }
  | queryResult => { encode := QueryResult.encode, decode := QueryResult.decode, WF := QueryResult.WF }
  | decision =>
    { encode := CompatibilityDecision.encode, decode := CompatibilityDecision.decode, WF := CompatibilityDecision.WF }
  | explanation => { encode := Explanation.encode, decode := Explanation.decode, WF := Explanation.WF }
  | stats => { encode := RegistryStats.encode, decode := RegistryStats.decode }
  | policy => { encode := SourcePolicy.encode, decode := SourcePolicy.decode, WF := fun value => value.id.chars ≠ [] }
  | conflict => { encode := ConflictGroup.encode, decode := ConflictGroup.decode, WF := ConflictGroup.WF }
  | resolution =>
    { encode := ConflictResolution.encode, decode := ConflictResolution.decode, WF := ConflictResolution.WF }

theorem roundTrip {payload : Payload} {value : payload.Carrier} (h : payload.format.WF value) :
    RoundTrip payload.format.encode payload.format.decode value := by
  cases payload with
  | envelope => exact ResponseEnvelope.roundTrip h.detail_le h.body_le
  | now => exact NowRequest.roundTrip value
  | admission => exact AdmissionRequest.roundTrip h
  | retirement => exact RetirementRequest.roundTrip h
  | query => exact QueryRequest.roundTrip h
  | evaluate => exact EvaluateRequest.roundTrip h
  | explain => exact ExplainRequest.roundTrip value
  | exportRegistry => exact ExportRequest.roundTrip value
  | source => exact SourceRequest.roundTrip h
  | authority => exact AuthorityRequest.roundTrip h
  | sourcePolicy => exact SourcePolicyRequest.roundTrip h
  | incarnation => exact IncarnationRequest.roundTrip h
  | resolveConflict => exact ResolveConflictRequest.roundTrip h
  | boolResponse => exact BoolResponse.roundTrip value
  | idResponse => exact IdResponse.roundTrip value
  | exportResponse => exact ExportResponse.roundTrip h
  | evictionLedger => exact EvictionLedgerResponse.roundTrip h
  | admissionOutcome => exact AdmissionOutcome.roundTrip h
  | retirementOutcome => exact RetirementOutcome.roundTrip h
  | fact => exact EvidenceStateFact.roundTrip h
  | queryResult => exact QueryResult.roundTrip h
  | decision => exact CompatibilityDecision.roundTrip h
  | explanation => exact Explanation.roundTrip h
  | stats => exact RegistryStats.roundTrip value
  | policy => exact SourcePolicy.roundTrip h
  | conflict => exact ConflictGroup.roundTrip h
  | resolution => exact ConflictResolution.roundTrip h

/-- What either side encodes the other side decodes: the value itself, and every byte is consumed. -/
theorem decode_run_encode (payload : Payload) (value : payload.Carrier) (h : payload.format.WF value) :
    payload.format.decode.run (payload.format.encode value) = .ok (value, []) := by
  have hread := (roundTrip h).apply []
  rw [append_nil] at hread
  exact hread

/-- The answer to a query about a device nobody reported on. -/
theorem decode_run_encode_unreported : let result : QueryResult :=
      { kind := .unknown, device := Lab.device 0, kindRequested := .packetClassification,
        reasons := [.unknownNoEvidence], facts := [], selected := none, conflict := none, ruleGeneration := 1,
        registryEpoch := 1, policyRevision := 1, evaluatedAt := 5 }
    QueryResult.decode.run result.encode = .ok (result, []) := by
  intro result
  have hdevice : (Lab.device 0).WF :=
    ⟨⟨by simp [Lab.device, text], by simp [Lab.device, text], by decide, by simp [Lab.device]⟩, by decide⟩
  have hwf : QueryResult.WF result := ⟨hdevice, ⟨by decide, by decide⟩, ⟨by decide, by simp [result]⟩⟩
  exact decode_run_encode .queryResult result hwf

end Payload

end Ocreg
