/-
Module: Ocreg.Wire.Service
Purpose: The service of service.cpp: what each opcode asks of the registry, and the loop that reads requests off one
  connection and writes a reply to each.
-/
import Ocreg.Registry.Evaluate
import Ocreg.Wire.Payloads

namespace Ocreg

/-- `failure_envelope`. -/
def failureEnvelope (reason : ReasonCode) (detail : Bytes) : ResponseEnvelope := { reason, detail }

/-- `success_envelope`. -/
def successEnvelope {α : Type} (reason : ReasonCode) (encode : α → Bytes) (value : α) : ResponseEnvelope :=
  { reason, body := encode value }

/-- A failed outcome travels as its code and detail, a successful one as `success` says. -/
def outcomeEnvelope {α : Type} (outcome : Outcome α) (success : α → ReasonCode → ResponseEnvelope) : ResponseEnvelope :=
  match outcome with
  | .failure reason detail => failureEnvelope reason detail
  | .success value reason => success value reason

structure ServerOptions where
  maxFramePayload : Nat := kMaxFramePayload
  /-- Zero means unbounded. -/
  maxRequestsPerConnection : Nat := 0

/-- What the connections of a service share. -/
structure Service where
  registry : Registry
  shutdownFlag : Bool := false
  requestsServed : UInt64 := 0
  framesRejected : UInt64 := 0
  bytesRead : UInt64 := 0
  bytesWritten : UInt64 := 0
  shutdownRequests : UInt64 := 0

/-- `export_registry`, which reads the registry and leaves it as it is. -/
abbrev Exporter := Registry → ExportOptions → Tick → Outcome ExportResult

namespace Service

variable (exporter : Exporter)

/-! ### Dispatch -/

/-- Hand a request to `next` when it takes the whole payload. -/
def withRequest {α : Type} (service : Service) (decode : Reader α) (payload : Bytes) (rejected : String)
    (next : α → ResponseEnvelope × Service) : ResponseEnvelope × Service :=
  match decode.run payload with
  | .ok (request, []) => next request
  | _ => (failureEnvelope .protocolFrameMalformed (text rejected), service)

def withRegistry (service : Service) (registry : Registry) : Service := { service with registry }

/-- The requests that change one source entry answer with its outcome and code. -/
def sourceAnswer (service : Service) (result : Outcome Bool × Registry) : ResponseEnvelope × Service :=
  (outcomeEnvelope result.1 (fun value reason => successEnvelope .ok BoolResponse.encode ⟨value, reason⟩),
    service.withRegistry result.2)

/-- `Service::Impl::dispatch`. -/
def dispatch (service : Service) (header : FrameHeader) (payload : Bytes) : ResponseEnvelope × Service :=
  match OpCode.ofNumeric? header.opcode with
  | some .ping =>
    service.withRequest NowRequest.decode payload "ping payload rejected" fun _ =>
      (successEnvelope .ok BoolResponse.encode ⟨true, .ok⟩, service)
  | some .stats =>
    service.withRequest NowRequest.decode payload "stats payload rejected" fun request =>
      (successEnvelope .ok RegistryStats.encode (service.registry.stats request.now), service)
  | some .admitRequest =>
    service.withRequest AdmissionRequest.decode payload "admission payload rejected" fun request =>
      -- the tick of the request is the time of its own observation
      let result := service.registry.admitRequest request request.observedAt
      (outcomeEnvelope result.1 (fun outcome _ => successEnvelope outcome.reason AdmissionOutcome.encode outcome),
        service.withRegistry result.2)
  | some .retire =>
    service.withRequest RetirementRequest.decode payload "retirement payload rejected" fun request =>
      let result := service.registry.retire request request.retiredAt
      (outcomeEnvelope result.1 (fun outcome _ => successEnvelope outcome.reason RetirementOutcome.encode outcome),
        service.withRegistry result.2)
  | some .query =>
    service.withRequest QueryRequest.decode payload "query payload rejected" fun request =>
      (outcomeEnvelope (service.registry.query request.query request.now)
        (fun result _ => successEnvelope .ok QueryResult.encode result), service)
  | some .evaluate =>
    service.withRequest EvaluateRequest.decode payload "evaluation payload rejected" fun request =>
      let result := service.registry.evaluate request.requirement request.now
      (successEnvelope .ok CompatibilityDecision.encode result.1, service.withRegistry result.2)
  | some .explain =>
    service.withRequest ExplainRequest.decode payload "explain payload rejected" fun request =>
      (outcomeEnvelope (service.registry.explain request.id)
        (fun explanation _ => successEnvelope .ok Explanation.encode explanation), service)
  | some .exportRegistry =>
    service.withRequest ExportRequest.decode payload "export payload rejected" fun request =>
      let options := if request.options.maxBytes = 0 then
        { request.options with maxBytes := UInt64.ofNat kMaxFramePayload } else request.options
      (outcomeEnvelope (exporter service.registry options request.now) (fun result _ =>
        successEnvelope .ok ExportResponse.encode
          { document := result.document, digest := result.digest, truncated := result.truncated,
            notes := result.notes }), service)
  | some .revokeSource =>
    service.withRequest SourceRequest.decode payload "revoke payload rejected" fun request =>
      service.sourceAnswer (service.registry.revokeSource request.source request.now)
  | some .restoreSource =>
    service.withRequest SourceRequest.decode payload "restore payload rejected" fun request =>
      service.sourceAnswer (service.registry.restoreSource request.source request.now)
  | some .setSourceAuthority =>
    service.withRequest AuthorityRequest.decode payload "authority payload rejected" fun request =>
      service.sourceAnswer (service.registry.setSourceAuthority request.source request.authority request.now)
  | some .upsertSourcePolicy =>
    service.withRequest SourcePolicyRequest.decode payload "policy payload rejected" fun request =>
      let result := service.registry.upsertSourcePolicy request.policy request.now
      (outcomeEnvelope result.1 (fun policy _ => successEnvelope .ok SourcePolicy.encode policy),
        service.withRegistry result.2)
  | some .beginDeviceIncarnation =>
    service.withRequest IncarnationRequest.decode payload "incarnation payload rejected" fun request =>
      let result := service.registry.beginDeviceIncarnation request.device request.now
      (outcomeEnvelope result.1 (fun incarnation _ =>
        successEnvelope .ok IdResponse.encode ⟨incarnation, .acceptedNew⟩), service.withRegistry result.2)
  | some .currentIncarnation =>
    service.withRequest IncarnationRequest.decode payload "incarnation payload rejected" fun request =>
      (outcomeEnvelope (service.registry.currentIncarnation request.device) (fun incarnation _ =>
        successEnvelope .ok IdResponse.encode ⟨incarnation, .ok⟩), service)
  | some .resolveConflict =>
    service.withRequest ResolveConflictRequest.decode payload "resolution payload rejected" fun request =>
      let result := service.registry.resolveConflict request.conflict request.chosen request.resolver request.now
      (outcomeEnvelope result.1 (fun resolution _ => successEnvelope .ok ConflictResolution.encode resolution),
        service.withRegistry result.2)
  | some .evictionLedger =>
    service.withRequest NowRequest.decode payload "ledger payload rejected" fun _ =>
      (successEnvelope .ok EvictionLedgerResponse.encode ⟨service.registry.evictionTable, false⟩, service)
  | some .snapshot =>
    service.withRequest NowRequest.decode payload "snapshot payload rejected" fun _ =>
      ({ body := Writer.digest (stateDigest service.registry.toState) }, service)
  | some .shutdown =>
    service.withRequest NowRequest.decode payload "shutdown payload rejected" fun _ =>
      (successEnvelope .ok BoolResponse.encode ⟨true, .ok⟩,
        { service with shutdownRequests := service.shutdownRequests + 1, shutdownFlag := true })
  | none => (failureEnvelope .protocolUnknownOpcode (text "unhandled opcode"), service)

/-! ### Replies -/

/-- The reply to a frame that is refused. It names the opcode and request of the header as far as it was read. -/
def refusalReply (header : FrameHeader) (reason : ReasonCode) (detail : Bytes) : Frame where
  header :=
    { opcode := header.opcode, requestId := header.requestId,
      flags := FrameFlags.response ||| FrameFlags.failure ||| FrameFlags.final }
  payload := (failureEnvelope reason detail).encode

/-- The flags of a reply that carries an envelope. -/
def replyFlags (envelope : ResponseEnvelope) : UInt16 :=
  let flags := FrameFlags.response ||| FrameFlags.final
  if isFailure envelope.reason then flags ||| FrameFlags.failure else flags

/-- An envelope over the bound of the service is replaced by a failure. -/
def reply (options : ServerOptions) (header : FrameHeader) (envelope : ResponseEnvelope) : Frame :=
  let flags := replyFlags envelope
  if envelope.encode.length > options.maxFramePayload then
    { header := { opcode := header.opcode, requestId := header.requestId, flags := flags ||| FrameFlags.failure }
      payload := (failureEnvelope .protocolFrameTooLarge (text "response exceeds the frame bound")).encode }
  else
    { header := { opcode := header.opcode, requestId := header.requestId, flags }, payload := envelope.encode }

/-! ### Connections -/

/-- What one round of the loop leaves: the service, the bytes sent, and the bytes still to be read when the loop goes
    on. -/
structure Round where
  service : Service
  sent : Bytes := []
  rest : Option Bytes := none

def countRejected (service : Service) : Service := { service with framesRejected := service.framesRejected + 1 }

def countRead (service : Service) (count : Nat) : Service :=
  { service with bytesRead := service.bytesRead + UInt64.ofNat count }

/-- Dispatch a request, send its reply and count both. -/
def answerFrame (options : ServerOptions) (service : Service) (header : FrameHeader) (payload rest : Bytes) : Round :=
  let (envelope, service) := service.dispatch exporter header payload
  let service := if envelope.encode.length > options.maxFramePayload then service.countRejected else service
  let sent := serializeFrame (reply options header envelope)
  { service := { service with
      bytesWritten := service.bytesWritten + UInt64.ofNat sent.length, requestsServed := service.requestsServed + 1 }
    sent
    rest := some rest }

/-- One round of the loop of `serve_connection`. `input` is what the peer sends from here on until it closes; `others`
    is what other connections do to the shared state before the request is dispatched. -/
def serveFrame (options : ServerOptions) (others : Service → Service) (service : Service) (input : Bytes) : Round :=
  if input.length < kFrameHeaderSize then { service }
  else
    let service := service.countRead kFrameHeaderSize
    let rest := input.drop kFrameHeaderSize
    match decodeFrameHeader (input.take kFrameHeaderSize) with
    | .error reason =>
      { service := service.countRejected
        sent := serializeFrame (refusalReply {} reason (text "frame header rejected")) }
    | .ok header =>
      let length := header.payloadLen.toNat
      if length > options.maxFramePayload then { service := service.countRejected }
      else if rest.length < length then { service }
      else
        let service := service.countRead length
        let payload := rest.take length
        if Digest256.of payload ≠ header.payloadDigest then
          { service := service.countRejected
            sent := serializeFrame (refusalReply header .protocolChecksumMismatch (text "payload digest mismatch")) }
        else answerFrame exporter options (others service) header payload (rest.drop length)

/-- The loop of `serve_connection`, `served` requests into the connection. -/
def serveLoop (options : ServerOptions) (others : Nat → Service → Service) :
    Nat → Nat → Service → Bytes → Service × Bytes
  | 0, _, service, _ => (service, [])
  | fuel + 1, served, service, input =>
    let round := serveFrame exporter options (others served) service input
    match round.rest with
    | none => (round.service, round.sent)
    | some rest =>
      if options.maxRequestsPerConnection ≠ 0 ∧ served + 1 ≥ options.maxRequestsPerConnection then
        (round.service, round.sent)
      else
        let (service, sent) := serveLoop options others fuel (served + 1) round.service rest
        (service, round.sent ++ sent)

/-- `Service::Impl::serve_connection` on the bytes a peer sends: the service it leaves and the bytes it sends back. A
    request takes at least a header, so the length of the input bounds the rounds. -/
def serveConnection (options : ServerOptions) (others : Nat → Service → Service) (service : Service)
    (input : Bytes) : Service × Bytes :=
  serveLoop exporter options others (input.length + 1) 0 service input

end Service

end Ocreg
