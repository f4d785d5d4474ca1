/-
Module: Ocreg.Proofs.Remote
Purpose: What peers can do to the registry behind the service: whatever bytes they send, it only makes the mutations
  that intact frames ask for with a request their decoder accepts.
-/
import Ocreg.Proofs.Connections
import Ocreg.Proofs.Snapshots

namespace Ocreg.Service

open List

variable {exporter : Exporter} {options : ServerOptions} {service : Service} {allowed : Op → Prop}
  {others : Service → Service}

/-- A request that takes a whole payload. -/
def decoded {α : Type} (decode : Reader α) (payload : Bytes) : Option α :=
  match decode.run payload with
  | .ok (request, []) => some request
  | _ => none

/-- The mutation a frame asks for, where its payload is accepted. -/
def mutation (frame : Frame) : Option Op :=
  match OpCode.ofNumeric? frame.header.opcode with
  | some .admitRequest =>
    (decoded AdmissionRequest.decode frame.payload).map fun request => .admitRequest request request.observedAt
  | some .retire =>
    (decoded RetirementRequest.decode frame.payload).map fun request => .retire request request.retiredAt
  | some .evaluate =>
    (decoded EvaluateRequest.decode frame.payload).map fun request => .evaluate request.requirement request.now
  | some .revokeSource =>
    (decoded SourceRequest.decode frame.payload).map fun request => .revokeSource request.source request.now
  | some .restoreSource =>
    (decoded SourceRequest.decode frame.payload).map fun request => .restoreSource request.source request.now
  | some .setSourceAuthority =>
    (decoded AuthorityRequest.decode frame.payload).map fun request =>
      .setSourceAuthority request.source request.authority request.now
  | some .upsertSourcePolicy =>
    (decoded SourcePolicyRequest.decode frame.payload).map fun request =>
      .upsertSourcePolicy request.policy request.now
  | some .beginDeviceIncarnation =>
    (decoded IncarnationRequest.decode frame.payload).map fun request =>
      .beginDeviceIncarnation request.device request.now
  | some .resolveConflict =>
    (decoded ResolveConflictRequest.decode frame.payload).map fun request =>
      .resolveConflict request.conflict request.chosen request.resolver request.now
  | _ => none

/-- The registry goes from one state to the other by some of these mutations. -/
def Reaches (allowed : Op → Prop) (service next : Service) : Prop :=
  Relation.ReflTransGen (fun s t => ∃ op : Op, allowed op ∧ t = s.step op) service.registry next.registry

theorem Reaches.mono {more : Op → Prop} {next : Service} (h : service.Reaches allowed next)
    (himp : ∀ op, allowed op → more op) : service.Reaches more next := by
  refine Relation.ReflTransGen.mono ?_ _ _ h
  rintro _ _ ⟨op, hop, hstep⟩
  exact ⟨op, himp op hop, hstep⟩

/-- The registry is left alone, or changed by a mutation that a client can ask for. -/
def Mutates (service next : Service) (asked : Option Op) : Prop :=
  (∀ op ∈ asked, op.Wire) ∧ next.registry = asked.elim service.registry service.registry.step

section

variable {α : Type} {decode : Reader α} {payload : Bytes} {rejected : String} {next : α → ResponseEnvelope × Service}

theorem withRequest_mutates {mutate : α → Op} (hdecode : decode.Yields (fun request => (mutate request).Wire))
    (hnext : ∀ request, (next request).2.registry = service.registry.step (mutate request)) :
    service.Mutates (service.withRequest decode payload rejected next).2 ((decoded decode payload).map mutate) := by
  rcases hrun : decode.run payload with _ | ⟨request, _ | _⟩ <;> simp only [withRequest, decoded, hrun]
  case ok.nil =>
    refine ⟨?_, hnext request⟩
    rintro _ ⟨⟩
    exact hdecode _ _ _ hrun
  all_goals exact ⟨by simp, rfl⟩

theorem withRequest_reads (hnext : ∀ request, (next request).2.registry = service.registry) :
    service.Mutates (service.withRequest decode payload rejected next).2 none := by
  unfold withRequest
  split
  · exact ⟨by simp, hnext _⟩
  · exact ⟨by simp, rfl⟩

end

/-- A request makes the mutation it asks for and no other. -/
theorem dispatch_mutates (frame : Frame) :
    service.Mutates (service.dispatch exporter frame.header frame.payload).2 (mutation frame) := by
  unfold dispatch mutation
  cases OpCode.ofNumeric? frame.header.opcode with
  | none => exact ⟨by simp, rfl⟩
  | some code =>
    cases code with
    | admitRequest =>
      exact withRequest_mutates (fun _ _ _ h => ⟨AdmissionRequest.decode_yields _ _ _ h, rfl⟩) fun _ => rfl
    | retire =>
      exact withRequest_mutates (fun _ _ _ h => ⟨RetirementRequest.decode_yields _ _ _ h, rfl⟩) fun _ => rfl
    | evaluate =>
      exact withRequest_mutates (.bind CapabilityRequirement.decode_yields fun _ h => .bind_any fun _ => .pure h)
        fun _ => rfl
    | revokeSource | restoreSource => exact withRequest_mutates SourceRequest.decode_yields fun _ => rfl
    | setSourceAuthority =>
      exact withRequest_mutates
        (.bind Reader.name_yields fun _ h => .bind_any fun _ => .bind_any fun _ => .pure h) fun _ => rfl
    | upsertSourcePolicy =>
      exact withRequest_mutates (.bind SourcePolicy.decode_yields fun _ h => .bind_any fun _ => .pure h) fun _ => rfl
    | beginDeviceIncarnation =>
      exact withRequest_mutates (.bind DeviceIdentity.decode_yields fun _ h => .bind_any fun _ => .pure h) fun _ => rfl
    | resolveConflict =>
      exact withRequest_mutates
        (.bind_any fun _ => .bind_any fun _ => .bind Reader.name_yields fun _ h => .bind_any fun _ => .pure h)
        fun _ => rfl
    | ping | stats | query | explain | exportRegistry | currentIncarnation | evictionLedger | snapshot | shutdown =>
      exact withRequest_reads fun _ => rfl

/-- The mutations of other connections, and those that the frames of a stream ask for. -/
def Asked (allowed : Op → Prop) (bound : Nat) (input : Bytes) (op : Op) : Prop :=
  allowed op ∨ op.Wire ∧ ∃ frame ∈ requestsIn bound input, mutation frame = some op

variable {input : Bytes}

/-- Where no intact frame is in front, the registry is left alone and the connection ends. -/
theorem serveFrame_stop {stop : FrameStop} (h : frameFront options.maxFramePayload input = .stop stop) :
    (serveFrame exporter options others service input).service.registry = service.registry ∧
      (serveFrame exporter options others service input).rest = none := by
  unfold frameFront at h
  split at h
  next hshort =>
    rw [serveFrame, if_pos hshort]
    exact ⟨rfl, rfl⟩
  next hshort =>
    rw [serveFrame, if_neg hshort]
    generalize decodeFrameHeader (input.take kFrameHeaderSize) = decoded at h ⊢
    cases decoded with
    | error reason => exact ⟨rfl, rfl⟩
    | ok header =>
      dsimp only at h ⊢
      split_ifs at h ⊢
      all_goals exact ⟨rfl, rfl⟩

/-- A round makes the mutation of the frame in front, and goes on behind it. -/
theorem serveFrame_reaches (hothers : ∀ service, Reaches allowed service (others service)) (input : Bytes) :
    service.Reaches (Asked allowed options.maxFramePayload input)
        (serveFrame exporter options others service input).service ∧
      ∀ rest ∈ (serveFrame exporter options others service input).rest,
        requestsIn options.maxFramePayload rest ⊆ requestsIn options.maxFramePayload input := by
  cases hfront : frameFront options.maxFramePayload input with
  | stop stop =>
    obtain ⟨hsame, hrest⟩ := @serveFrame_stop exporter options service others input stop hfront
    rw [Reaches, hsame, hrest]
    exact ⟨.refl, by simp⟩
  | frame frame size =>
    obtain ⟨hrequests, -⟩ := requestsIn_frame hfront
    rw [serveFrame_frame exporter hfront]
    have hmeanwhile := hothers ((service.countRead kFrameHeaderSize).countRead frame.header.payloadLen.toNat)
    generalize others _ = found at hmeanwhile ⊢
    obtain ⟨hwire, hmutates⟩ := @dispatch_mutates exporter found frame
    have hanswered : (answerFrame exporter options found frame.header frame.payload (input.drop size)).service.registry =
        (mutation frame).elim found.registry found.registry.step := by
      rw [← hmutates]
      simp only [answerFrame]
      split <;> rfl
    refine ⟨(hmeanwhile.mono fun _ => .inl).trans ?_, ?_⟩
    · show Relation.ReflTransGen _ found.registry _
      rw [hanswered]
      cases hmutation : mutation frame with
      | none => exact .refl
      | some op =>
        exact .single ⟨op, .inr ⟨hwire op hmutation, frame, hrequests ▸ mem_cons_self, hmutation⟩, rfl⟩
    · rintro _ ⟨⟩
      rw [hrequests]
      exact subset_cons_self _ _

/-- Whatever bytes a peer sends, a connection makes the mutations that intact frames ask for with an accepted request,
    between those of other connections, and no more. -/
theorem serveConnection_reaches {others : Nat → Service → Service}
    (hothers : ∀ n service, Reaches allowed service (others n service)) (input : Bytes) :
    service.Reaches (Asked allowed options.maxFramePayload input)
      (serveConnection exporter options others service input).1 := by
  unfold serveConnection
  generalize input.length + 1 = fuel, 0 = served
  induction fuel generalizing served service input with
  | zero => exact .refl
  | succ fuel ih =>
    obtain ⟨hround, hrest⟩ := @serveFrame_reaches exporter options service allowed (others served) (hothers served) input
    simp only [serveLoop]
    split
    · exact hround
    next rest hmore =>
      split
      · exact hround
      · refine hround.trans ((ih ..).mono fun op hop => hop.imp_right ?_)
        rintro ⟨hwire, frame, hframe, hmutation⟩
        exact ⟨hwire, frame, hrest rest hmore hframe, hmutation⟩

/-- An admission, and then a byte that is no frame: the mutation is made that the admission asks for. -/
theorem serveConnection_reaches_admission :
    let input := serializeFrame ⟨{ opcode := OpCode.admitRequest.numeric }, (Lab.request 0 1 5).encode⟩ ++ [7]
    let before : Service := { registry := Registry.init Lab.policy }
    let after := (before.serveConnection (fun _ _ _ => .failure .ok []) {} (fun _ service => service) input).1
    before.Reaches (Asked (fun _ => False) ({} : ServerOptions).maxFramePayload input) after ∧
      after.registry.totalRecords = 1 :=
  ⟨serveConnection_reaches (fun _ _ => .refl) _, by decide +kernel⟩

end Ocreg.Service
