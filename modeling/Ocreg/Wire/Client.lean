/-
Module: Ocreg.Wire.Client
Purpose: The client (src/client.cpp) against the service: a call shows its caller what dispatch answers.
-/
import Ocreg.Proofs.Connections

namespace Ocreg.Client

open List

variable {exporter : Exporter} {options : ServerOptions} {maxPayload : Nat} {payload input : Bytes}

/-- Why the header of a reply is refused. -/
def replyRefusal (maxPayload : Nat) (request header : FrameHeader) : Option Refusal :=
  if header.flags &&& FrameFlags.response = 0 then
    some ⟨.protocolSequenceViolation, text "reply is not a response"⟩
  else if header.requestId ≠ request.requestId then
    some ⟨.protocolSequenceViolation, text "reply carries another request id"⟩
  else if header.opcode ≠ request.opcode then
    some ⟨.protocolSequenceViolation, text "reply carries another opcode"⟩
  else if header.payloadLen.toNat > maxPayload then
    some ⟨.protocolFrameTooLarge, text "reply payload exceeds the bound"⟩
  else none

/-- `read_frame` on what the peer sends before it closes. -/
def readFrame (maxPayload : Nat) (request : FrameHeader) (input : Bytes) : Except Refusal Bytes :=
  if input.length < kFrameHeaderSize then .error ⟨.transportClosed, text "peer closed before replying"⟩
  else match decodeFrameHeader (input.take kFrameHeaderSize) with
    | .error reason => .error ⟨reason, text "response header rejected"⟩
    | .ok header =>
      let rest := input.drop kFrameHeaderSize
      let payload := rest.take header.payloadLen.toNat
      match replyRefusal maxPayload request header with
      | some refusal => .error refusal
      | none =>
        if rest.length < header.payloadLen.toNat then .error ⟨.transportClosed, text "reply body could not be read"⟩
        else if Digest256.of payload ≠ header.payloadDigest then
          .error ⟨.protocolChecksumMismatch, text "reply payload digest mismatch"⟩
        else .ok payload

/-- The outcome of a call whose reply carries this payload. -/
def openEnvelope (payload : Bytes) : Outcome Bytes :=
  match ResponseEnvelope.decode.run payload with
  | .ok (envelope, []) =>
    if isFailure envelope.reason then .failure envelope.reason envelope.detail else .success envelope.body .ok
  | .ok _ => .failure .protocolFrameMalformed (text "response envelope rejected")
  | .error reason => .failure reason (text "response envelope rejected")

/-- The frame a call sends. -/
def request (requestId : UInt64) (opcode : OpCode) (payload : Bytes) : Frame :=
  { header := { opcode := opcode.numeric, requestId }, payload }

/-- `Client::call` on an open connection; `peer` sends its bytes for those it gets, and closes. -/
def call (maxPayload : Nat) (requestId : UInt64) (opcode : OpCode) (payload : Bytes) (peer : Bytes → Bytes) :
    Outcome Bytes :=
  let frame := request requestId opcode payload
  if payload.length > maxPayload then .failure .protocolFrameTooLarge (text "request payload exceeds the bound")
  else if serializeFrame frame = [] then
    .failure .protocolFrameMalformed (text "request frame is not representable")
  else match readFrame maxPayload frame.header (peer (serializeFrame frame)) with
    | .error refusal => .failure refusal.reason refusal.detail
    | .ok reply => openEnvelope reply

/-- An answer at the front of what the peer sends is read. -/
theorem readFrame_front {request frame : Frame} {size : Nat} (h : frameFront maxPayload input = .frame frame size)
    (hanswers : frame.Answers request) : readFrame maxPayload request.header input = .ok frame.payload := by
  obtain ⟨hresponse, hopcode, hid⟩ := hanswers
  rw [Frame.isResponse, bne_iff_ne] at hresponse
  unfold frameFront at h
  split at h
  · cases h
  next hshort =>
    split at h
    · cases h
    next header hdecode =>
      dsimp only at h
      split_ifs at h with hover hpart hdigest
      cases h
      have hnone : replyRefusal maxPayload request.header header = none := by
        simp only [replyRefusal, if_neg hresponse, if_neg (not_not.mpr hid), if_neg (not_not.mpr hopcode), if_neg hover]
      simp only [readFrame, if_neg hshort, hdecode, hnone, if_neg hpart, if_neg hdigest]

/-- A call over a connection shows its caller the answer of `dispatch`, at the registry as other connections have left
    it, where the answer fits a frame and its detail the bound of the client. -/
theorem call_eq_dispatch (hserver : options.maxFramePayload ≤ kMaxFramePayload)
    (hclient : options.maxFramePayload ≤ maxPayload) (hpayload : payload.length ≤ options.maxFramePayload)
    (requestId : UInt64) (opcode : OpCode) (others : Nat → Service → Service) (service : Service) :
    ∃ counted : Service, counted.registry = service.registry ∧
      let answer := ((others 0 counted).dispatch exporter (request requestId opcode payload).received.header payload).1
      answer.encode.length ≤ options.maxFramePayload → answer.detail.length ≤ 4096 →
        call maxPayload requestId opcode payload
            (fun sent => (service.serveConnection exporter options others sent).2) =
          if isFailure answer.reason then .failure answer.reason answer.detail else .success answer.body .ok := by
  set frame := request requestId opcode payload
  have hsendable : frame.Sendable := ⟨rfl, rfl, by simp [frame, request], hpayload.trans hserver⟩
  have hsent : serializeFrame frame ≠ [] := by
    intro hnil
    have hfront := frameFront_serialize hsendable hpayload []
    rw [hnil] at hfront
    cases hfront
  obtain ⟨counted, hregistry, hreply⟩ := Service.serveConnection_single exporter hsendable hpayload others service
  refine ⟨counted, hregistry, ?_⟩
  intro answer hfits hdetail
  have hbody := answer.length_encode
  have hround := ResponseEnvelope.roundTrip hdetail (by omega) []
  have hcarries : (Service.reply options frame.received.header answer).payload = answer.encode := by
    rw [Service.reply, if_neg (Nat.not_lt.mpr hfits)]
  have hread := readFrame_front (frameFront_serialize (Service.reply_sendable answer hserver hsendable.opcode)
    (hcarries ▸ hfits.trans hclient) []) (Service.reply_answers frame.received answer)
  rw [append_nil] at hread hround
  have hopened : readFrame maxPayload frame.header
      (service.serveConnection exporter options others (serializeFrame frame)).2 = .ok answer.encode := by
    rw [hreply]
    exact hread.trans (congrArg _ hcarries)
  rw [call, if_neg (Nat.not_lt.mpr (hpayload.trans hclient)), if_neg hsent, hopened]
  dsimp only
  rw [openEnvelope, hround]

/-- A ping over a connection of its own is answered. -/
theorem call_eq_dispatch_ping : call kMaxFramePayload 1 .ping (NowRequest.encode ⟨5⟩) (fun sent =>
      (Service.serveConnection (fun _ _ _ => .failure .ok []) {} (fun _ service => service)
        { registry := Registry.init Lab.policy } sent).2) = .success (BoolResponse.encode ⟨true, .ok⟩) .ok := by
  obtain ⟨counted, -, hcall⟩ := @call_eq_dispatch (fun _ _ _ => .failure .ok []) {} kMaxFramePayload
    (NowRequest.encode ⟨5⟩) (by decide) (by decide) (by decide) 1 .ping (fun _ service => service)
    { registry := Registry.init Lab.policy }
  have hping : (counted.dispatch (fun _ _ _ => .failure .ok [])
      (request 1 .ping (NowRequest.encode ⟨5⟩)).received.header (NowRequest.encode ⟨5⟩)).1 =
        successEnvelope .ok BoolResponse.encode ⟨true, .ok⟩ := rfl
  dsimp only at hcall
  rw [hping] at hcall
  exact hcall (by decide) (by decide)

end Ocreg.Client
