/-
Module: Ocreg.Proofs.Connections
Purpose: What a peer gets back on a connection: one response for each request it sends and one failure for the first
  frame that is refused, for which payload bounds of the service this holds, and where it does not.
-/
import Ocreg.Registry.Step
import Ocreg.Wire.Service

namespace Ocreg

open List Registry Lab FrameLog

variable {size : Nat} {header : FrameHeader} {detail sent : Bytes} (envelope : ResponseEnvelope) {bound : Nat}
  {input : Bytes} {options : ServerOptions}

/-! ### The requests of a stream -/

def FrameStop.refusal? : FrameStop → Option ReasonCode
  | .incomplete => none
  | .refused reason => some reason

/-- The complete frames of a stream, up to the first that is refused. -/
def requestsIn (bound : Nat) (input : Bytes) : List Frame :=
  (read (frameFront bound) input).1.map Prod.fst

/-- Why the first refused frame is refused, when there is one. -/
def refusalIn (bound : Nat) (input : Bytes) : Option ReasonCode :=
  (read (frameFront bound) input).2.bind (fun stop => stop.1.refusal?)

section Streams

theorem requestsIn_stop {stop : FrameStop} (h : frameFront bound input = .stop stop) :
    requestsIn bound input = [] ∧ refusalIn bound input = stop.refusal? := by
  by_cases hnil : input = []
  · subst hnil
    cases h
    exact ⟨rfl, rfl⟩
  · rw [requestsIn, refusalIn, read_stop hnil h]
    exact ⟨rfl, rfl⟩

theorem requestsIn_frame {frame : Frame} (h : frameFront bound input = .frame frame size) :
    requestsIn bound input = frame :: requestsIn bound (input.drop size) ∧
      refusalIn bound input = refusalIn bound (input.drop size) := by
  have hne : input ≠ [] := by
    rintro rfl
    cases h
  rw [requestsIn, refusalIn, read_frame (frameFront_positive bound) hne h]
  exact ⟨rfl, rfl⟩

end Streams

/-! ### Answers -/

/-- A response to a request, by its opcode and request id. -/
def Frame.Answers (reply request : Frame) : Prop :=
  reply.isResponse = true ∧ reply.header.opcode = request.header.opcode ∧
    reply.header.requestId = request.header.requestId

/-- A failure frame that carries a refusal code. -/
def Frame.Refuses (reply : Frame) (reason : ReasonCode) : Prop :=
  reply.isResponse = true ∧ reply.isFailure = true ∧
    ∃ envelope : ResponseEnvelope, ResponseEnvelope.decode.run reply.payload = .ok (envelope, []) ∧
      envelope.reason = reason

/-- The bytes sent back are frames to the last byte: one response to each request of the stream, in order, and then one
    failure with the code of the refusal when a frame is refused. -/
def Answered (bound : Nat) (input sent : Bytes) : Prop :=
  ∃ replies refusals : List Frame,
    (read (frameFront kMaxFramePayload) sent).1.map Prod.fst = replies ++ refusals ∧
    (read (frameFront kMaxFramePayload) sent).2 = none ∧
    List.Forall₂ (fun request reply => reply.Answers request) (requestsIn bound input) replies ∧
    List.Forall₂ (fun reason reply => reply.Refuses reason) (refusalIn bound input).toList refusals

/-- Where nothing is sent nothing was asked. -/
theorem Answered.of_silent (h : Answered bound input []) :
    requestsIn bound input = [] ∧ refusalIn bound input = none := by
  obtain ⟨replies, refusals, hframes, -, hreplies, hrefusals⟩ := h
  obtain ⟨rfl, rfl⟩ := append_eq_nil_iff.mp hframes.symm
  refine ⟨forall₂_nil_right_iff.mp hreplies, ?_⟩
  exact Option.toList_eq_nil_iff.mp (forall₂_nil_right_iff.mp hrefusals)

namespace Service

variable (exporter : Exporter) {others : Service → Service} {service : Service}

/-- The limit of requests on a connection leaves room for every frame of the stream. -/
def WithinLimit (options : ServerOptions) (input : Bytes) : Prop :=
  options.maxRequestsPerConnection = 0 ∨
    (requestsIn options.maxFramePayload input).length + (refusalIn options.maxFramePayload input).toList.length ≤
      options.maxRequestsPerConnection

/-! ### One round -/

/-- What a round of the loop does with the front of the stream. -/
inductive Handles (options : ServerOptions) (input : Bytes) (round : Round) : Prop
  | incomplete (hfront : frameFront options.maxFramePayload input = .stop .incomplete) (hsent : round.sent = [])
      (hrest : round.rest = none)
  | oversized (hfront : frameFront options.maxFramePayload input = .stop (.refused .protocolFrameTooLarge))
      (hbound : options.maxFramePayload < kMaxFramePayload) (hsent : round.sent = []) (hrest : round.rest = none)
  | refused (header : FrameHeader) (reason : ReasonCode) (detail : Bytes)
      (hfront : frameFront options.maxFramePayload input = .stop (.refused reason))
      (hopcode : (OpCode.ofNumeric? header.opcode).isSome) (hdetail : detail.length ≤ 64)
      (hsent : round.sent = serializeFrame (refusalReply header reason detail)) (hrest : round.rest = none)
  | answered (frame : Frame) (size : Nat) (envelope : ResponseEnvelope)
      (hfront : frameFront options.maxFramePayload input = .frame frame size)
      (hopcode : (OpCode.ofNumeric? frame.header.opcode).isSome)
      (hsent : round.sent = serializeFrame (reply options frame.header envelope))
      (hrest : round.rest = some (input.drop size))

theorem serveFrame_handles : Handles options input (serveFrame exporter options others service input) := by
  unfold serveFrame
  split
  next hshort => exact .incomplete (by rw [frameFront, if_pos hshort]) rfl rfl
  next hshort =>
    cases hdecode : decodeFrameHeader (input.take kFrameHeaderSize) with
    | error reason =>
      exact .refused {} reason (text "frame header rejected") (by rw [frameFront, if_neg hshort, hdecode])
        (by decide) (by decide) rfl rfl
    | ok header =>
      obtain ⟨hopcode, hlen⟩ := decodeFrameHeader_ok hdecode
      dsimp only
      split
      next hover =>
        exact .oversized (by simp only [frameFront, hdecode, if_neg hshort, if_pos hover]) (by omega) rfl rfl
      next hover =>
        split
        next hpart =>
          exact .incomplete (by simp only [frameFront, hdecode, if_neg hshort, if_neg hover, if_pos hpart]) rfl rfl
        next hpart =>
          split
          next hdigest =>
            exact .refused header .protocolChecksumMismatch (text "payload digest mismatch")
              (by simp only [frameFront, hdecode, if_neg hshort, if_neg hover, if_neg hpart, if_pos hdigest])
              hopcode (by decide) rfl rfl
          next hdigest =>
            have hfront : frameFront options.maxFramePayload input =
                .frame ⟨header, (input.drop kFrameHeaderSize).take header.payloadLen.toNat⟩
                  (kFrameHeaderSize + header.payloadLen.toNat) := by
              simp only [frameFront, hdecode, if_neg hshort, if_neg hover, if_neg hpart, if_neg hdigest]
            refine .answered _ _ _ hfront hopcode rfl ?_
            rw [answerFrame, drop_drop]

/-- A header over the bound of the service is dropped without a word. -/
theorem serveFrame_oversized (hlong : ¬ input.length < kFrameHeaderSize)
    (hdecode : decodeFrameHeader (input.take kFrameHeaderSize) = .ok header)
    (hover : options.maxFramePayload < header.payloadLen.toNat) :
    (serveFrame exporter options others service input).sent = [] ∧
      (serveFrame exporter options others service input).rest = none := by
  simp [serveFrame, if_neg hlong, hdecode, if_pos hover]

/-- A complete frame is dispatched. -/
theorem serveFrame_frame {frame : Frame} (h : frameFront options.maxFramePayload input = .frame frame size) :
    serveFrame exporter options others service input =
      answerFrame exporter options (others ((service.countRead kFrameHeaderSize).countRead
        frame.header.payloadLen.toNat)) frame.header frame.payload (input.drop size) := by
  unfold frameFront at h
  split at h
  · cases h
  · next hshort =>
      split at h
      · cases h
      · next header hdecode =>
          dsimp only at h
          split_ifs at h with hover hpart hdigest
          cases h
          simp only [serveFrame, if_neg hshort, hdecode, if_neg hover, if_neg hpart, if_neg hdigest, drop_drop]

/-! ### Replies -/

/-- The details of a refusal fit in a frame. -/
theorem refusalReply_sendable (reason : ReasonCode) (hopcode : (OpCode.ofNumeric? header.opcode).isSome)
    (hdetail : detail.length ≤ 64) : (refusalReply header reason detail).Sendable := by
  refine ⟨rfl, rfl, hopcode, ?_⟩
  have hlength : (refusalReply header reason detail).payload.length = 10 + detail.length := by
    simp [refusalReply, failureEnvelope]
  rw [hlength, kMaxFramePayload]
  omega

theorem refusalReply_refuses (header : FrameHeader) (reason : ReasonCode) (hdetail : detail.length ≤ 64) :
    (refusalReply header reason detail).received.Refuses reason := by
  have hround := ResponseEnvelope.roundTrip (e := failureEnvelope reason detail) (by simp [failureEnvelope]; omega)
    (by simp [failureEnvelope]) []
  have hflags : (refusalReply header reason detail).received.header.flags =
      FrameFlags.response ||| FrameFlags.failure ||| FrameFlags.final := rfl
  refine ⟨?_, ?_, failureEnvelope reason detail, ?_, rfl⟩
  · rw [Frame.isResponse, hflags]
    decide
  · rw [Frame.isFailure, hflags]
    decide
  rw [append_nil] at hround
  exact hround

/-- A reply within the bound of the codec can be sent, and so can the failure that replaces one over the bound of the
    service. -/
theorem reply_sendable (hbound : options.maxFramePayload ≤ kMaxFramePayload)
    (hopcode : (OpCode.ofNumeric? header.opcode).isSome) : (reply options header envelope).Sendable := by
  unfold reply
  dsimp only
  split
  next hover => exact ⟨rfl, rfl, hopcode, by simp [failureEnvelope]; decide⟩
  next hover => exact ⟨rfl, rfl, hopcode, (Nat.not_lt.mp hover).trans hbound⟩

theorem isResponse_replyFlags : replyFlags envelope &&& FrameFlags.response ≠ 0 ∧
      (replyFlags envelope ||| FrameFlags.failure) &&& FrameFlags.response ≠ 0 := by
  unfold replyFlags
  dsimp only
  split <;> decide

theorem reply_answers (frame : Frame) (envelope : ResponseEnvelope) :
    (reply options frame.header envelope).received.Answers frame := by
  obtain ⟨hplain, hfailed⟩ := isResponse_replyFlags envelope
  unfold reply
  dsimp only
  split
  next hover => exact ⟨bne_iff_ne.mpr hfailed, rfl, rfl⟩
  next hover => exact ⟨bne_iff_ne.mpr hplain, rfl, rfl⟩

/-! ### Whole connections -/

/-- The frames a connection sends, as they are built: one reply to each request and one refusal. -/
def Replies (bound : Nat) (input sent : Bytes) : Prop :=
  ∃ replies refusals : List Frame,
    sent = (replies ++ refusals).flatMap serializeFrame ∧
    (∀ frame ∈ replies ++ refusals, frame.Sendable) ∧
    List.Forall₂ (fun request reply => reply.received.Answers request) (requestsIn bound input) replies ∧
    List.Forall₂ (fun reason reply => reply.received.Refuses reason) (refusalIn bound input).toList refusals

theorem Replies.answered (h : Replies bound input sent) : Answered bound input sent := by
  obtain ⟨replies, refusals, rfl, hsendable, hreplies, hrefusals⟩ := h
  obtain ⟨hframes, hend⟩ := read_serialized hsendable
  refine ⟨replies.map Frame.received, refusals.map Frame.received, ?_, hend, ?_, ?_⟩
  · rw [hframes, map_append]
  · exact forall₂_map_right_iff.mpr hreplies
  · exact forall₂_map_right_iff.mpr hrefusals

/-- A stream without requests needs no reply beyond its refusal. -/
theorem Replies.stop {stop : FrameStop} {refusals : List Frame} (hfront : frameFront bound input = .stop stop)
    (hsendable : ∀ frame ∈ refusals, frame.Sendable)
    (hrefusals : List.Forall₂ (fun reason reply => reply.received.Refuses reason) stop.refusal?.toList refusals) :
    Replies bound input (refusals.flatMap serializeFrame) := by
  obtain ⟨hrequests, hrefusal⟩ := requestsIn_stop hfront
  refine ⟨[], refusals, rfl, hsendable, ?_, ?_⟩
  · rw [hrequests]
    exact .nil
  · rw [hrefusal]
    exact hrefusals

/-- One more request in front of a stream, and its reply in front of what is sent. -/
theorem Replies.frame {frame reply : Frame} (hfront : frameFront bound input = .frame frame size)
    (hsendable : reply.Sendable) (hanswers : reply.received.Answers frame) (h : Replies bound (input.drop size) sent) :
    Replies bound input (serializeFrame reply ++ sent) := by
  obtain ⟨hrequests, hrefusal⟩ := requestsIn_frame hfront
  obtain ⟨replies, refusals, rfl, hall, hreplies, hrefusals⟩ := h
  refine ⟨reply :: replies, refusals, rfl, ?_, ?_, ?_⟩
  · intro other hother
    cases hother with
    | head => exact hsendable
    | tail _ hother => exact hall other hother
  · rw [hrequests]
    exact .cons hanswers hreplies
  · rw [hrefusal]
    exact hrefusals

/-- Under the bound of the codec a connection answers everything, whatever other connections do meanwhile. -/
theorem serveLoop_answers (hbound : options.maxFramePayload = kMaxFramePayload)
    (others : Nat → Service → Service) (fuel served : Nat) (service : Service) (input : Bytes)
    (hfuel : input.length < fuel)
    (hlimit : options.maxRequestsPerConnection = 0 ∨
      served + ((requestsIn options.maxFramePayload input).length +
        (refusalIn options.maxFramePayload input).toList.length) ≤ options.maxRequestsPerConnection) :
    Replies options.maxFramePayload input (serveLoop exporter options others fuel served service input).2 := by
  induction fuel generalizing served service input with
  | zero => omega
  | succ fuel ih =>
    have hhandles : Handles options input (serveFrame exporter options (others served) service input) :=
      serveFrame_handles exporter
    cases hhandles with
    | incomplete hfront hsent hrest =>
      rw [serveLoop, hrest, hsent]
      have hnone : Replies options.maxFramePayload input ([].flatMap serializeFrame) :=
        Replies.stop hfront (by simp) .nil
      exact hnone
    | oversized hfront hless => omega
    | refused header reason detail hfront hopcode hdetail hsent hrest =>
      have hsingle : serializeFrame (refusalReply header reason detail) =
          [refusalReply header reason detail].flatMap serializeFrame := by simp
      rw [serveLoop, hrest, hsent]
      dsimp only
      rw [hsingle]
      exact Replies.stop hfront (forall_mem_singleton.mpr (refusalReply_sendable reason hopcode hdetail))
        (.cons (refusalReply_refuses header reason hdetail) .nil)
    | answered frame size envelope hfront hopcode hsent hrest =>
      obtain ⟨hrequests, hrefusal⟩ := requestsIn_frame hfront
      have hpositive := frameFront_positive _ _ _ _ hfront
      have hne : input ≠ [] := by
        rintro rfl
        cases hfront
      have hlength := length_pos_of_ne_nil hne
      have hshorter : (input.drop size).length < fuel := by
        rw [length_drop]
        omega
      have hsendable := reply_sendable envelope hbound.le hopcode
      have hanswers : (reply options frame.header envelope).received.Answers frame := reply_answers frame envelope
      rw [hrequests, hrefusal, length_cons] at hlimit
      rw [serveLoop, hrest, hsent]
      dsimp only
      split
      next hreached =>
        -- the limit is reached with this request, so nothing follows it on the stream
        have hlast : requestsIn options.maxFramePayload (input.drop size) = [] ∧
            refusalIn options.maxFramePayload (input.drop size) = none := by
          constructor
          · exact eq_nil_of_length_eq_zero (by omega)
          · exact Option.toList_eq_nil_iff.mp (eq_nil_of_length_eq_zero (by omega))
        have hnothing : Replies options.maxFramePayload (input.drop size) [] := by
          refine ⟨[], [], rfl, by simp, ?_, ?_⟩
          · rw [hlast.1]
            exact .nil
          · rw [hlast.2]
            exact .nil
        simpa using Replies.frame hfront hsendable hanswers hnothing
      next hreached => exact Replies.frame hfront hsendable hanswers (ih _ _ _ hshorter (by omega))

/-! ### Bounds that lose answers -/

/-- A header whose payload is over the bound of the service but not over that of the codec. -/
def oversizedHeader (bound : Nat) : FrameHeader := { payloadLen := UInt32.ofNat (bound + 1) }

/-- That header as it arrives, with nothing behind it. -/
def oversizedInput (bound : Nat) : Bytes :=
  (oversizedHeader bound).body ++ Writer.u32 (crc32c (oversizedHeader bound).body)

/-- The peer gets no answer to it. -/
theorem oversized_silent (hbound : options.maxFramePayload < kMaxFramePayload) (others : Nat → Service → Service)
    (service : Service) :
    refusalIn options.maxFramePayload (oversizedInput options.maxFramePayload) = some .protocolFrameTooLarge ∧
      requestsIn options.maxFramePayload (oversizedInput options.maxFramePayload) = [] ∧
      (serveConnection exporter options others service (oversizedInput options.maxFramePayload)).2 = [] := by
  have hlen : (oversizedHeader options.maxFramePayload).payloadLen.toNat = options.maxFramePayload + 1 := by
    rw [oversizedHeader, UInt32.toNat_ofNat']
    exact Nat.mod_eq_of_lt (lt_of_le_of_lt hbound (by decide))
  have hrep : (oversizedHeader options.maxFramePayload).Representable := ⟨hlen.trans_le hbound, rfl, rfl⟩
  have hencode : encodeFrameHeader (oversizedHeader options.maxFramePayload) =
      some (oversizedInput options.maxFramePayload) := if_pos hrep
  have hlength := length_encodeFrameHeader hencode
  have htake : (oversizedInput options.maxFramePayload).take kFrameHeaderSize =
      oversizedInput options.maxFramePayload := take_of_length_le hlength.le
  have hdecode := decodeFrameHeader_encode hencode rfl
  rw [← htake] at hdecode
  have hlong : ¬ (oversizedInput options.maxFramePayload).length < kFrameHeaderSize := by
    rw [hlength]
    exact Nat.lt_irrefl _
  have hfront : frameFront options.maxFramePayload (oversizedInput options.maxFramePayload) =
      .stop (.refused .protocolFrameTooLarge) := by
    rw [frameFront, if_neg hlong, hdecode]
    dsimp only
    rw [hlen, if_pos (Nat.lt_succ_self _)]
  obtain ⟨hrequests, hrefusal⟩ := requestsIn_stop hfront
  have hover : options.maxFramePayload < (oversizedHeader options.maxFramePayload).payloadLen.toNat := by omega
  have hround : (serveFrame exporter options (others 0) service (oversizedInput options.maxFramePayload)).sent = [] ∧
      (serveFrame exporter options (others 0) service (oversizedInput options.maxFramePayload)).rest = none :=
    serveFrame_oversized exporter hlong hdecode hover
  refine ⟨hrefusal, hrequests, ?_⟩
  rw [serveConnection, serveLoop, hround.2, hround.1]

/-- A request for the ledger is answered with the ledger as it is. -/
theorem dispatch_evictionLedger (service : Service) (now : Tick)
    (hopcode : header.opcode = OpCode.evictionLedger.numeric) :
    service.dispatch exporter header (NowRequest.encode ⟨now⟩) =
      (successEnvelope .ok EvictionLedgerResponse.encode ⟨service.registry.evictionTable, false⟩, service) := by
  have hdecode : NowRequest.decode.run (NowRequest.encode ⟨now⟩) = .ok (⟨now⟩, []) := by
    simpa using NowRequest.roundTrip ⟨now⟩ []
  rw [dispatch, hopcode, OpCode.ofNumeric?_numeric]
  dsimp only
  rw [withRequest, hdecode]

/-- The request for the ledger. -/
def ledgerRequest : Frame where
  header := { opcode := OpCode.evictionLedger.numeric }
  payload := NowRequest.encode ⟨0⟩

theorem ledgerRequest_sendable : ledgerRequest.Sendable := ⟨rfl, rfl, rfl, by decide⟩

/-- A stream of one frame. -/
theorem requestsIn_single {frame : Frame} (h : frame.Sendable) (hbound : frame.payload.length ≤ bound) :
    requestsIn bound (serializeFrame frame) = [frame.received] ∧ refusalIn bound (serializeFrame frame) = none := by
  have hfront := frameFront_serialize h hbound []
  rw [append_nil] at hfront
  obtain ⟨hrequests, hrefusal⟩ := requestsIn_frame hfront
  rw [hrequests, hrefusal, drop_length]
  exact ⟨rfl, rfl⟩

/-- What a connection sends back for a stream of one frame is what its only round sends. -/
theorem serveConnection_single {frame : Frame} (h : frame.Sendable)
    (hbound : frame.payload.length ≤ options.maxFramePayload) (others : Nat → Service → Service) (service : Service) :
    ∃ counted : Service, counted.registry = service.registry ∧
      (serveConnection exporter options others service (serializeFrame frame)).2 =
        (answerFrame exporter options (others 0 counted) frame.received.header frame.payload []).sent := by
  have hfront := frameFront_serialize h hbound []
  rw [append_nil] at hfront
  refine ⟨(service.countRead kFrameHeaderSize).countRead frame.received.header.payloadLen.toNat, rfl, ?_⟩
  rw [serveConnection, serveLoop, serveFrame_frame exporter hfront, drop_length]
  -- the stream ends with the frame, so a second round would find nothing
  have hnext : ∀ fuel next, (serveLoop exporter options others fuel 1 next []).2 = [] := by
    intro fuel next
    cases fuel with
    | zero | succ fuel => rfl
  have hrest : ∀ now, (answerFrame exporter options now frame.received.header frame.received.payload []).rest =
      some [] := fun _ => rfl
  rw [hrest]
  dsimp only
  split
  · rfl
  · rw [hnext, append_nil]
    rfl

/-- A reply over the bound of the codec but not over that of the service is lost. -/
theorem answerFrame_silent {payload rest : Bytes}
    (hover : kMaxFramePayload < (service.dispatch exporter header payload).1.encode.length)
    (hfits : (service.dispatch exporter header payload).1.encode.length ≤ options.maxFramePayload)
    (hnarrow : (service.dispatch exporter header payload).1.encode.length < 2 ^ 32) :
    (answerFrame exporter options service header payload rest).sent = [] := by
  have hreply : (reply options header (service.dispatch exporter header payload).1).payload =
      (service.dispatch exporter header payload).1.encode := by
    rw [reply, if_neg (Nat.not_lt.mpr hfits)]
  have hsent := serializeFrame_oversized (hreply.symm ▸ hover) (hreply.symm ▸ hnarrow)
  exact hsent

end Service

namespace Lab

/-- One entry of a ledger. -/
def evicted (source : SourceId) : EvictionEntry where
  id := .zero
  key := ⟨device 0, .packetClassification, source⟩
  generation := 1
  stateAtEviction := .superseded
  reason := .evictedBudgetPressure
  evictedAt := 0

def farSource : SourceId := ⟨text "lab.north.rack.two.unit.a", Or.inr (by decide)⟩

/-- A ledger whose encoding is one byte longer than a frame takes. -/
@[irreducible] def ledger : List EvictionEntry := List.replicate 53091 (evicted source) ++ [evicted farSource]

theorem length_flatMap_replicate {α : Type} (enc : α → Bytes) (count : Nat) (a b : α) :
    ((List.replicate count a ++ [b]).flatMap enc).length = count * (enc a).length + (enc b).length := by
  rw [flatMap_append, length_append, length_flatMap, map_replicate, sum_replicate_nat, flatMap_singleton]

theorem length_ledgerEnvelope (entries : List EvictionEntry) :
    (successEnvelope .ok EvictionLedgerResponse.encode ⟨entries, false⟩).encode.length =
      15 + (entries.flatMap EvictionEntry.encode).length := by
  simp only [ResponseEnvelope.length_encode, successEnvelope, EvictionLedgerResponse.encode, Writer.collection,
    Writer.boolean, Writer.u8, length_append, length_nil, length_singleton, length_u32]
  omega

theorem length_ledger_encode :
    (successEnvelope .ok EvictionLedgerResponse.encode ⟨ledger, false⟩).encode.length = kMaxFramePayload + 1 := by
  have hnear : (evicted source).encode.length = 79 := by decide
  have hfar : (evicted farSource).encode.length = 101 := by decide
  have hentries : (ledger.flatMap EvictionEntry.encode).length = 53091 * 79 + 101 := by
    rw [ledger, ← hnear, ← hfar]
    exact length_flatMap_replicate _ _ _ _
  have hbound : 15 + (53091 * 79 + 101) = kMaxFramePayload + 1 := by decide
  exact ((length_ledgerEnvelope ledger).trans (congrArg (15 + ·) hentries)).trans hbound

/-- A registry that holds this ledger. -/
def ledgerService : Service := { registry := restore policy { evictions := ledger } }

theorem ledgerService_evictionTable : ledgerService.registry.evictionTable = ledger := rfl

end Lab

/-- The answer to a request for this ledger never arrives when the service lets it pass. -/
theorem Service.ledger_silent (exporter : Exporter) (hbound : kMaxFramePayload < options.maxFramePayload) :
    requestsIn options.maxFramePayload (serializeFrame ledgerRequest) = [ledgerRequest.received] ∧
      refusalIn options.maxFramePayload (serializeFrame ledgerRequest) = none ∧
      (serveConnection exporter options (fun _ service => service) ledgerService
        (serializeFrame ledgerRequest)).2 = [] := by
  have hfits : ledgerRequest.payload.length ≤ options.maxFramePayload := le_trans (by decide) hbound.le
  obtain ⟨hrequests, hrefusal⟩ := requestsIn_single ledgerRequest_sendable hfits
  obtain ⟨counted, hregistry, hsent⟩ := serveConnection_single exporter ledgerRequest_sendable hfits
    (fun _ service => service) ledgerService
  have hledger : counted.registry.evictionTable = ledger := by
    rw [hregistry]
    exact ledgerService_evictionTable
  have hdispatch : counted.dispatch exporter ledgerRequest.received.header ledgerRequest.payload =
      (successEnvelope .ok EvictionLedgerResponse.encode ⟨counted.registry.evictionTable, false⟩, counted) :=
    dispatch_evictionLedger exporter counted 0 rfl
  have hsize : (counted.dispatch exporter ledgerRequest.received.header ledgerRequest.payload).1.encode.length =
      kMaxFramePayload + 1 := by
    rw [hdispatch, hledger]
    exact length_ledger_encode
  refine ⟨hrequests, hrefusal, ?_⟩
  rw [hsent]
  apply answerFrame_silent
  · exact hsize ▸ Nat.lt_succ_self _
  · exact hsize.trans_le hbound
  · exact hsize.trans_lt (by decide)

open Service in
/-- Every frame on every connection is answered exactly when the payload bound of the service is the bound of the
    codec. Under a smaller one a request in between is dropped without a reply, under a larger one a reply in between
    is lost. -/
theorem every_frame_answered_iff (exporter : Exporter) (options : ServerOptions) :
    (∀ (others : Nat → Service → Service) (service : Service) (input : Bytes), service.registry.Reachable →
      WithinLimit options input →
      Answered options.maxFramePayload input (serveConnection exporter options others service input).2) ↔
      options.maxFramePayload = kMaxFramePayload := by
  constructor
  · intro h
    rcases Nat.lt_trichotomy options.maxFramePayload kMaxFramePayload with hless | heq | hmore
    · obtain ⟨hrefusal, hrequests, hsent⟩ := oversized_silent exporter hless (fun _ service => service)
        ⟨init {}, false, 0, 0, 0, 0, 0⟩
      have hlimit : WithinLimit options (oversizedInput options.maxFramePayload) := by
        rw [WithinLimit, hrefusal, hrequests]
        exact Nat.eq_zero_or_pos _
      have hanswered := h (fun _ service => service) ⟨init {}, false, 0, 0, 0, 0, 0⟩ _ (.init {}) hlimit
      rw [hsent] at hanswered
      rw [hanswered.of_silent.2] at hrefusal
      cases hrefusal
    · exact heq
    · obtain ⟨hrequests, hrefusal, hsent⟩ := ledger_silent exporter hmore
      have hlimit : WithinLimit options (serializeFrame ledgerRequest) := by
        rw [WithinLimit, hrefusal, hrequests]
        exact Nat.eq_zero_or_pos _
      have hanswered := h (fun _ service => service) ledgerService _
        (.restore policy { evictions := ledger }) hlimit
      rw [hsent] at hanswered
      rw [hanswered.of_silent.1] at hrequests
      cases hrequests
  · intro hbound others service input _ hlimit
    have hroom : options.maxRequestsPerConnection = 0 ∨
        0 + ((requestsIn options.maxFramePayload input).length +
          (refusalIn options.maxFramePayload input).toList.length) ≤ options.maxRequestsPerConnection := by
      rw [Nat.zero_add]
      exact hlimit
    exact (serveLoop_answers exporter hbound others _ 0 service input (Nat.lt_succ_self _) hroom).answered

open Service in
/-- A service that takes payloads of ten bytes: a ping with eleven is counted as rejected, and the connection closes
    without a reply. -/
theorem oversized_request_unanswered :
    WithinLimit { maxFramePayload := 10 } (oversizedInput 10) ∧
      ∀ exporter : Exporter, ¬ Answered 10 (oversizedInput 10)
        (serveConnection exporter { maxFramePayload := 10 } (fun _ service => service)
          ⟨init {}, false, 0, 0, 0, 0, 0⟩ (oversizedInput 10)).2 := by
  refine ⟨.inl rfl, ?_⟩
  intro exporter hanswered
  have hbound : ({ maxFramePayload := 10 } : ServerOptions).maxFramePayload < kMaxFramePayload := by decide
  obtain ⟨hrefusal, -, hsent⟩ := oversized_silent exporter hbound (fun _ service => service)
    ⟨init {}, false, 0, 0, 0, 0, 0⟩
  rw [hsent] at hanswered
  rw [hanswered.of_silent.2] at hrefusal
  cases hrefusal

end Ocreg
