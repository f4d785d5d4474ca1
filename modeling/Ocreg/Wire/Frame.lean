/-
Module: Ocreg.Wire.Frame
Purpose: The frames of the wire protocol: opcodes, the 60-byte header with its checksum, the checks its reader makes
  in order, and the reading of frames off a byte stream.
-/
import Ocreg.Codec.Offsets
import Ocreg.Lib.FrameLog

namespace Ocreg

open List

variable {data bytes : Bytes}

def kFrameMagic : UInt32 := 0x4F435046

def kFrameHeaderSize : Nat := 60

def kMaxFramePayload : Nat := 4 * 1024 * 1024

def kProtocolVersion : UInt16 := 1

/-! ### Opcodes -/

inductive OpCode where
  | ping | stats | admitRequest | retire | query | evaluate | explain | exportRegistry | revokeSource | restoreSource
  | setSourceAuthority | upsertSourcePolicy | beginDeviceIncarnation | currentIncarnation | resolveConflict
  | evictionLedger | snapshot | shutdown
deriving DecidableEq

def OpCode.numeric : OpCode → UInt16
  | .ping => 1
  | .stats => 2
  | .admitRequest => 3
  | .retire => 4
  | .query => 5
  | .evaluate => 6
  | .explain => 7
  | .exportRegistry => 8
  | .revokeSource => 9
  | .restoreSource => 10
  | .setSourceAuthority => 11
  | .upsertSourcePolicy => 12
  | .beginDeviceIncarnation => 13
  | .currentIncarnation => 14
  | .resolveConflict => 15
  | .evictionLedger => 16
  | .snapshot => 17
  | .shutdown => 18

/-- `opcode_from`. -/
def OpCode.ofNumeric? (raw : UInt16) : Option OpCode :=
  [.ping, .stats, .admitRequest, .retire, .query, .evaluate, .explain, .exportRegistry, .revokeSource, .restoreSource,
    .setSourceAuthority, .upsertSourcePolicy, .beginDeviceIncarnation, .currentIncarnation, .resolveConflict,
    .evictionLedger, .snapshot, .shutdown].find? (fun code => numeric code == raw)

@[simp] theorem OpCode.ofNumeric?_numeric (code : OpCode) : ofNumeric? code.numeric = some code := by
  cases code <;> rfl

theorem OpCode.numeric_of_ofNumeric? {raw : UInt16} {code : OpCode} (h : ofNumeric? raw = some code) :
    code.numeric = raw := by
  simpa using List.find?_some h

/-! ### Headers -/

/-- Bits of the flags field. -/
def FrameFlags.response : UInt16 := 1

def FrameFlags.failure : UInt16 := 2

def FrameFlags.final : UInt16 := 4

/-- `opcode` holds the number of an opcode: the enumeration of the source does not exclude other numbers, and both
    the encoder and the dispatcher have a branch for them. -/
structure FrameHeader where
  version : UInt16 := kProtocolVersion
  flags : UInt16 := 0
  opcode : UInt16 := OpCode.ping.numeric
  reserved : UInt16 := 0
  requestId : UInt64 := 0
  payloadLen : UInt32 := 0
  payloadDigest : Digest256 := .zero
  headerCrc : UInt32 := 0
deriving DecidableEq

variable {header : FrameHeader}

namespace FrameHeader

/-- Everything the header checksum covers. -/
def body (header : FrameHeader) : Bytes :=
  Writer.u32 kFrameMagic ++ (Writer.u16 header.version ++ (Writer.u16 header.flags ++ (Writer.u16 header.opcode ++
    (Writer.u16 0 ++ (Writer.u64 header.requestId ++ (Writer.u32 header.payloadLen ++
    Writer.digest header.payloadDigest))))))

/-- What `encode_frame_header` requires of the fields. -/
def Representable (header : FrameHeader) : Prop :=
  header.payloadLen.toNat ≤ kMaxFramePayload ∧ header.reserved = 0 ∧ (OpCode.ofNumeric? header.opcode).isSome

instance (header : FrameHeader) : Decidable header.Representable :=
  inferInstanceAs (Decidable (_ ∧ _ ∧ _))

@[simp] theorem length_body (header : FrameHeader) : header.body.length = 56 := by
  simp [body]

end FrameHeader

/-- `encode_frame_header`; none when a field is out of range. -/
def encodeFrameHeader (header : FrameHeader) : Option Bytes :=
  if header.Representable then some (header.body ++ Writer.u32 (crc32c header.body)) else none

/-- `decode_frame_header`, on the `kFrameHeaderSize` bytes of a header. -/
def decodeFrameHeader (data : Bytes) : Except ReasonCode FrameHeader :=
  if getU32 data 0 ≠ kFrameMagic then .error .protocolFrameMalformed
  else if crc32c (data.take (kFrameHeaderSize - 4)) ≠ getU32 data (kFrameHeaderSize - 4) then
    .error .protocolChecksumMismatch
  else if getU16 data 4 ≠ kProtocolVersion then .error .protocolVersionUnsupported
  else if getU16 data 10 ≠ 0 then .error .protocolFrameMalformed
  else match OpCode.ofNumeric? (getU16 data 8) with
    | none => .error .protocolUnknownOpcode
    | some opcode =>
      if (getU32 data 20).toNat > kMaxFramePayload then .error .protocolFrameTooLarge
      else .ok
        { version := getU16 data 4
          flags := getU16 data 6
          opcode := opcode.numeric
          reserved := getU16 data 10
          requestId := getU64 data 12
          payloadLen := getU32 data 20
          payloadDigest := getDigest data 24
          headerCrc := getU32 data (kFrameHeaderSize - 4) }

/-- A header that is accepted names an opcode and a payload within the bound of the codec. -/
theorem decodeFrameHeader_ok (h : decodeFrameHeader data = .ok header) :
    (OpCode.ofNumeric? header.opcode).isSome ∧ header.payloadLen.toNat ≤ kMaxFramePayload := by
  unfold decodeFrameHeader at h
  split_ifs at h with _ _ _ _ hlen
  · split at h <;> cases h
  · split at h
    · cases h
    · cases h
      exact ⟨by simp, Nat.not_lt.mp hlen⟩

theorem length_encodeFrameHeader (h : encodeFrameHeader header = some bytes) : bytes.length = kFrameHeaderSize := by
  rw [encodeFrameHeader] at h
  split at h
  next hrep =>
    cases h
    simp [kFrameHeaderSize]
  next hrep => cases h

/-- A header of this version is read back with its checksum, whatever bytes follow it. -/
theorem decodeFrameHeader_encode (h : encodeFrameHeader header = some bytes)
    (hversion : header.version = kProtocolVersion) :
    decodeFrameHeader bytes = .ok { header with headerCrc := crc32c header.body } := by
  rw [encodeFrameHeader] at h
  split at h
  next hrep =>
    cases h
    obtain ⟨hlen, hreserved, hopcode⟩ := hrep
    obtain ⟨code, hcode⟩ := Option.isSome_iff_exists.mp hopcode
    have hcrc : getU32 (header.body ++ Writer.u32 (crc32c header.body)) 56 = crc32c header.body := by
      rw [getU32_skip _ (by simp)]
      simpa using getU32_put (crc32c header.body) []
    have htake : (header.body ++ Writer.u32 (crc32c header.body)).take 56 = header.body :=
      take_left' header.length_body
    rw [decodeFrameHeader, show kFrameHeaderSize - 4 = 56 from rfl, hcrc, htake]
    obtain ⟨version, flags, opcode, reserved, requestId, payloadLen, payloadDigest, headerCrc⟩ := header
    have hnumeric := OpCode.numeric_of_ofNumeric? hcode
    subst hversion hreserved
    simp [FrameHeader.body, append_assoc, getU16_skip, getU32_skip, getU64_skip, getDigest_skip, hcode, hnumeric]
    omega
  next hrep => cases h

/-! ### Frames -/

/-- A frame of the protocol. -/
structure Frame where
  header : FrameHeader := {}
  payload : Bytes := []
deriving DecidableEq

variable {frame : Frame}

namespace Frame

def isResponse (frame : Frame) : Bool := frame.header.flags &&& FrameFlags.response != 0

def isFailure (frame : Frame) : Bool := frame.header.flags &&& FrameFlags.failure != 0

/-- The header as it is sent: length and digest are those of the payload, the length truncated to 32 bits. -/
def sealed (frame : Frame) : FrameHeader :=
  { frame.header with
    payloadLen := UInt32.ofNat frame.payload.length, payloadDigest := Digest256.of frame.payload }

end Frame

/-- `serialize_frame`; empty when the frame is not representable. -/
def serializeFrame (frame : Frame) : Bytes :=
  match encodeFrameHeader frame.sealed with
  | none => []
  | some bytes => bytes ++ frame.payload

namespace Frame

/-- A frame of this version that has a serialisation. -/
structure Sendable (frame : Frame) : Prop where
  version : frame.header.version = kProtocolVersion
  reserved : frame.header.reserved = 0
  opcode : (OpCode.ofNumeric? frame.header.opcode).isSome
  fits : frame.payload.length ≤ kMaxFramePayload

/-- The frame a receiver makes of it. -/
def received (frame : Frame) : Frame :=
  ⟨{ frame.sealed with headerCrc := crc32c frame.sealed.body }, frame.payload⟩

theorem Sendable.payloadLen (h : frame.Sendable) : frame.sealed.payloadLen.toNat = frame.payload.length := by
  rw [sealed, UInt32.toNat_ofNat']
  exact Nat.mod_eq_of_lt (lt_of_le_of_lt h.fits (by decide))

theorem Sendable.representable (h : frame.Sendable) : frame.sealed.Representable :=
  ⟨h.payloadLen.trans_le h.fits, h.reserved, h.opcode⟩

end Frame

/-- A payload just over the bound leaves nothing to send. -/
theorem serializeFrame_oversized (hover : kMaxFramePayload < frame.payload.length)
    (hsize : frame.payload.length < 2 ^ 32) : serializeFrame frame = [] := by
  have hlen : frame.sealed.payloadLen.toNat = frame.payload.length := by
    rw [Frame.sealed, UInt32.toNat_ofNat']
    exact Nat.mod_eq_of_lt hsize
  have hrep : ¬ frame.sealed.Representable := by
    intro hrep
    exact absurd (hlen ▸ hrep.1) (Nat.not_le.mpr hover)
  rw [serializeFrame, encodeFrameHeader, if_neg hrep]

/-- What the 60 bytes of an accepted header say is all there is in them. -/
theorem encodeFrameHeader_decode (hsize : data.length = kFrameHeaderSize)
    (h : decodeFrameHeader data = .ok header) : encodeFrameHeader header = some data := by
  rw [kFrameHeaderSize] at hsize
  unfold decodeFrameHeader at h
  split_ifs at h with hmagic hcrc hversion hreserved hlen
  · split at h <;> cases h
  · split at h
    next => cases h
    next code hcode =>
      have hheader := Except.ok.inj h
      have hbody : header.body = data.take 56 := by
        simp only [← hheader, FrameHeader.body]
        rw [← not_not.mp hmagic, OpCode.numeric_of_ofNumeric? hcode, ← not_not.mp hreserved]
        rw [u32_get (by omega), u16_get (by omega), u16_get (by omega), u16_get (by omega), u16_get (by omega),
          u64_get (by omega), u32_get (by omega), digest_get (by omega), drop_zero]
        rw [show 56 = 4 + (2 + (2 + (2 + (2 + (8 + (4 + 32)))))) from rfl]
        rw [take_add, take_add, take_add, take_add, take_add, take_add, take_add]
        simp only [drop_drop, Nat.reduceAdd]
      have hrep : header.Representable := by
        rw [← hheader]
        exact ⟨Nat.not_lt.mp hlen, not_not.mp hreserved, by simp⟩
      have hstored : crc32c (data.take 56) = getU32 data 56 := not_not.mp hcrc
      have htail : (data.drop 56).take 4 = data.drop 56 := take_of_length_le (by rw [length_drop, hsize])
      rw [encodeFrameHeader, if_pos hrep, hbody, hstored, u32_get (by omega), htail, take_append_drop]

/-- What a frame and its serialisation should have in common: only a frame that is out of bounds has none, and the
    header read back has the fields of the frame with the length and digest of the payload that follows it. -/
structure Frame.SerializesExactly (frame : Frame) : Prop where
  refused_iff : serializeFrame frame = [] ↔ kMaxFramePayload < frame.payload.length ∨ frame.header.reserved ≠ 0 ∨
    OpCode.ofNumeric? frame.header.opcode = none
  header : serializeFrame frame ≠ [] →
    ∃ header, decodeFrameHeader ((serializeFrame frame).take kFrameHeaderSize) = .ok header ∧
      header.payloadLen.toNat = frame.payload.length ∧
      header = { frame.header with
        payloadLen := header.payloadLen, payloadDigest := Digest256.of frame.payload, headerCrc := header.headerCrc }
  payload : serializeFrame frame ≠ [] → (serializeFrame frame).drop kFrameHeaderSize = frame.payload

theorem serializeFrame_eq_nil_iff (frame : Frame) : serializeFrame frame = [] ↔ ¬ frame.sealed.Representable := by
  rw [serializeFrame, encodeFrameHeader]
  split
  next hnone => simpa using hnone
  next bytes hbytes =>
    have hlength := length_encodeFrameHeader hbytes
    simp only [Option.ite_none_right_eq_some] at hbytes
    simp only [append_eq_nil_iff, hbytes.1, not_true_eq_false, iff_false, not_and]
    rintro rfl
    cases hlength

/-- A serialisation is exact for every frame but those whose payload is so long that its size wraps to an admissible
    length; and an accepted header is written back as the bytes it was read from. -/
theorem serializesExactly_iff (frame : Frame) (hversion : frame.header.version = kProtocolVersion) :
    (frame.SerializesExactly ↔ frame.payload.length < 2 ^ 32 ∨ kMaxFramePayload < frame.payload.length % 2 ^ 32 ∨
      frame.header.reserved ≠ 0 ∨ OpCode.ofNumeric? frame.header.opcode = none) ∧
    ∀ data header, data.length = kFrameHeaderSize → decodeFrameHeader data = .ok header →
      encodeFrameHeader header = some data := by
  refine ⟨?_, fun data header => encodeFrameHeader_decode⟩
  have hnil := serializeFrame_eq_nil_iff frame
  have hsealed : frame.sealed.Representable ↔ frame.payload.length % 2 ^ 32 ≤ kMaxFramePayload ∧
      frame.header.reserved = 0 ∧ OpCode.ofNumeric? frame.header.opcode ≠ none := by
    rw [FrameHeader.Representable, Frame.sealed, UInt32.toNat_ofNat', Option.isSome_iff_ne_none]
  rw [hsealed] at hnil
  constructor
  · intro h
    have hrefused := h.refused_iff
    rw [hnil] at hrefused
    by_contra hcondition
    simp only [not_or, Nat.not_lt, not_not] at hcondition
    obtain ⟨hlong, hfits, hreserved, hopcode⟩ := hcondition
    refine hrefused.mpr (.inl (Nat.lt_of_lt_of_le (by decide) hlong)) ⟨hfits, hreserved, hopcode⟩
  · intro hcondition
    have hsend : serializeFrame frame ≠ [] → frame.Sendable := by
      intro hne
      obtain ⟨hfits, hreserved, hopcode⟩ := not_not.mp (mt hnil.mpr hne)
      have hshort : frame.payload.length < 2 ^ 32 := by
        rcases hcondition with h | h | h | h
        · exact h
        · exact absurd hfits (Nat.not_le.mpr h)
        · exact absurd hreserved h
        · exact absurd h hopcode
      rw [Nat.mod_eq_of_lt hshort] at hfits
      exact ⟨hversion, hreserved, Option.isSome_iff_ne_none.mpr hopcode, hfits⟩
    have hsplit : serializeFrame frame ≠ [] → ∃ bytes, encodeFrameHeader frame.sealed = some bytes ∧
        serializeFrame frame = bytes ++ frame.payload := by
      intro hne
      obtain ⟨bytes, hbytes⟩ : ∃ bytes, encodeFrameHeader frame.sealed = some bytes :=
        ⟨_, if_pos (hsend hne).representable⟩
      exact ⟨bytes, hbytes, by rw [serializeFrame, hbytes]⟩
    refine ⟨?_, ?_, ?_⟩
    · rw [hnil]
      have hwrap := Nat.mod_le frame.payload.length (2 ^ 32)
      constructor
      · intro hnot
        by_contra hok
        simp only [not_or, Nat.not_lt, not_not] at hok
        exact hnot ⟨hwrap.trans hok.1, hok.2⟩
      · rintro hout ⟨hfits, hreserved, hopcode⟩
        have hfit := (hsend (fun h => hnil.mp h ⟨hfits, hreserved, hopcode⟩)).fits
        rcases hout with h | h | h
        · exact absurd hfit (Nat.not_le.mpr h)
        · exact h hreserved
        · exact hopcode h
    · intro hne
      obtain ⟨bytes, hbytes, hserialized⟩ := hsplit hne
      rw [hserialized, take_left' (length_encodeFrameHeader hbytes),
        decodeFrameHeader_encode hbytes hversion]
      exact ⟨_, rfl, (hsend hne).payloadLen, rfl⟩
    · intro hne
      obtain ⟨bytes, hbytes, hserialized⟩ := hsplit hne
      rw [hserialized, drop_left' (length_encodeFrameHeader hbytes)]

/-- A frame with a payload is serialised exactly. -/
theorem serializesExactly_payload :
    Frame.SerializesExactly ⟨{ opcode := OpCode.evaluate.numeric, payloadLen := 3 }, [1, 2, 3]⟩ :=
  (serializesExactly_iff _ rfl).1.mpr (.inl (by decide))

/-- A payload of `2 ^ 32` bytes is sent under a header that announces none. -/
theorem wrapped_payload_serialized : ∃ frame : Frame, frame.header.version = kProtocolVersion ∧
    kMaxFramePayload < frame.payload.length ∧ serializeFrame frame ≠ [] := by
  refine ⟨⟨{}, List.replicate (2 ^ 32) 0⟩, rfl, ?_, ?_⟩
  · rw [length_replicate]
    decide
  · rw [ne_eq, serializeFrame_eq_nil_iff, not_not]
    refine ⟨?_, rfl, rfl⟩
    rw [Frame.sealed, length_replicate]
    decide

/-! ### Reading frames off a stream -/

/-- Why a reader of frames does not go on: the stream ends inside a frame, or the frame is refused. -/
inductive FrameStop where
  | incomplete
  | refused (reason : ReasonCode)
deriving DecidableEq

/-- What stands at the front of a stream for a receiver that takes payloads of at most `bound` bytes. -/
def frameFront (bound : Nat) (bytes : Bytes) : FrameLog.Front Frame FrameStop :=
  if bytes.length < kFrameHeaderSize then .stop .incomplete
  else match decodeFrameHeader (bytes.take kFrameHeaderSize) with
    | .error reason => .stop (.refused reason)
    | .ok header =>
      let rest := bytes.drop kFrameHeaderSize
      let payload := rest.take header.payloadLen.toNat
      if header.payloadLen.toNat > bound then .stop (.refused .protocolFrameTooLarge)
      else if rest.length < header.payloadLen.toNat then .stop .incomplete
      else if Digest256.of payload ≠ header.payloadDigest then .stop (.refused .protocolChecksumMismatch)
      else .frame ⟨header, payload⟩ (kFrameHeaderSize + header.payloadLen.toNat)

theorem frameFront_positive (bound : Nat) : FrameLog.Positive (frameFront bound) := by
  intro bytes frame size h
  unfold frameFront at h
  split at h
  · cases h
  · split at h
    · cases h
    · dsimp only at h
      split_ifs at h
      cases h
      simp [kFrameHeaderSize]

/-- A frame whose payload fits is read off the front of any stream that starts with it. -/
theorem frameFront_serialize {bound : Nat} (h : frame.Sendable) (hbound : frame.payload.length ≤ bound) (rest : Bytes) :
    frameFront bound (serializeFrame frame ++ rest) = .frame frame.received (serializeFrame frame).length := by
  obtain ⟨bytes, hbytes⟩ : ∃ bytes, encodeFrameHeader frame.sealed = some bytes := ⟨_, if_pos h.representable⟩
  have hlength := length_encodeFrameHeader hbytes
  have hdecode := decodeFrameHeader_encode hbytes h.version
  have hstream : serializeFrame frame ++ rest = bytes ++ (frame.payload ++ rest) := by
    rw [serializeFrame, hbytes, append_assoc]
  have hsize : (serializeFrame frame).length = kFrameHeaderSize + frame.payload.length := by
    rw [serializeFrame, hbytes, length_append, hlength]
  rw [hstream, hsize, frameFront, if_neg (by simp [hlength]), take_left' hlength, hdecode]
  dsimp only
  rw [drop_left' hlength, h.payloadLen, take_left' rfl, if_neg (Nat.not_lt.mpr hbound),
    if_neg (by simp), if_neg (fun hne => hne rfl)]
  rfl

/-- Frames laid end to end are received one by one, to the last byte. -/
theorem read_serialized {frames : List Frame} (h : ∀ frame ∈ frames, frame.Sendable) :
    (FrameLog.read (frameFront kMaxFramePayload) (frames.flatMap serializeFrame)).1.map Prod.fst
        = frames.map Frame.received ∧
      (FrameLog.read (frameFront kMaxFramePayload) (frames.flatMap serializeFrame)).2 = none := by
  have hframed : ∀ frame ∈ frames,
      FrameLog.Framed (frameFront kMaxFramePayload) serializeFrame Frame.received frame := by
    intro frame hframe
    have hsend := h frame hframe
    constructor
    · obtain ⟨bytes, hbytes⟩ : ∃ bytes, encodeFrameHeader frame.sealed = some bytes :=
        ⟨_, if_pos hsend.representable⟩
      have hlength := length_encodeFrameHeader hbytes
      intro hnil
      rw [serializeFrame, hbytes] at hnil
      rw [(append_eq_nil_iff.mp hnil).1] at hlength
      cases hlength
    · exact fun rest => frameFront_serialize hsend hsend.fits rest
  have hread := FrameLog.read_flatMap (frameFront_positive kMaxFramePayload) hframed []
  rw [append_nil] at hread
  rw [hread]
  simp

end Ocreg
