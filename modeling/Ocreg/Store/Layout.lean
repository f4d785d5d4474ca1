/-
Module: Ocreg.Store.Layout
Purpose: Byte layout of the two store files: the snapshot with its fixed header and footer, and the entries of
  the journal, with the checks their readers make in order.
-/
import Ocreg.Codec.Offsets
import Ocreg.Codec.State
import Ocreg.Lib.FrameLog

namespace Ocreg

open List Writer

variable {state : RegistryState} {size kept : Nat} {payload : Bytes}

theorem ok_bind {ε α β : Type} (a : α) (next : α → Except ε β) : (Except.ok a >>= next) = next a := rfl

/-! ### Snapshot files -/

def kSnapshotMagic : UInt32 := 0x4F435253

def kSnapshotFooterMagic : UInt32 := 0x4F435246

def kSnapshotHeaderSize : Nat := 112

def kSnapshotFooterSize : Nat := 32

/-- The header of a snapshot file. -/
structure SnapshotHeader where
  formatVersion : UInt32 := kStoreFormatVersion
  headerSize : UInt32 := UInt32.ofNat kSnapshotHeaderSize
  flags : UInt32 := 0
  apiGeneration : UInt32 := kApiGeneration
  catalogFingerprint : UInt32 := 0
  reasonFingerprint : UInt32 := 0
  payloadLen : UInt64 := 0
  createdAt : UInt64 := 0
  storeGeneration : UInt64 := 0
  registryEpoch : UInt64 := 0
  ruleGeneration : UInt64 := 0
  bootEpoch : UInt64 := 0
  payloadDigest : Digest256 := .zero

namespace SnapshotHeader

section

variable (header : SnapshotHeader)
include header

/-- Everything the header checksum covers. -/
def body : Bytes :=
  u32 kSnapshotMagic ++ (u32 header.formatVersion ++ (u32 header.headerSize ++
    (u32 header.flags ++ (u32 header.apiGeneration ++ (u32 header.catalogFingerprint ++
    (u32 header.reasonFingerprint ++ (u64 header.payloadLen ++ (u64 header.createdAt ++
    (u64 header.storeGeneration ++ (u64 header.registryEpoch ++ (u64 header.ruleGeneration ++
    (u64 header.bootEpoch ++ digest header.payloadDigest))))))))))))

/-- `serialize_header`. -/
def serialize : Bytes := header.body ++ u32 (crc32c header.body)

@[simp] theorem length_body : header.body.length = 108 := by simp [body]

@[simp] theorem length_serialize : header.serialize.length = 112 := by simp [serialize]

end

end SnapshotHeader

/-- `parse_header`. -/
def parseHeader (data : Bytes) : Except ReasonCode SnapshotHeader :=
  if data.length < kSnapshotHeaderSize then .error .storeHeaderCorrupt
  else if getU32 data 0 ≠ kSnapshotMagic then .error .storeHeaderCorrupt
  else if crc32c (data.take (kSnapshotHeaderSize - 4)) ≠ getU32 data (kSnapshotHeaderSize - 4) then
    .error .storeHeaderCorrupt
  else if getU32 data 4 ≠ kStoreFormatVersion then .error .storeVersionIncompatible
  else if getU32 data 8 ≠ UInt32.ofNat kSnapshotHeaderSize then .error .storeHeaderCorrupt
  else if getU32 data 12 ≠ 0 then .error .storeSemanticMismatch
  else if getU32 data 16 ≠ kApiGeneration then .error .storeVersionIncompatible
  else if getU32 data 20 ≠ catalogFingerprint then .error .storeSemanticMismatch
  else if getU32 data 24 ≠ reasonTableFingerprint then .error .storeSemanticMismatch
  else .ok
    { formatVersion := getU32 data 4
      headerSize := getU32 data 8
      flags := getU32 data 12
      apiGeneration := getU32 data 16
      catalogFingerprint := getU32 data 20
      reasonFingerprint := getU32 data 24
      payloadLen := getU64 data 28
      createdAt := getU64 data 36
      storeGeneration := getU64 data 44
      registryEpoch := getU64 data 52
      ruleGeneration := getU64 data 60
      bootEpoch := getU64 data 68
      payloadDigest := getDigest data 76 }

/-- A header this build writes: its own versions and fingerprints, no flags. -/
structure SnapshotHeader.Current (header : SnapshotHeader) : Prop where
  formatVersion : header.formatVersion = kStoreFormatVersion
  headerSize : header.headerSize = UInt32.ofNat kSnapshotHeaderSize
  flags : header.flags = 0
  apiGeneration : header.apiGeneration = kApiGeneration
  catalogFingerprint : header.catalogFingerprint = Ocreg.catalogFingerprint
  reasonFingerprint : header.reasonFingerprint = reasonTableFingerprint

/-- A header is read back from the front of a file. -/
theorem parseHeader_serialize {header : SnapshotHeader} (h : header.Current) (rest : Bytes) :
    parseHeader (header.serialize ++ rest) = .ok header := by
  have hcrc : getU32 (header.serialize ++ rest) 108 = crc32c header.body := by
    rw [SnapshotHeader.serialize, append_assoc, getU32_skip _ (by simp)]
    simp
  have htake : (header.serialize ++ rest).take 108 = header.body := by
    rw [SnapshotHeader.serialize, append_assoc, take_left' header.length_body]
  have hlength : ¬ (header.serialize ++ rest).length < kSnapshotHeaderSize := by
    simp [kSnapshotHeaderSize]
  rw [parseHeader, if_neg hlength, show kSnapshotHeaderSize - 4 = 108 from rfl, hcrc, htake]
  obtain ⟨formatVersion, headerSize, flags, apiGeneration, catalog, reasons, payloadLen, createdAt, generation, epoch,
    rules, boot, digest⟩ := header
  obtain ⟨rfl, rfl, rfl, rfl, rfl, rfl⟩ := h
  simp [SnapshotHeader.serialize, SnapshotHeader.body, append_assoc, getU32_skip, getU64_skip, getDigest_skip]

/-- Decode a payload as one state that takes all of it; `rejected` and `trailing` are the details reported. -/
def decodeState (payload rejected trailing : Bytes) : Except Refusal RegistryState :=
  match RegistryState.decode.run payload with
  | .error reason => .error ⟨reason, rejected⟩
  | .ok (state, rest) => if rest = [] then .ok state else .error ⟨.storeSemanticMismatch, trailing⟩

/-- The encoding of the state is read back as that state. -/
def RegistryState.Decodable (state : RegistryState) : Prop := RegistryState.decode.run state.encode = .ok (state, [])

theorem decodeState_encode (h : state.Decodable) (rejected trailing : Bytes) :
    decodeState state.encode rejected trailing = .ok state := by
  rw [decodeState, h]
  rfl

theorem RegistryState.WF.decodable (h : state.WF) : state.Decodable := by
  have hrun := RegistryState.roundTrip h []
  rwa [append_nil] at hrun

/-- The part of the footer its checksum covers. -/
def footerBody (payload : Bytes) (records : Nat) : Bytes :=
  u32 kSnapshotFooterMagic ++ (u64 (UInt64.ofNat payload.length) ++
    (u32 (crc32c payload) ++ u64 (UInt64.ofNat records)))

def snapshotFooter (payload : Bytes) (records : Nat) : Bytes :=
  footerBody payload records ++ (u32 (crc32c (footerBody payload records)) ++ u32 0)

def snapshotHeader (state : RegistryState) (now : Tick) : SnapshotHeader where
  catalogFingerprint := catalogFingerprint
  reasonFingerprint := reasonTableFingerprint
  payloadLen := UInt64.ofNat state.encode.length
  createdAt := now
  storeGeneration := state.storeGeneration
  registryEpoch := state.epoch
  ruleGeneration := state.ruleGeneration
  bootEpoch := state.bootEpoch
  payloadDigest := Digest256.of state.encode

/-- The bytes `write_snapshot` writes. -/
def snapshotFile (state : RegistryState) (now : Tick) : Bytes :=
  (snapshotHeader state now).serialize ++ (state.encode ++ snapshotFooter state.encode state.records.length)

@[simp] theorem length_footerBody (payload : Bytes) (records : Nat) : (footerBody payload records).length = 24 := by
  simp [footerBody]

@[simp] theorem length_snapshotFooter (payload : Bytes) (records : Nat) :
    (snapshotFooter payload records).length = 32 := by
  simp [snapshotFooter]

@[simp] theorem length_snapshotFile (state : RegistryState) (now : Tick) :
    (snapshotFile state now).length = state.encode.length + 144 := by
  simp [snapshotFile]
  omega

/-- The checks `Store::open` makes on a snapshot file, in its order. -/
def readSnapshot (data : Bytes) : Except Refusal RegistryState := do
  let header ← (parseHeader data).mapError (fun reason => ⟨reason, text "snapshot header rejected"⟩)
  require (kSnapshotHeaderSize + kSnapshotFooterSize ≤ data.length) .storeTornTail
    (text "snapshot is shorter than header plus footer")
  require (header.payloadLen = UInt64.ofNat (data.length - kSnapshotHeaderSize - kSnapshotFooterSize)) .storeTornTail
    (text "snapshot payload length disagrees with size")
  let footer := kSnapshotHeaderSize + header.payloadLen.toNat
  require (footer + kSnapshotFooterSize ≤ data.length) .storeFooterMissing (text "snapshot footer is absent")
  require (getU32 data footer = kSnapshotFooterMagic) .storeFooterMissing (text "snapshot footer magic mismatch")
  require (crc32c ((data.drop footer).take 24) = getU32 data (footer + 24)) .storePayloadCorrupt
    (text "snapshot footer checksum mismatch")
  require (getU32 data (footer + 28) = 0) .storeSemanticMismatch (text "snapshot footer reserved field set")
  require (getU64 data (footer + 4) = header.payloadLen) .storeTornTail (text "snapshot footer length mismatch")
  let payload := (data.drop kSnapshotHeaderSize).take header.payloadLen.toNat
  require (crc32c payload = getU32 data (footer + 12)) .storePayloadCorrupt (text "snapshot payload CRC mismatch")
  require (Digest256.of payload = header.payloadDigest) .storePayloadCorrupt
    (text "snapshot payload digest mismatch")
  decodeState payload (text "snapshot payload rejected") (text "snapshot payload has trailing bytes")

theorem snapshotHeader_current (state : RegistryState) (now : Tick) : (snapshotHeader state now).Current :=
  ⟨rfl, rfl, rfl, rfl, rfl, rfl⟩

/-- The footer at the end of a file, field by field. -/
theorem footer_fields {front : Bytes} (hfront : front.length = size) (payload : Bytes) (records : Nat) :
    getU32 (front ++ snapshotFooter payload records) size = kSnapshotFooterMagic ∧
      ((front ++ snapshotFooter payload records).drop size).take 24 = footerBody payload records ∧
      getU32 (front ++ snapshotFooter payload records) (size + 24) = crc32c (footerBody payload records) ∧
      getU32 (front ++ snapshotFooter payload records) (size + 28) = 0 ∧
      getU64 (front ++ snapshotFooter payload records) (size + 4) = UInt64.ofNat payload.length ∧
      getU32 (front ++ snapshotFooter payload records) (size + 12) = crc32c payload := by
  subst hfront
  have hzero : getU32 (u32 0) 0 = 0 := getU32_put 0 []
  refine ⟨?_, ?_, ?_, ?_, ?_, ?_⟩
  · simp [getU32_skip, snapshotFooter, footerBody, append_assoc]
  · rw [drop_left, snapshotFooter, take_left' (length_footerBody payload records)]
  · rw [getU32_skip _ (Nat.le_add_right _ _), Nat.add_sub_cancel_left, snapshotFooter, getU32_skip _ (by simp)]
    simp
  · rw [getU32_skip _ (Nat.le_add_right _ _), Nat.add_sub_cancel_left, snapshotFooter, getU32_skip _ (by simp)]
    simp [getU32_skip, hzero]
  · simp [getU64_skip, snapshotFooter, footerBody, append_assoc]
  · simp [getU32_skip, snapshotFooter, footerBody, append_assoc]

/-- A snapshot file is read back as the state it was written for. -/
theorem readSnapshot_file (hstate : state.Decodable) (hlength : state.encode.length < 2 ^ 64) (now : Tick) :
    readSnapshot (snapshotFile state now) = .ok state := by
  have hsize : (snapshotHeader state now).payloadLen.toNat = state.encode.length := UInt64.toNat_ofNat_of_lt hlength
  have hheader : parseHeader (snapshotFile state now) = .ok (snapshotHeader state now) :=
    parseHeader_serialize (snapshotHeader_current state now) _
  have hpayload : ((snapshotFile state now).drop kSnapshotHeaderSize).take state.encode.length = state.encode := by
    rw [snapshotFile, kSnapshotHeaderSize, drop_left' (SnapshotHeader.length_serialize _), take_left]
  have hbefore : ((snapshotHeader state now).serialize ++ state.encode).length =
      kSnapshotHeaderSize + state.encode.length := by
    simp [kSnapshotHeaderSize]
  have hfile : snapshotFile state now = ((snapshotHeader state now).serialize ++ state.encode) ++
      snapshotFooter state.encode state.records.length := by
    rw [snapshotFile, append_assoc]
  obtain ⟨hmagic, hbody, hcrc, hreserved, hlen, hcheck⟩ :=
    footer_fields hbefore state.encode state.records.length
  rw [← hfile] at hmagic hbody hcrc hreserved hlen hcheck
  change _ = (snapshotHeader state now).payloadLen at hlen
  have hwhole : (snapshotFile state now).length = kSnapshotHeaderSize + state.encode.length + kSnapshotFooterSize := by
    rw [length_snapshotFile, kSnapshotHeaderSize, kSnapshotFooterSize]
    omega
  have hdeclared : (snapshotHeader state now).payloadLen =
      UInt64.ofNat ((snapshotFile state now).length - kSnapshotHeaderSize - kSnapshotFooterSize) := by
    rw [hwhole, Nat.add_assoc, Nat.add_sub_cancel_left, Nat.add_sub_cancel]
    rfl
  rw [readSnapshot, hheader]
  change (require _ _ _ >>= _) = _
  rw [require_bind _ _ (by omega), require_bind _ _ hdeclared, hsize, require_bind _ _ (by omega),
    require_bind _ _ hmagic, require_bind _ _ (hbody ▸ hcrc.symm), require_bind _ _ hreserved, require_bind _ _ hlen]
  dsimp only
  have hdigest : Digest256.of state.encode = (snapshotHeader state now).payloadDigest := rfl
  rw [hpayload, require_bind _ _ hcheck.symm, require_bind _ _ hdigest]
  exact decodeState_encode hstate _ _

/-! ### Journal entries -/

def kJournalMagic : UInt32 := 0x4F434A52

def kJournalHeaderSize : Nat := 72

def kJournalTrailerSize : Nat := 8

/-- Kinds of journal entries. -/
inductive JournalKind where
  | stateSnapshot | admission | retirement | sourcePolicyChange | sourceRevocation | ruleGenerationChange
  | epochAdvance | conflictResolution | deviceIncarnation | limitChange
deriving DecidableEq

namespace JournalKind

def numeric : JournalKind → UInt16
  | stateSnapshot => 1
  | admission => 2
  | retirement => 3
  | sourcePolicyChange => 4
  | sourceRevocation => 5
  | ruleGenerationChange => 6
  | epochAdvance => 7
  | conflictResolution => 8
  | deviceIncarnation => 9
  | limitChange => 10

def all : List JournalKind :=
  [stateSnapshot, admission, retirement, sourcePolicyChange, sourceRevocation, ruleGenerationChange, epochAdvance,
    conflictResolution, deviceIncarnation, limitChange]

def ofNumeric? (raw : UInt16) : Option JournalKind := all.find? (fun kind => kind.numeric == raw)

theorem ofNumeric?_numeric (kind : JournalKind) : ofNumeric? kind.numeric = some kind := by
  cases kind <;> rfl

end JournalKind

/-- The header of a journal entry. -/
structure JournalHeader where
  formatVersion : UInt16 := kStoreFormatVersion.toUInt16
  kind : JournalKind := .stateSnapshot
  sequence : UInt64 := 0
  createdAt : UInt64 := 0
  storeGeneration : UInt64 := 0
  payloadLen : UInt32 := 0
  payloadDigest : Digest256 := .zero

namespace JournalHeader

section

variable (header : JournalHeader)
include header

/-- Everything the header checksum covers. -/
def body : Bytes :=
  u32 kJournalMagic ++ (u16 header.formatVersion ++ (u16 header.kind.numeric ++
    (u64 header.sequence ++ (u64 header.createdAt ++ (u64 header.storeGeneration ++
    (u32 header.payloadLen ++ digest header.payloadDigest))))))

/-- `serialize_journal_header`. -/
def serialize : Bytes := header.body ++ u32 (crc32c header.body)

@[simp] theorem length_body : header.body.length = 68 := by simp [body]

@[simp] theorem length_serialize : header.serialize.length = 72 := by simp [serialize]

end

end JournalHeader

/-- `parse_journal_header`, on bytes that hold at least a header. -/
def parseJournalHeader (data : Bytes) : Except ReasonCode JournalHeader :=
  if getU32 data 0 ≠ kJournalMagic then .error .storeJournalCorrupt
  else if crc32c (data.take (kJournalHeaderSize - 4)) ≠ getU32 data (kJournalHeaderSize - 4) then
    .error .storeJournalCorrupt
  else if getU16 data 4 ≠ kStoreFormatVersion.toUInt16 then .error .storeVersionIncompatible
  else match JournalKind.ofNumeric? (getU16 data 6) with
    | none => .error .storeJournalCorrupt
    | some kind => .ok
        { formatVersion := getU16 data 4
          kind := kind
          sequence := getU64 data 8
          createdAt := getU64 data 16
          storeGeneration := getU64 data 24
          payloadLen := getU32 data 32
          payloadDigest := getDigest data 36 }

/-- A header is read back from the front of the journal. -/
theorem parseJournalHeader_serialize {header : JournalHeader} (h : header.formatVersion = kStoreFormatVersion.toUInt16)
    (rest : Bytes) : parseJournalHeader (header.serialize ++ rest) = .ok header := by
  have hcrc : getU32 (header.serialize ++ rest) 68 = crc32c header.body := by
    rw [JournalHeader.serialize, append_assoc, getU32_skip _ (by simp)]
    simp
  have htake : (header.serialize ++ rest).take 68 = header.body := by
    rw [JournalHeader.serialize, append_assoc, take_left' header.length_body]
  rw [parseJournalHeader, show kJournalHeaderSize - 4 = 68 from rfl, hcrc, htake]
  obtain ⟨formatVersion, kind, sequence, createdAt, generation, payloadLen, digest⟩ := header
  dsimp only at h
  subst h
  simp [JournalHeader.serialize, JournalHeader.body, append_assoc, getU16_skip, getU32_skip, getU64_skip,
    getDigest_skip, JournalKind.ofNumeric?_numeric]

/-- Only the bytes of the header are looked at. -/
theorem parseJournalHeader_within {first : Bytes} (rest : Bytes) (h : kJournalHeaderSize ≤ first.length) :
    parseJournalHeader (first ++ rest) = parseJournalHeader first := by
  rw [kJournalHeaderSize] at h
  rw [parseJournalHeader, parseJournalHeader, kJournalHeaderSize, getU32_within rest (by omega),
    getU32_within rest (by omega), take_append_of_le_length (by omega), getU16_within rest (by omega),
    getU16_within rest (by omega), getU64_within rest (by omega), getU64_within rest (by omega),
    getU64_within rest (by omega), getU32_within rest (by omega),
    getDigest_within rest (by rw [kDigestBytes]; omega)]

structure StoreLimits where
  maxSnapshotBytes : UInt64 := 64 * 1024 * 1024
  maxJournalEntryBytes : UInt64 := 1024 * 1024
  maxJournalBytes : UInt64 := 16 * 1024 * 1024
  maxJournalEntries : UInt64 := 65536
deriving DecidableEq

variable {limits : StoreLimits}

/-- Why the scanner goes no further: a torn tail, or a corrupt entry with its reason. `counted` says that the
    header of the entry was read. -/
structure JournalStop where
  counted : Bool
  corrupt : Option ReasonCode
deriving DecidableEq

/-- One round of `scan_journal` up to the checks on sequence and generation. The second word of the trailer is
    not looked at. -/
def journalFront (limits : StoreLimits) (data : Bytes) : FrameLog.Front (JournalHeader × Bytes) JournalStop :=
  if data.length < kJournalHeaderSize then .stop ⟨false, none⟩
  else match parseJournalHeader data with
    | .error reason => .stop ⟨false, some reason⟩
    | .ok header =>
      let total := kJournalHeaderSize + header.payloadLen.toNat + kJournalTrailerSize
      let payload := (data.drop kJournalHeaderSize).take header.payloadLen.toNat
      if limits.maxJournalEntryBytes.toNat < header.payloadLen.toNat then .stop ⟨true, some .storeOversized⟩
      else if data.length < total then .stop ⟨true, none⟩
      else if crc32c payload ≠ getU32 data (kJournalHeaderSize + header.payloadLen.toNat) then
        .stop ⟨true, some .storePayloadCorrupt⟩
      else if Digest256.of payload ≠ header.payloadDigest then .stop ⟨true, some .storePayloadCorrupt⟩
      else .frame (header, payload) total

/-- What the scanner looks at before it takes an entry, and the entry it takes. -/
theorem journalFront_eq_frame {data : Bytes} {entry : JournalHeader × Bytes} :
    journalFront limits data = .frame entry size ↔
      kJournalHeaderSize ≤ data.length ∧ parseJournalHeader data = .ok entry.1 ∧
        entry.1.payloadLen.toNat ≤ limits.maxJournalEntryBytes.toNat ∧ size ≤ data.length ∧
        size = kJournalHeaderSize + entry.1.payloadLen.toNat + kJournalTrailerSize ∧
        entry.2 = (data.drop kJournalHeaderSize).take entry.1.payloadLen.toNat ∧
        crc32c entry.2 = getU32 data (kJournalHeaderSize + entry.1.payloadLen.toNat) ∧
        Digest256.of entry.2 = entry.1.payloadDigest := by
  obtain ⟨header, payload⟩ := entry
  constructor
  · intro h
    rw [journalFront] at h
    split at h
    · cases h
    · rename_i hheader
      split at h
      · cases h
      · rename_i found hparse
        dsimp only at h
        split at h
        · cases h
        · rename_i hbound
          split at h
          · cases h
          · rename_i htotal
            split at h
            · cases h
            · rename_i hcrc
              split at h
              · cases h
              · rename_i hdigest
                cases h
                exact ⟨not_lt.mp hheader, hparse, not_lt.mp hbound, not_lt.mp htotal, rfl, rfl, not_not.mp hcrc,
                  not_not.mp hdigest⟩
  · rintro ⟨hheader, hparse, hbound, htotal, rfl, hpayload, hcrc, hdigest⟩
    dsimp only at hparse hbound htotal hpayload hcrc hdigest
    rw [journalFront, if_neg (not_lt.mpr hheader), hparse]
    dsimp only
    rw [if_neg (not_lt.mpr hbound), if_neg (not_lt.mpr htotal), ← hpayload, if_neg (not_not.mpr hcrc),
      if_neg (not_not.mpr hdigest)]

theorem journalFront_positive (limits : StoreLimits) : FrameLog.Positive (journalFront limits) := by
  intro data entry size h
  obtain ⟨-, -, -, -, hsize, -⟩ := journalFront_eq_frame.mp h
  rw [hsize, kJournalHeaderSize]
  omega

theorem journalFront_local (limits : StoreLimits) : FrameLog.Local (journalFront limits) := by
  intro data entry size h
  obtain ⟨hheader, hparse, hbound, hsize, htotal, hpayload, hcrc, hdigest⟩ := journalFront_eq_frame.mp h
  refine ⟨hsize, ?_⟩
  intro rest
  have hlength : (data.take size).length = size := length_take_of_le hsize
  have hdata : data = data.take size ++ data.drop size := (take_append_drop size data).symm
  have htrailer : kJournalTrailerSize = 8 := rfl
  apply journalFront_eq_frame.mpr
  rw [hdata, parseJournalHeader_within _ (by omega)] at hparse
  rw [hdata, getU32_within _ (by omega)] at hcrc
  rw [hdata, drop_append_of_le_length (by omega), take_append_of_le_length (by rw [length_drop]; omega)] at hpayload
  refine ⟨?_, ?_, hbound, ?_, htotal, ?_, ?_, hdigest⟩
  · rw [length_append]
    omega
  · rw [parseJournalHeader_within _ (by omega)]
    exact hparse
  · rw [length_append]
    omega
  · rw [drop_append_of_le_length (by omega), take_append_of_le_length (by rw [length_drop]; omega)]
    exact hpayload
  · rw [getU32_within _ (by omega)]
    exact hcrc

/-- A journal entry as it stands in the file. -/
def journalFrame (header : JournalHeader) (payload : Bytes) : Bytes :=
  header.serialize ++ (payload ++ (u32 (crc32c payload) ++ u32 0))

@[simp] theorem length_journalFrame (header : JournalHeader) (payload : Bytes) :
    (journalFrame header payload).length = payload.length + 80 := by
  simp [journalFrame]
  omega

theorem take_journalFrame {header : JournalHeader} (h : 72 ≤ kept) :
    (journalFrame header payload).take kept =
      header.serialize ++ (payload ++ (u32 (crc32c payload) ++ u32 0)).take (kept - 72) := by
  rw [journalFrame, take_append, header.length_serialize, take_of_length_le (header.length_serialize.trans_le h)]

/-- A header that describes its payload, within the bound on entries. -/
structure JournalHeader.Describes (limits : StoreLimits) (header : JournalHeader) (payload : Bytes) : Prop where
  version : header.formatVersion = kStoreFormatVersion.toUInt16
  length : header.payloadLen.toNat = payload.length
  digest : header.payloadDigest = Digest256.of payload
  bound : payload.length ≤ limits.maxJournalEntryBytes.toNat

section Frames

variable {header : JournalHeader}

/-- An entry is read off the front of whatever starts with it. -/
theorem journalFront_frame (h : header.Describes limits payload) (rest : Bytes) :
    journalFront limits (journalFrame header payload ++ rest) =
      .frame (header, payload) (journalFrame header payload).length := by
  have hdata : journalFrame header payload ++ rest =
      header.serialize ++ (payload ++ (u32 (crc32c payload) ++ (u32 0 ++ rest))) := by
    simp [journalFrame, append_assoc]
  have hlong : kJournalHeaderSize + payload.length + kJournalTrailerSize ≤
      (journalFrame header payload ++ rest).length := by
    rw [length_append, length_journalFrame, kJournalHeaderSize, kJournalTrailerSize]
    omega
  have hpayload : ((journalFrame header payload ++ rest).drop kJournalHeaderSize).take payload.length = payload := by
    rw [hdata, kJournalHeaderSize, drop_left' header.length_serialize, take_left]
  have hcrc : getU32 (journalFrame header payload ++ rest) (kJournalHeaderSize + payload.length) = crc32c payload := by
    rw [hdata, getU32_skip _ (by simp [kJournalHeaderSize]), header.length_serialize, kJournalHeaderSize,
      Nat.add_sub_cancel_left, getU32_skip _ (le_refl _)]
    simp
  have hparse : parseJournalHeader (journalFrame header payload ++ rest) = .ok header := by
    rw [hdata, parseJournalHeader_serialize h.version]
  rw [journalFront, if_neg (by omega), hparse]
  dsimp only
  rw [h.length, hpayload, hcrc, if_neg (by simpa using h.bound), if_neg (by omega), if_neg (not_not_intro rfl),
    if_neg (not_not_intro h.digest.symm), length_journalFrame, kJournalHeaderSize, kJournalTrailerSize]
  congr 1
  omega

/-- A strict beginning of an entry is a torn tail. -/
theorem journalFront_torn (h : header.Describes limits payload)
    (hkept : kept < (journalFrame header payload).length) :
    ∃ counted, journalFront limits ((journalFrame header payload).take kept) = .stop ⟨counted, none⟩ := by
  rw [length_journalFrame] at hkept
  have hlength : ((journalFrame header payload).take kept).length = kept := by
    rw [length_take, length_journalFrame]
    omega
  rw [journalFront, hlength]
  split
  · exact ⟨false, rfl⟩
  · -- the whole header is there, so it is read, and the bytes end before the entry does
    rename_i hheader
    rw [kJournalHeaderSize] at hheader
    rw [take_journalFrame (not_lt.mp hheader), parseJournalHeader_serialize h.version]
    dsimp only
    rw [h.length, if_neg (by simpa using h.bound), if_pos (by rw [kJournalHeaderSize, kJournalTrailerSize]; omega)]
    exact ⟨true, rfl⟩

end Frames

end Ocreg
