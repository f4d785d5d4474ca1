/-
Module: Ocreg.Proofs.Recovery
Purpose: What opening a store recovers from files that hold a snapshot and a journal of commits, the last of them
  perhaps torn.
-/
import Ocreg.Store.Store

namespace Ocreg

open List JournalScan FrameLog

variable {scan : JournalScan} {data : Bytes} {limits : StoreLimits} {tail : Bytes}

/-! ### Entries of committed states -/

/-- A commit as it stands in the journal. -/
structure Entry where
  sequence : UInt64
  createdAt : Tick
  state : RegistryState

variable {stale entries : List Entry}

namespace Entry

def header (entry : Entry) : JournalHeader where
  sequence := entry.sequence
  createdAt := entry.createdAt
  storeGeneration := entry.state.storeGeneration
  payloadLen := UInt32.ofNat entry.state.encode.length
  payloadDigest := Digest256.of entry.state.encode

def frame (entry : Entry) : Bytes := journalFrame entry.header entry.state.encode

/-- The entry of a state that is decoded again, within the bounds its header and the scanner put on it. -/
structure Readable (limits : StoreLimits) (entry : Entry) : Prop where
  decodable : entry.state.Decodable
  word : entry.state.encode.length < 2 ^ 32
  bound : entry.state.encode.length ≤ limits.maxJournalEntryBytes.toNat

/-- The scanner applies the second entry after the first. -/
def Before (a b : Entry) : Prop := a.sequence < b.sequence ∧ a.state.storeGeneration ≤ b.state.storeGeneration

variable {entry : Entry}

theorem Readable.describes (h : entry.Readable limits) : entry.header.Describes limits entry.state.encode where
  version := rfl
  length := UInt32.toNat_ofNat_of_lt h.word
  digest := rfl
  bound := h.bound

theorem length_frame (entry : Entry) : entry.frame.length = entry.state.encode.length + 80 := length_journalFrame _ _

theorem Readable.framed (h : entry.Readable limits) :
    FrameLog.Framed (journalFront limits) frame (fun entry => (entry.header, entry.state.encode)) entry := by
  constructor
  · apply ne_nil_of_length_pos
    rw [length_frame]
    omega
  · exact fun rest => journalFront_frame h.describes rest

end Entry

theorem RegistryState.encode_ne_nil (state : RegistryState) : state.encode ≠ [] :=
  append_ne_nil_of_left_ne_nil (by decide) _

/-! ### Scanning a journal of entries -/

/-- The scanner's round for one entry. -/
def scanEntry (scan : JournalScan) (entry : Entry) : JournalScan :=
  scan.take (entry.header, entry.state.encode) entry.frame.length

theorem JournalScan.take_accept (scan : JournalScan) {entry : JournalHeader × Bytes} {total : Nat}
    (hsequence : ¬ (entry.1.sequence ≤ scan.previousSequence ∧ 0 < scan.entriesValid))
    (hgeneration : ¬ entry.1.storeGeneration < scan.previousGeneration) :
    scan.take entry total = scan.accept entry.1 entry.2 total := by
  rw [take, if_neg hsequence, if_neg hgeneration]

theorem JournalScan.halt_flagged (scan : JournalScan) (stop : JournalStop) (left : Nat) :
    ¬ (!(scan.halt stop left).corrupt && !(scan.halt stop left).truncatedTail) = true := by
  rw [halt]
  cases stop.corrupt <;> simp

/-- Bytes after the last whole entry: none, or the beginning of one. -/
def Torn (limits : StoreLimits) (tail : Bytes) : Prop :=
  tail = [] ∨ ∃ counted, journalFront limits tail = .stop ⟨counted, none⟩

/-- What the scanner knows after entries that follow on one another: the last of them. -/
structure Scanned (entries : List Entry) (scan : JournalScan) : Prop where
  entriesValid : scan.entriesValid = entries.length
  previousSequence : scan.previousSequence = (entries.getLast?.map Entry.sequence).getD 0
  previousGeneration : scan.previousGeneration = (entries.getLast?.map (·.state.storeGeneration)).getD 0
  payload : scan.lastSnapshotPayload = (entries.getLast?.map (·.state.encode)).getD []
  generation : scan.lastSnapshotGeneration = (entries.getLast?.map (·.state.storeGeneration)).getD 0
  bytesDiscarded : scan.bytesDiscarded = 0
  truncatedTail : scan.truncatedTail = false
  corrupt : scan.corrupt = false

theorem scanned_foldl (h : entries.IsChain Entry.Before) : Scanned entries (entries.foldl scanEntry {}) := by
  induction entries using List.reverseRecOn with
  | nil => exact ⟨rfl, rfl, rfl, rfl, rfl, rfl, rfl, rfl⟩
  | append_singleton entries entry ih =>
    obtain ⟨hchain, -, hlast⟩ := isChain_append.mp h
    have hscan := ih hchain
    set scan := entries.foldl scanEntry {} with hdef
    have hsequence : ¬ (entry.sequence ≤ scan.previousSequence ∧ 0 < scan.entriesValid) := by
      rintro ⟨hle, hvalid⟩
      rw [hscan.entriesValid] at hvalid
      obtain ⟨last, hmem⟩ :=
        Option.isSome_iff_exists.mp (List.getLast?_isSome.mpr (ne_nil_of_length_pos hvalid))
      rw [hscan.previousSequence, hmem] at hle
      exact absurd (hlast last hmem entry rfl).1 (not_lt.mpr hle)
    have hgeneration : scan.previousGeneration ≤ entry.state.storeGeneration := by
      rw [hscan.previousGeneration]
      cases hmem : entries.getLast? with
      | none => exact UInt64.le_iff_toNat_le.mpr (Nat.zero_le _)
      | some last => exact (hlast last hmem entry rfl).2
    have hnewest : scan.lastSnapshotGeneration ≤ entry.state.storeGeneration := by
      rw [hscan.generation, ← hscan.previousGeneration]
      exact hgeneration
    have hstep : (entries ++ [entry]).foldl scanEntry {} =
        scan.accept entry.header entry.state.encode entry.frame.length := by
      rw [foldl_append, ← hdef]
      exact scan.take_accept hsequence (not_lt.mpr hgeneration)
    rw [hstep]
    constructor
    · simp [accept, hscan.entriesValid]
    · simp [accept, Entry.header]
    · simp [accept, Entry.header]
    · simp [accept, Entry.header, hnewest]
    · simp [accept, Entry.header, hnewest]
    · exact hscan.bytesDiscarded
    · exact hscan.truncatedTail
    · exact hscan.corrupt

theorem foldl_stale (h : 0 < scan.entriesValid) (hstale : ∀ entry ∈ stale, entry.sequence ≤ scan.previousSequence) :
    ∃ position seen notes, stale.foldl scanEntry scan =
      { scan with position := position, entriesSeen := seen, notes := notes } := by
  induction stale generalizing scan with
  | nil => exact ⟨_, _, _, rfl⟩
  | cons entry stale ih =>
    have hskip : scanEntry scan entry = scan.skip .protocolSequenceViolation entry.frame.length :=
      if_pos ⟨hstale entry mem_cons_self, h⟩
    rw [foldl_cons, hskip]
    exact ih h fun other hother => hstale other (mem_cons_of_mem entry hother)

section Journals

section

variable (hreadable : ∀ entry ∈ entries, entry.Readable limits)

include hreadable

/-- The loop over a journal goes through its entries and ends with whatever follows them. -/
theorem scan_frames {rest : Option (JournalStop × Nat)} (hrest : FrameLog.read (journalFront limits) tail = ([], rest)) :
    FrameLog.scan (journalFront limits) JournalScan.take JournalScan.halt
        (entries.flatMap Entry.frame ++ tail).length (entries.flatMap Entry.frame ++ tail) {} =
      rest.elim (entries.foldl scanEntry {}) (fun stop => (entries.foldl scanEntry {}).halt stop.1 stop.2) := by
  have hread := FrameLog.read_flatMap (journalFront_positive limits)
    (fun entry hentry => (hreadable entry hentry).framed) tail
  rw [hrest, append_nil, FrameLog.read] at hread
  rw [FrameLog.scan_eq_foldl, hread]
  dsimp only
  rw [foldl_map]
  rfl

/-- A journal of whole entries. -/
theorem scanJournal_entries (hchain : entries.IsChain Entry.Before) :
    Scanned entries (scanJournal (entries.flatMap Entry.frame) limits) := by
  have hscan := scan_frames hreadable read_nil
  rw [append_nil] at hscan
  have hfold := scanned_foldl hchain
  rw [scanJournal, hscan]
  change Scanned entries (if !(entries.foldl scanEntry {}).corrupt && !(entries.foldl scanEntry {}).truncatedTail then
    { entries.foldl scanEntry {} with reason := .recoveryCleanOpen } else entries.foldl scanEntry {})
  split
  · exact { hfold with }
  · exact hfold

/-- Entries that do not go on from the last one are passed over, and so are their states. -/
theorem scanJournal_stale {last : Entry} (hstaleReadable : ∀ entry ∈ stale, entry.Readable limits)
    (hchain : entries.IsChain Entry.Before) (hlast : last ∈ entries.getLast?)
    (hstale : ∀ entry ∈ stale, entry.sequence ≤ last.sequence) :
    let scan := scanJournal ((entries ++ stale).flatMap Entry.frame) limits
    scan.lastSnapshotPayload = (entries.getLast?.map (·.state.encode)).getD [] ∧
      scan.lastSnapshotGeneration = (entries.getLast?.map (·.state.storeGeneration)).getD 0 ∧
        scan.bytesDiscarded = 0 := by
  have hscan := scan_frames (forall_mem_append.mpr ⟨hreadable, hstaleReadable⟩) read_nil
  have hfold := scanned_foldl hchain
  have hvalid : 0 < (entries.foldl scanEntry {}).entriesValid :=
    hfold.entriesValid ▸ length_pos_of_mem (mem_of_getLast? hlast)
  have hbelow : ∀ entry ∈ stale, entry.sequence ≤ (entries.foldl scanEntry {}).previousSequence := by
    rwa [hfold.previousSequence, Option.mem_def.mp hlast]
  obtain ⟨_, _, _, hskip⟩ := foldl_stale hvalid hbelow
  rw [append_nil, foldl_append, hskip] at hscan
  rw [scanJournal, hscan]
  dsimp only
  split <;> exact ⟨hfold.payload, hfold.generation, hfold.bytesDiscarded⟩

/-- A journal whose last bytes are no entry. -/
theorem scanJournal_stop {stop : JournalStop} (hne : tail ≠ []) (hstop : journalFront limits tail = .stop stop) :
    scanJournal (entries.flatMap Entry.frame ++ tail) limits = (entries.foldl scanEntry {}).halt stop tail.length := by
  have hscan := scan_frames hreadable (read_stop hne hstop)
  rw [scanJournal, hscan]
  exact if_neg (halt_flagged _ stop tail.length)

/-- The state the journal ends with is the one of its last whole entry. -/
theorem scanJournal_last (hchain : entries.IsChain Entry.Before) (htail : Torn limits tail) :
    let scan := scanJournal (entries.flatMap Entry.frame ++ tail) limits
    scan.lastSnapshotPayload = (entries.getLast?.map (·.state.encode)).getD [] ∧
      scan.lastSnapshotGeneration = (entries.getLast?.map (·.state.storeGeneration)).getD 0 := by
  by_cases hne : tail = []
  · subst hne
    rw [append_nil]
    have hscanned := scanJournal_entries hreadable hchain
    exact ⟨hscanned.payload, hscanned.generation⟩
  · obtain ⟨counted, hstop⟩ := htail.resolve_left hne
    rw [scanJournal_stop hreadable hne hstop]
    have hscanned := scanned_foldl hchain
    exact ⟨hscanned.payload, hscanned.generation⟩

end

end Journals

/-! ### Opening -/

/-- The state an opened store goes on with, none when it is refused or new. -/
def recovered : Outcome OpenReport → Option RegistryState
  | .success report _ => if report.existed then some report.state else none
  | .failure _ _ => none

theorem openSnapshot_file {state : RegistryState} (hstate : state.Decodable)
    (hfits : state.encode.length + 144 ≤ limits.maxSnapshotBytes.toNat) (now : Tick) :
    openSnapshot limits (some (snapshotFile state now)) = .ok (some state) := by
  have hbound := limits.maxSnapshotBytes.toNat_lt
  have hwhole : readWholeFile (snapshotFile state now) limits.maxSnapshotBytes = .ok (snapshotFile state now) := by
    rw [readWholeFile, if_neg (by rw [length_snapshotFile]; omega)]
  have hread := readSnapshot_file hstate (by omega) now
  rw [openSnapshot, hwhole, ok_bind, hread, ok_bind]
  rfl

/-- What the files of a store hold: a snapshot with its tick, the entries of the journal, and the bytes after them. -/
structure Image where
  snapshot : Option (RegistryState × Tick) := none
  entries : List Entry := []
  tail : Bytes := []

namespace Image

/-- The last entry of the journal, unless the snapshot is of a later generation. -/
def value (image : Image) : Option RegistryState :=
  match image.entries.getLast?, image.snapshot with
  | none, snapshot => snapshot.map Prod.fst
  | some entry, none => some entry.state
  | some entry, some (state, _) =>
    if state.storeGeneration ≤ entry.state.storeGeneration then some entry.state else some state

/-- The files hold what the image says, every part of it is readable, and the entries follow on one another. -/
structure Shown (limits : StoreLimits) (image : Image) (disk : Disk) : Prop where
  snapshot : disk.snapshot = image.snapshot.map (fun snapshot => snapshotFile snapshot.1 snapshot.2)
  decodable : ∀ snapshot ∈ image.snapshot, snapshot.1.Decodable
  fits : ∀ snapshot ∈ image.snapshot, snapshot.1.encode.length + 144 ≤ limits.maxSnapshotBytes.toNat
  journal : disk.journalBytes = image.entries.flatMap Entry.frame ++ image.tail
  readable : ∀ entry ∈ image.entries, entry.Readable limits
  ascending : image.entries.IsChain Entry.Before
  torn : Torn limits image.tail
  bound : disk.journalBytes.length ≤ limits.journalReadBound.toNat

variable {options : StoreOptions} {image : Image} {disk : Disk}

theorem openSnapshot_shown (h : image.Shown limits disk) :
    openSnapshot limits disk.snapshot = .ok (image.snapshot.map Prod.fst) := by
  rw [h.snapshot]
  cases hsnapshot : image.snapshot with
  | none => rfl
  | some snapshot => exact openSnapshot_file (h.decodable _ hsnapshot) (h.fits _ hsnapshot) snapshot.2

theorem adoptJournal_shown (hreadable : ∀ entry ∈ image.entries, entry.Readable limits)
    (hpayload : scan.lastSnapshotPayload = (image.entries.getLast?.map (·.state.encode)).getD [])
    (hgeneration : scan.lastSnapshotGeneration = (image.entries.getLast?.map (·.state.storeGeneration)).getD 0) :
    ∃ counts, adoptJournal (image.snapshot.map Prod.fst) scan = .ok (image.value, counts) := by
  cases hlast : image.entries.getLast? with
  | none =>
    rw [hlast] at hpayload
    have hpayload' : scan.lastSnapshotPayload = [] := hpayload
    rw [adoptJournal, if_pos hpayload', value, hlast]
    exact ⟨_, rfl⟩
  | some entry =>
    rw [hlast] at hpayload hgeneration
    have hdecoded := decodeState_encode (hreadable entry (mem_of_getLast? hlast)).decodable
      (text "journal snapshot payload rejected") (text "journal payload has trailing bytes")
    have hpayload' : scan.lastSnapshotPayload = entry.state.encode := hpayload
    have hgeneration' : scan.lastSnapshotGeneration = entry.state.storeGeneration := hgeneration
    rw [adoptJournal, hpayload', if_neg entry.state.encode_ne_nil, hdecoded, value, hlast]
    cases image.snapshot with
    | none => exact ⟨_, rfl⟩
    | some snapshot =>
      change ∃ counts, (if _ ≤ scan.lastSnapshotGeneration then _ else _) = _
      rw [hgeneration']
      dsimp only
      split
      · exact ⟨_, rfl⟩
      · exact ⟨_, rfl⟩

theorem recovered_concludeOpen {report : OpenReport} {state : Option RegistryState}
    (h : state.isSome → report.existed = true) : recovered (concludeOpen report state) = state := by
  cases state with
  | none =>
    rw [concludeOpen]
    split
    · rfl
    · rename_i hexisted
      rw [recovered, if_neg hexisted]
  | some state => rw [concludeOpen, recovered, if_pos (h rfl)]

theorem entries_eq_nil (h : entries.flatMap Entry.frame ++ tail = []) : entries = [] := by
  cases entries with
  | nil => rfl
  | cons entry rest =>
    have hframe := (append_eq_nil_iff.mp (append_eq_nil_iff.mp h).1).1
    have hlength := entry.length_frame
    rw [hframe] at hlength
    cases hlength

section

variable (hbase : options.basePath ≠ [])
include hbase

/-- Opening a store with a journal, from the state that is chosen after its scan. -/
theorem openStore_journal {snapshot state : Option RegistryState} {counts : Nat × Nat}
    (hsnapshot : openSnapshot options.limits disk.snapshot = .ok snapshot) (hjournal : disk.journal = some data)
    (hbound : data.length ≤ options.limits.journalReadBound.toNat)
    (hadopt : adoptJournal snapshot (scanJournal data options.limits) = .ok (state, counts)) :
    let scan := scanJournal data options.limits
    ∃ report, openStore options disk =
        (concludeOpen report state, { snapshot := disk.snapshot, journal := some (scan.keep data) }) ∧
      report.existed = true ∧ report.bytesDiscarded = scan.bytesDiscarded := by
  rw [openStore, if_neg hbase, hsnapshot, hjournal]
  dsimp only
  rw [openJournal, readWholeFile, if_neg (not_lt.mpr hbound), ok_bind]
  dsimp only
  rw [hadopt, ok_bind]
  exact ⟨_, rfl, Bool.or_true _, rfl⟩

/-- What is recovered from a store with a journal, from what the scan of the journal ends with. -/
theorem recovered_of_scan (hsnapshot : openSnapshot options.limits disk.snapshot = .ok (image.snapshot.map Prod.fst))
    (hjournal : disk.journal = some data) (hbound : data.length ≤ options.limits.journalReadBound.toNat)
    (hreadable : ∀ entry ∈ image.entries, entry.Readable options.limits)
    (hpayload : (scanJournal data options.limits).lastSnapshotPayload =
      (image.entries.getLast?.map (·.state.encode)).getD [])
    (hgeneration : (scanJournal data options.limits).lastSnapshotGeneration =
      (image.entries.getLast?.map (·.state.storeGeneration)).getD 0) :
    recovered (openStore options disk).1 = image.value := by
  obtain ⟨counts, hadopt⟩ := adoptJournal_shown hreadable hpayload hgeneration
  obtain ⟨report, hopen, hexisted, -⟩ := openStore_journal hbase hsnapshot hjournal hbound hadopt
  rw [hopen]
  exact recovered_concludeOpen fun _ => hexisted

section

variable (h : image.Shown options.limits disk)
include h

/-- Opening the files of an image. A state on disk means that there is a file. -/
theorem Shown.openStore_eq : ∃ report journal, openStore options disk =
        (concludeOpen report image.value, { snapshot := disk.snapshot, journal := journal }) ∧
      (image.value.isSome → report.existed = true) ∧ (image.tail = [] → journal = disk.journal) := by
  have hsnapshot := openSnapshot_shown h
  have hbytes := h.journal
  have hbound := h.bound
  cases hjournal : disk.journal with
  | none =>
    rw [Disk.journalBytes, hjournal] at hbytes
    rw [openStore, if_neg hbase, hsnapshot, hjournal, value, entries_eq_nil hbytes.symm]
    refine ⟨_, none, rfl, ?_, fun _ => rfl⟩
    dsimp only
    rw [h.snapshot]
    cases image.snapshot with
    | none => exact id
    | some snapshot => exact fun _ => rfl
  | some data =>
    rw [Disk.journalBytes, hjournal, Option.getD_some] at hbytes hbound
    obtain ⟨hpayload, hgeneration⟩ := scanJournal_last h.readable h.ascending h.torn
    rw [← hbytes] at hpayload hgeneration
    obtain ⟨counts, hadopt⟩ := adoptJournal_shown h.readable hpayload hgeneration
    obtain ⟨report, hopen, hexisted, -⟩ := openStore_journal hbase hsnapshot hjournal hbound hadopt
    refine ⟨report, _, hopen, fun _ => hexisted, ?_⟩
    intro htail
    rw [htail, append_nil] at hbytes
    rw [keep, hbytes, (scanJournal_entries h.readable h.ascending).bytesDiscarded]
    rfl

/-- Opening the files recovers what they show. -/
theorem Shown.recovered_eq : recovered (openStore options disk).1 = image.value := by
  obtain ⟨report, journal, hopen, hexisted, -⟩ := h.openStore_eq hbase
  rw [hopen]
  exact recovered_concludeOpen hexisted

/-- Opening a store without a torn tail only removes the temporary file. -/
theorem Shown.openStore_disk (htail : image.tail = []) : (openStore options disk).2 = { disk with temp := none } := by
  obtain ⟨report, journal, hopen, -, hjournal⟩ := h.openStore_eq hbase
  rw [hopen, hjournal htail]

end

/-- Without a snapshot a store whose journal starts with a corrupt entry is refused. -/
theorem openStore_corrupt {counted : Bool} {reason : ReasonCode} (hsnapshot : disk.snapshot = none)
    (hjournal : disk.journal = some data) (hne : data ≠ [])
    (hbound : data.length ≤ options.limits.journalReadBound.toNat)
    (hstop : journalFront options.limits data = .stop ⟨counted, some reason⟩)
    (hreason : ¬ (reason = .storeEmptyNew ∨ reason = .ok)) :
    (openStore options disk).1 = .failure reason (text "store exists but holds no recoverable state") := by
  have hscan : scanJournal data options.limits = JournalScan.halt {} ⟨counted, some reason⟩ data.length :=
    scanJournal_stop (fun entry hentry => absurd hentry not_mem_nil) hne hstop
  rw [openStore, if_neg hbase, hsnapshot, hjournal, openSnapshot]
  dsimp only
  rw [openJournal, readWholeFile, if_neg (not_lt.mpr hbound), ok_bind, hscan]
  exact congrArg (Outcome.failure · _) (if_neg hreason)

/-- Without a snapshot a store with an empty journal is refused. -/
theorem openStore_empty (hsnapshot : disk.snapshot = none) (hjournal : disk.journal = some []) :
    (openStore options disk).1 = .failure .recoveryCleanOpen (text "store exists but holds no recoverable state") := by
  rw [openStore, if_neg hbase, hsnapshot, hjournal, openSnapshot]
  dsimp only
  rw [openJournal, readWholeFile, if_neg (show ¬ _ < length [] from Nat.not_lt_zero _), ok_bind]
  rfl

end

end Image

end Ocreg
