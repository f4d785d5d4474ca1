/-
Module: Ocreg.Store.Store
Purpose: The store over its two files: what a call writes as a sequence of file steps, where the process may stop
  on the way, and what opening the store makes of the files it finds.
-/
import Ocreg.Store.Layout

namespace Ocreg

/-! ### Files -/

/-- The files of one base path; an absent file is `none`. -/
structure Disk where
  snapshot : Option Bytes := none
  journal : Option Bytes := none
  temp : Option Bytes := none
deriving DecidableEq

/-- Bytes of the journal file, none when it is absent. -/
def Disk.journalBytes (disk : Disk) : Bytes := disk.journal.getD []

/-- What a call does to the files, one system call at a time. -/
inductive FileStep where
  | openJournal
  | appendJournal (bytes : Bytes)
  | openTemp
  | writeTemp (bytes : Bytes)
  | rename
  | removeSnapshot
  | truncateJournal
deriving DecidableEq

namespace FileStep

def apply (disk : Disk) : FileStep → Disk
  | openJournal => { disk with journal := some disk.journalBytes }
  | appendJournal bytes => { disk with journal := some (disk.journalBytes ++ bytes) }
  | openTemp => { disk with temp := some [] }
  | writeTemp bytes => { disk with temp := some (disk.temp.getD [] ++ bytes) }
  | rename => { disk with snapshot := disk.temp, temp := none }
  | removeSnapshot => { disk with snapshot := none }
  | truncateJournal => { disk with journal := some [] }

/-- The disks in the middle of a step: a write may have reached the file in part, the other steps are atomic. -/
def during (disk : Disk) : FileStep → List Disk
  | appendJournal bytes => bytes.inits.map (fun part => (appendJournal part).apply disk)
  | writeTemp bytes => bytes.inits.map (fun part => (writeTemp part).apply disk)
  | _ => []

end FileStep

/-- The disk after some steps. -/
def Disk.after (disk : Disk) (steps : List FileStep) : Disk := steps.foldl FileStep.apply disk

/-- The disks on which the process may stop while it makes the steps. -/
def Disk.stops : Disk → List FileStep → List Disk
  | disk, [] => [disk]
  | disk, step :: steps => disk :: (step.during disk ++ (step.apply disk).stops steps)

/-- File operations that report failure in a call. When a write or its synchronisation fails, the first so many
    bytes of it are in the file. -/
structure Faults where
  journalOpen : Bool := false
  journalWrite : Option Nat := none
  journalSync : Option Nat := none
  tempOpen : Bool := false
  tempWrite : Option Nat := none
  tempSync : Option Nat := none
  rename : Bool := false
  remove : Bool := false
  renameAgain : Bool := false
  truncate : Bool := false
deriving DecidableEq

/-! ### Writing -/

structure StoreOptions where
  basePath : Bytes := []
  limits : StoreLimits := {}
  syncOnCommit : Bool := true
  compactAfterEntries : UInt64 := 4096
deriving DecidableEq

def journalPath (base : Bytes) : Bytes := base ++ text ".ocregjournal"

def tempPath (base : Bytes) : Bytes := base ++ text ".ocregtmp"

/-- The fields of `Store::Impl`. -/
structure Store where
  options : StoreOptions
  sequence : UInt64 := 0
  entryCount : Nat := 0
  journalSize : Nat := 0
  written : Nat := 0
  generation : StoreGeneration := 0
deriving DecidableEq

/-- `CommitToken`: what a commit reports. -/
structure CommitToken where
  generation : StoreGeneration
  sequence : UInt64
  bytes : Nat
  payloadDigest : Digest256
  synchronised : Bool
deriving DecidableEq

/-- What a call returns, the store it leaves behind and the steps it made. -/
structure Call where
  outcome : Outcome CommitToken
  store : Store
  steps : List FileStep := []
deriving DecidableEq

namespace Store

section

variable (store : Store)

/-- A call that fails after some steps. -/
def fails (reason : ReasonCode) (detail : Bytes) (steps : List FileStep) : Call where
  outcome := .failure reason detail
  store := store
  steps := steps

/-- Failure of a synchronisation, which is only made when the options ask for it. -/
def synced (fault : Option Nat) : Option Nat := if store.options.syncOnCommit then fault else none

/-- Put the temporary file in place of the snapshot. With synchronisation on, a rename that fails is tried again
    after the snapshot was removed, whether or not the removal worked. -/
def publish (faults : Faults) : Bool × List FileStep :=
  if !faults.rename then (true, [.rename])
  else if store.options.syncOnCommit then
    let removed := if faults.remove then [] else [.removeSnapshot]
    if !faults.renameAgain then (true, removed ++ [.rename]) else (false, removed)
  else (false, [])

/-- `write_snapshot`. -/
def writeSnapshot (state : RegistryState) (now : Tick) (faults : Faults) : Call :=
  let file := snapshotFile state now
  if store.options.limits.maxSnapshotBytes.toNat < state.encode.length then
    store.fails .storeOversized (text "encoded state exceeds the snapshot bound") []
  else if faults.tempOpen then store.fails .storeReadFailed (tempPath store.options.basePath) []
  else match faults.tempWrite with
    | some kept =>
      store.fails .storeWriteFailed (text "snapshot payload write failed") [.openTemp, .writeTemp (file.take kept)]
    | none => match store.synced faults.tempSync with
      | some kept =>
        store.fails .storeSyncFailed (text "snapshot synchronisation failed")
          [.openTemp, .writeTemp (file.take kept)]
      | none =>
        let steps := [.openTemp, .writeTemp file] ++ (store.publish faults).2
        if (store.publish faults).1 then
          { outcome := .success
              { generation := state.storeGeneration
                sequence := store.sequence
                bytes := file.length
                payloadDigest := Digest256.of state.encode
                synchronised := store.options.syncOnCommit } .ok
            store := { store with written := store.written + file.length }
            steps := steps }
        else store.fails .storeWriteFailed (text "snapshot rename failed") steps

/-- Header of the next journal entry. -/
def nextHeader (kind : JournalKind) (payload : Bytes) (now : Tick) : JournalHeader where
  kind := kind
  sequence := store.sequence + 1
  createdAt := now
  storeGeneration := store.generation
  payloadLen := UInt32.ofNat payload.length
  payloadDigest := Digest256.of payload

end

/-- `append`: one entry at the end of the journal. -/
def append (store : Store) (kind : JournalKind) (payload : Bytes) (now : Tick) (faults : Faults) : Call :=
  let frame := journalFrame (store.nextHeader kind payload now) payload
  if store.options.limits.maxJournalEntryBytes.toNat < payload.length then
    store.fails .storeOversized (text "journal entry exceeds the entry bound") []
  else if store.options.limits.maxJournalBytes.toNat <
      store.journalSize + payload.length + kJournalHeaderSize + kJournalTrailerSize then
    store.fails .storeRotationPerformed (text "journal byte bound reached") []
  else if store.options.limits.maxJournalEntries.toNat ≤ store.entryCount then
    store.fails .storeRotationPerformed (text "journal entry bound reached") []
  else if faults.journalOpen then store.fails .storeReadFailed (journalPath store.options.basePath) []
  else match faults.journalWrite with
    | some kept =>
      store.fails .storeWriteFailed (text "journal append failed") [.openJournal, .appendJournal (frame.take kept)]
    | none => match store.synced faults.journalSync with
      | some kept =>
        store.fails .storeSyncFailed (text "journal synchronisation failed")
          [.openJournal, .appendJournal (frame.take kept)]
      | none =>
        { outcome := .success
            { generation := store.generation
              sequence := store.sequence + 1
              bytes := frame.length
              payloadDigest := Digest256.of payload
              synchronised := store.options.syncOnCommit } .ok
          store :=
            { store with
              sequence := store.sequence + 1
              entryCount := store.entryCount + 1
              journalSize := store.journalSize + frame.length
              written := store.written + frame.length }
          steps := [.openJournal, .appendJournal frame] }

/-- Truncate the journal after a snapshot was written. -/
def truncateJournal (written : Call) (faults : Faults) (detail : Bytes) : Call :=
  if faults.truncate then { written with outcome := .failure .storeWriteFailed detail }
  else
    { written with
      store := { written.store with entryCount := 0, journalSize := 0 }
      steps := written.steps ++ [.truncateJournal] }

/-- The journal has as many entries as automatic compaction waits for. -/
def rotates (store : Store) : Prop :=
  store.options.compactAfterEntries ≠ 0 ∧ store.options.compactAfterEntries.toNat ≤ store.entryCount

instance (store : Store) : Decidable store.rotates := inferInstanceAs (Decidable (_ ∧ _))

section

variable (store : Store) (state : RegistryState) (now : Tick)

/-- `Store::commit`, with the notes it adds to. -/
def commit (notes : List ReasonCode) (faults : Faults) : Call × List ReasonCode :=
  let store := { store with generation := state.storeGeneration }
  if store.options.limits.maxJournalEntryBytes.toNat < state.encode.length then
    -- the state no longer fits one journal entry, so the durable commit is the snapshot file itself
    let written := store.writeSnapshot state now faults
    if written.outcome.ok then
      let notes := notes ++ [.storeCommitDurable, .storeRotationPerformed]
      let call := truncateJournal written faults (text "journal rotation failed")
      (call, if call.outcome.ok then canonicalReasons notes else notes)
    else (written, notes)
  else
    let appended := store.append .stateSnapshot state.encode now faults
    if appended.outcome.ok then
      let notes := notes ++ [.storeCommitDurable]
      if appended.store.rotates then
        let written := appended.store.writeSnapshot state now faults
        if written.outcome.ok then
          let call := truncateJournal written faults (text "journal rotation failed")
          if call.outcome.ok then
            ({ call with outcome := appended.outcome, steps := appended.steps ++ call.steps },
              canonicalReasons (notes ++ [.storeRotationPerformed]))
          else ({ call with steps := appended.steps ++ call.steps }, notes)
        else ({ written with steps := appended.steps ++ written.steps }, notes)
      else (appended, canonicalReasons notes)
    else (appended, notes)

/-- `compact`: write a snapshot and start the journal anew. -/
def compact (faults : Faults) : Call :=
  let written := store.writeSnapshot state now faults
  if written.outcome.ok then truncateJournal written faults (text "journal truncation failed") else written

end

end Store

/-! ### Opening -/

/-- What the scanner of the journal has found so far; the first three fields are its local variables. -/
structure JournalScan where
  position : Nat := 0
  previousSequence : UInt64 := 0
  previousGeneration : UInt64 := 0
  validBytes : Nat := 0
  entriesSeen : Nat := 0
  entriesValid : Nat := 0
  bytesDiscarded : Nat := 0
  truncatedTail : Bool := false
  corrupt : Bool := false
  reason : ReasonCode := .ok
  lastSnapshotPayload : Bytes := []
  lastSnapshotGeneration : UInt64 := 0
  notes : List ReasonCode := []

namespace JournalScan

section

variable (scan : JournalScan)

/-- An entry that is applied. -/
def accept (header : JournalHeader) (payload : Bytes) (total : Nat) : JournalScan :=
  let newest := header.kind = .stateSnapshot ∧ scan.lastSnapshotGeneration ≤ header.storeGeneration
  { scan with
    position := scan.position + total
    previousSequence := header.sequence
    previousGeneration := header.storeGeneration
    validBytes := scan.position + total
    entriesSeen := scan.entriesSeen + 1
    entriesValid := scan.entriesValid + 1
    lastSnapshotPayload := if newest then payload else scan.lastSnapshotPayload
    lastSnapshotGeneration := if newest then header.storeGeneration else scan.lastSnapshotGeneration }

/-- An entry that is passed over. -/
def skip (note : ReasonCode) (total : Nat) : JournalScan :=
  { scan with
    position := scan.position + total
    entriesSeen := scan.entriesSeen + 1
    notes := scan.notes ++ [note] }

/-- Sequence and generation must advance; a replayed or reordered entry is refused rather than applied. -/
def take (entry : JournalHeader × Bytes) (total : Nat) : JournalScan :=
  if entry.1.sequence ≤ scan.previousSequence ∧ 0 < scan.entriesValid then
    scan.skip .protocolSequenceViolation total
  else if entry.1.storeGeneration < scan.previousGeneration then scan.skip .storeGenerationReplay total
  else scan.accept entry.1 entry.2 total

/-- The bytes left where the scanner goes no further. -/
def halt (stop : JournalStop) (left : Nat) : JournalScan :=
  let scan :=
    { scan with
      entriesSeen := if stop.counted then scan.entriesSeen + 1 else scan.entriesSeen
      bytesDiscarded := scan.bytesDiscarded + left }
  match stop.corrupt with
  | none => { scan with truncatedTail := true }
  | some reason => { scan with corrupt := true, reason := reason }

def entriesDropped : Nat := scan.entriesSeen - scan.entriesValid

end

end JournalScan

/-- `scan_journal`. -/
def scanJournal (data : Bytes) (limits : StoreLimits) : JournalScan :=
  let scan := FrameLog.scan (journalFront limits) JournalScan.take JournalScan.halt data.length data {}
  if !scan.corrupt && !scan.truncatedTail then { scan with reason := .recoveryCleanOpen } else scan

/-- What opening a store reports. -/
structure OpenReport where
  reason : ReasonCode := .storeEmptyNew
  existed : Bool := false
  snapshotPresent : Bool := false
  journalPresent : Bool := false
  snapshotBytes : Nat := 0
  journalBytes : Nat := 0
  bytesDiscarded : Nat := 0
  journalEntriesScanned : Nat := 0
  journalEntriesValid : Nat := 0
  journalEntriesDropped : Nat := 0
  staleTempRemoved : Bool := false
  classification : RecoveryClass := .cleanOpen
  state : RegistryState := {}

/-- `read_whole_file`, for a file that can be read. -/
def readWholeFile (data : Bytes) (maxBytes : UInt64) : Except Refusal Bytes :=
  if maxBytes.toNat < data.length then .error ⟨.storeOversized, text "file exceeds the configured bound"⟩
  else .ok data

/-- The bound on the journal file. The sum is taken in 64 bits. -/
def StoreLimits.journalReadBound (limits : StoreLimits) : UInt64 :=
  limits.maxJournalBytes + UInt64.ofNat kJournalHeaderSize

/-- State of the snapshot file, none when there is no such file. -/
def openSnapshot (limits : StoreLimits) : Option Bytes → Except Refusal (Option RegistryState)
  | none => .ok none
  | some data => do
    let data ← readWholeFile data limits.maxSnapshotBytes
    let state ← readSnapshot data
    return some state

/-- The state to go on with after the journal was scanned, with the numbers of entries that count as valid and as
    dropped: the last state of the journal, unless the snapshot is of a later generation. -/
def adoptJournal (snapshot : Option RegistryState) (scan : JournalScan) :
    Except Refusal (Option RegistryState × Nat × Nat) :=
  if scan.lastSnapshotPayload = [] then .ok (snapshot, scan.entriesValid, scan.entriesDropped)
  else do
    let decoded ← decodeState scan.lastSnapshotPayload (text "journal snapshot payload rejected")
      (text "journal payload has trailing bytes")
    match snapshot with
    | none => return (some decoded, scan.entriesValid, scan.entriesDropped)
    | some state =>
      if state.storeGeneration ≤ scan.lastSnapshotGeneration then
        return (some decoded, scan.entriesValid, scan.entriesDropped)
      else return (some state, 0, scan.entriesDropped + scan.entriesValid)

/-- How the scan of a journal is classified. -/
def JournalScan.classify (scan : JournalScan) : RecoveryClass × ReasonCode :=
  if scan.corrupt then
    (if scan.truncatedTail then .tornTailTruncated else .trailingCorruptDropped, scan.reason)
  else if scan.truncatedTail then (.tornTailTruncated, .storeTornTail)
  else if 0 < scan.entriesValid then (.journalReplayed, .recoveryJournalReplayed)
  else (.cleanOpen, .recoveryCleanOpen)

/-- The journal file after it was opened: a refused tail is cut off. -/
def JournalScan.keep (scan : JournalScan) (data : Bytes) : Bytes :=
  if 0 < scan.bytesDiscarded then data.take scan.validBytes else data

/-- The part of opening that concerns the journal: the report so far is completed and a state is chosen. -/
def openJournal (limits : StoreLimits) (report : OpenReport) (snapshot : Option RegistryState) :
    Option Bytes → Except Refusal (OpenReport × Option RegistryState × Option Bytes)
  | none =>
    .ok ({ report with reason := if report.snapshotPresent then .recoveryCleanOpen else .storeEmptyNew }, snapshot,
        none)
  | some data => do
    let data ← readWholeFile data limits.journalReadBound
    let scan := scanJournal data limits
    let (state, valid, dropped) ← adoptJournal snapshot scan
    return (
      { report with
        reason := scan.classify.2
        journalBytes := (scan.keep data).length
        bytesDiscarded := scan.bytesDiscarded
        journalEntriesScanned := scan.entriesSeen
        journalEntriesValid := valid
        journalEntriesDropped := dropped
        classification := scan.classify.1 }, state, some (scan.keep data))

/-- The last step of opening: a store that exists must hold a state. -/
def concludeOpen (report : OpenReport) : Option RegistryState → Outcome OpenReport
  | some state => .success { report with state := state } .ok
  | none =>
    if report.existed then
      .failure (if report.reason = .storeEmptyNew ∨ report.reason = .ok then .recoveryRefused else report.reason)
        (text "store exists but holds no recoverable state")
    else .success report .ok

/-- `Store::open`, with the files it leaves. A temporary file is removed, a refused tail of the journal cut off. -/
def openStore (options : StoreOptions) (disk : Disk) : Outcome OpenReport × Disk :=
  if options.basePath = [] then (.failure .storeNotFound (text "store base path is empty"), disk)
  else
    let clean := { disk with temp := none }
    let report : OpenReport :=
      { existed := disk.snapshot.isSome || disk.journal.isSome
        snapshotPresent := disk.snapshot.isSome
        journalPresent := disk.journal.isSome
        snapshotBytes := (disk.snapshot.getD []).length
        staleTempRemoved := disk.temp.isSome }
    match openSnapshot options.limits disk.snapshot with
    | .error refusal => (.failure refusal.reason refusal.detail, clean)
    | .ok snapshot =>
      match openJournal options.limits report snapshot disk.journal with
      | .error refusal => (.failure refusal.reason refusal.detail, clean)
      | .ok (report, state, journal) => (concludeOpen report state, { clean with journal := journal })

/-- `Store::bind`: counters start at zero, only the size of the journal is taken from the file. -/
def Store.bind (options : StoreOptions) (disk : Disk) : Outcome Store :=
  if options.basePath = [] then .failure .storeNotFound (text "store base path is empty")
  else .success { options := options, journalSize := disk.journalBytes.length } .ok

end Ocreg
