/-
Module: Ocreg.Proofs.JournalScans
Purpose: The scan of an arbitrary journal and the repair that follows it: the entries that are applied, what the
  repair takes off the file, and what a second opening of the repaired files finds.
-/
import Ocreg.Proofs.Durability
import Ocreg.Proofs.RefusedOpen

namespace Ocreg

open List JournalScan FrameLog Lab

variable {state : RegistryState}

/-! ### The entries that are applied -/

namespace JournalScan

/-- The checks on sequence and generation let the entry through. -/
def Follows (scan : JournalScan) (entry : JournalHeader × Bytes) : Prop :=
  ¬ (entry.1.sequence ≤ scan.previousSequence ∧ 0 < scan.entriesValid) ∧
    ¬ entry.1.storeGeneration < scan.previousGeneration

instance (scan : JournalScan) (entry : JournalHeader × Bytes) : Decidable (scan.Follows entry) :=
  inferInstanceAs (Decidable (_ ∧ _))

variable {scan : JournalScan} {entry : JournalHeader × Bytes} {total : Nat}

theorem take_of_follows (h : scan.Follows entry) : scan.take entry total = scan.accept entry.1 entry.2 total :=
  scan.take_accept h.1 h.2

theorem take_of_not_follows (h : ¬ scan.Follows entry) : ∃ note, scan.take entry total = scan.skip note total := by
  rw [take]
  split
  · exact ⟨_, rfl⟩
  · rename_i hsequence
    split
    · exact ⟨_, rfl⟩
    · rename_i hgeneration
      exact absurd ⟨hsequence, hgeneration⟩ h

/-- A state that is not older than the last one replaces it. -/
theorem accept_payload {header : JournalHeader} {payload : Bytes} (hkind : header.kind = .stateSnapshot)
    (hnewest : scan.lastSnapshotGeneration ≤ header.storeGeneration) :
    (scan.accept header payload total).lastSnapshotPayload = payload := if_pos ⟨hkind, hnewest⟩

/-- The entries among those read that the scanner applies. -/
def accepted (scan : JournalScan) : List ((JournalHeader × Bytes) × Nat) → List (JournalHeader × Bytes)
  | [] => []
  | frame :: frames => (if scan.Follows frame.1 then [frame.1] else []) ++ (scan.take frame.1 frame.2).accepted frames

end JournalScan

/-- The entries of a journal that are applied, in the order of the file. -/
def acceptedEntries (limits : StoreLimits) (data : Bytes) : List (JournalHeader × Bytes) :=
  JournalScan.accepted {} (read (journalFront limits) data).1

/-- An entry that may follow another one: a later sequence, and no earlier generation. -/
def JournalHeader.Precedes (a b : JournalHeader) : Prop :=
  a.sequence < b.sequence ∧ a.storeGeneration ≤ b.storeGeneration

variable {frames : List ((JournalHeader × Bytes) × Nat)} {scan : JournalScan}

/-- Whatever is applied goes on from where the scanner is. -/
theorem follows_of_mem_accepted {entry : JournalHeader × Bytes} (h : entry ∈ scan.accepted frames) :
    scan.Follows entry := by
  induction frames generalizing scan with
  | nil => cases h
  | cons frame frames ih =>
    rcases mem_append.mp h with hfirst | hrest
    · split at hfirst
      · rename_i hfollows
        rw [mem_singleton.mp hfirst]
        exact hfollows
      · cases hfirst
    · have hlater := ih hrest
      by_cases hfollows : scan.Follows frame.1
      · rw [take_of_follows hfollows] at hlater
        obtain ⟨hsequence, hgeneration⟩ := hlater
        have hnext : frame.1.1.sequence < entry.1.sequence :=
          not_le.mp (fun hle => hsequence ⟨hle, Nat.succ_pos _⟩)
        constructor
        · rintro ⟨hle, hvalid⟩
          exact hfollows.1 ⟨le_trans hnext.le hle, hvalid⟩
        · exact fun hlt => hfollows.2 (lt_of_le_of_lt (not_lt.mp hgeneration) hlt)
      · obtain ⟨note, hskip⟩ : ∃ note, scan.take frame.1 frame.2 = scan.skip note frame.2 :=
          take_of_not_follows hfollows
        rw [hskip] at hlater
        exact hlater

section

variable (frames) (scan)

/-- The applied entries have increasing sequences and generations that never fall. -/
theorem accepted_ordered : (scan.accepted frames).Pairwise (fun a b => a.1.Precedes b.1) := by
  induction frames generalizing scan with
  | nil => exact Pairwise.nil
  | cons frame frames ih =>
    rw [JournalScan.accepted]
    split
    · rename_i hfollows
      refine Pairwise.cons ?_ (ih _)
      intro entry hentry
      obtain ⟨hsequence, hgeneration⟩ := follows_of_mem_accepted hentry
      rw [take_of_follows hfollows] at hsequence hgeneration
      exact ⟨not_le.mp (fun hle => hsequence ⟨hle, Nat.succ_pos _⟩), not_lt.mp hgeneration⟩
    · exact ih _

/-- The scanner counts the entries it applies. -/
theorem entriesValid_scanRead :
    (scanRead frames scan).entriesValid = scan.entriesValid + (scan.accepted frames).length := by
  induction frames generalizing scan with
  | nil => rfl
  | cons frame frames ih =>
    have hrest := ih (scan.take frame.1 frame.2)
    rw [scanRead, foldl_cons]
    rw [scanRead] at hrest
    rw [hrest, JournalScan.accepted, length_append]
    by_cases hfollows : scan.Follows frame.1
    · rw [if_pos hfollows, length_singleton, ← Nat.add_assoc]
      congr 1
      rw [take_of_follows hfollows]
      rfl
    · obtain ⟨note, hskip⟩ : ∃ note, scan.take frame.1 frame.2 = scan.skip note frame.2 :=
        take_of_not_follows hfollows
      rw [if_neg hfollows, length_nil, Nat.zero_add]
      congr 1
      rw [hskip]
      rfl

end

/-! ### What the repair keeps -/

section

variable (frames)

theorem scanRead_concat (frame : (JournalHeader × Bytes) × Nat) :
    scanRead (frames ++ [frame]) {} = (scanRead frames {}).take frame.1 frame.2 := by
  rw [scanRead, foldl_append]
  rfl

theorem scanRead_position : (scanRead frames {}).position = (frames.map Prod.snd).sum := by
  induction frames using List.reverseRecOn with
  | nil => rfl
  | append_singleton frames frame ih =>
    obtain ⟨-, hvalid⟩ := scanRead_places frames {} (Nat.le_refl 0)
    have hbefore : (scanRead frames {}).validBytes ≤ (scanRead frames {}).position := by
      rw [ih]
      exact le_of_le_of_eq hvalid (Nat.zero_add _)
    rw [scanRead_concat, ((scanRead frames {}).take_places frame.1 frame.2 hbefore).2.1, ih, map_append,
      sum_append]
    rfl

/-- The part of the entries up to the last one that is applied. It takes the bytes that are kept, and the state of
    the journal is found in it. -/
structure Kept (frames kept : List ((JournalHeader × Bytes) × Nat)) : Prop where
  before : kept <+: frames
  bytes : (scanRead frames {}).validBytes = (kept.map Prod.snd).sum
  payload : (scanRead frames {}).lastSnapshotPayload = (scanRead kept {}).lastSnapshotPayload
  generation : (scanRead frames {}).lastSnapshotGeneration = (scanRead kept {}).lastSnapshotGeneration

theorem exists_kept : ∃ kept, Kept frames kept := by
  induction frames using List.reverseRecOn with
  | nil => exact ⟨[], prefix_rfl, rfl, rfl, rfl⟩
  | append_singleton frames frame ih =>
    by_cases hfollows : (scanRead frames {}).Follows frame.1
    · refine ⟨frames ++ [frame], prefix_rfl, ?_, rfl, rfl⟩
      rw [← scanRead_position, scanRead_concat, take_of_follows hfollows]
      rfl
    · obtain ⟨note, hskip⟩ : ∃ note, (scanRead frames {}).take frame.1 frame.2 =
          (scanRead frames {}).skip note frame.2 := take_of_not_follows hfollows
      obtain ⟨kept, hkept⟩ := ih
      refine ⟨kept, hkept.before.trans (prefix_append _ _), ?_, ?_, ?_⟩
      · rw [scanRead_concat, hskip]
        exact hkept.bytes
      · rw [scanRead_concat, hskip]
        exact hkept.payload
      · rw [scanRead_concat, hskip]
        exact hkept.generation

end

/-- The last of the entries is applied, if there is one. -/
def EndsAccepted (frames : List ((JournalHeader × Bytes) × Nat)) : Prop :=
  ∀ frame ∈ frames.getLast?, (scanRead frames.dropLast {}).Follows frame.1

instance (frames : List ((JournalHeader × Bytes) × Nat)) : Decidable (EndsAccepted frames) :=
  inferInstanceAs (Decidable (∀ frame ∈ frames.getLast?, _))

/-- All entries are kept exactly when the last one is applied. -/
theorem validBytes_eq_iff (hpositive : ∀ frame ∈ frames, 0 < frame.2) :
    (scanRead frames {}).validBytes = (frames.map Prod.snd).sum ↔ EndsAccepted frames := by
  cases frames using List.reverseRecOn with
  | nil => exact iff_of_true rfl (fun frame hframe => absurd hframe (Option.not_mem_none frame))
  | append_singleton frames frame =>
    have hsize := hpositive frame (mem_append_right _ mem_cons_self)
    have hends : EndsAccepted (frames ++ [frame]) ↔ (scanRead frames {}).Follows frame.1 := by
      rw [EndsAccepted, List.getLast?_concat, dropLast_concat]
      simp
    rw [hends]
    by_cases hfollows : (scanRead frames {}).Follows frame.1
    · refine iff_of_true ?_ hfollows
      rw [← scanRead_position, scanRead_concat, take_of_follows hfollows]
      rfl
    · refine iff_of_false ?_ hfollows
      obtain ⟨note, hskip⟩ : ∃ note, (scanRead frames {}).take frame.1 frame.2 =
          (scanRead frames {}).skip note frame.2 := take_of_not_follows hfollows
      have hvalid : (scanRead frames {}).validBytes ≤ (frames.map Prod.snd).sum :=
        le_of_le_of_eq (scanRead_places frames {} (Nat.le_refl 0)).2 (Nat.zero_add _)
      rw [scanRead_concat, hskip, map_append, sum_append]
      change ¬ (scanRead frames {}).validBytes = (frames.map Prod.snd).sum + frame.2
      omega

/-! ### Scanning the repaired journal -/

/-- What a scan leaves behind, from the entries that were read and the length of the file. -/
structure JournalScan.Sums (frames : List ((JournalHeader × Bytes) × Nat)) (length : Nat) (scan : JournalScan) :
    Prop where
  validBytes : scan.validBytes = (scanRead frames {}).validBytes
  payload : scan.lastSnapshotPayload = (scanRead frames {}).lastSnapshotPayload
  generation : scan.lastSnapshotGeneration = (scanRead frames {}).lastSnapshotGeneration
  entriesValid : scan.entriesValid = (scanRead frames {}).entriesValid
  position : scan.position = (frames.map Prod.snd).sum
  length : scan.position + scan.bytesDiscarded = length

section Scans

variable {limits : StoreLimits} {data : Bytes}

/-- The scan sums up the entries it reads, and the file is what it passed and what it discards. -/
theorem scanJournal_sums (limits : StoreLimits) (data : Bytes) :
    (scanJournal data limits).Sums (read (journalFront limits) data).1 data.length := by
  set frames := (read (journalFront limits) data).1 with hframes
  have hposition := scanRead_position frames
  have hdiscarded : (scanRead frames {}).bytesDiscarded = 0 := (scanRead_places frames {} (Nat.le_refl 0)).1
  have hscan : scan (journalFront limits) JournalScan.take halt data.length data {} =
      (read (journalFront limits) data).2.elim (scanRead frames {})
        (fun stop => (scanRead frames {}).halt stop.1 stop.2) := scan_eq_foldl _ _ _ _ _
  cases hend : (read (journalFront limits) data).2 with
  | none =>
    have hsum := read_whole (journalFront_positive limits) (journalFront_local limits) hend
    rw [hend] at hscan
    have hplaced : (scanRead frames {}).position + (scanRead frames {}).bytesDiscarded = data.length := by
      rw [hposition, hdiscarded]
      exact hsum
    rw [scanJournal, hscan, Option.elim_none]
    split
    · exact ⟨rfl, rfl, rfl, rfl, hposition, hplaced⟩
    · exact ⟨rfl, rfl, rfl, rfl, hposition, hplaced⟩
  | some stop =>
    obtain ⟨-, hsum⟩ := read_left (journalFront_positive limits) hend
    rw [hend] at hscan
    have hlength : (scanRead frames {}).position + ((scanRead frames {}).bytesDiscarded + stop.2) = data.length := by
      rw [hposition, hdiscarded, Nat.zero_add]
      exact hsum
    rw [scanJournal, hscan, Option.elim_some, if_neg (halt_flagged _ stop.1 stop.2), halt]
    cases stop.1.corrupt <;> exact ⟨rfl, rfl, rfl, rfl, hposition, hlength⟩

theorem length_acceptedEntries (limits : StoreLimits) (data : Bytes) :
    (acceptedEntries limits data).length = (scanJournal data limits).entriesValid := by
  rw [(scanJournal_sums limits data).entriesValid, entriesValid_scanRead, acceptedEntries]
  exact (Nat.zero_add _).symm

/-- The loop comes to an end by itself: with more rounds than the file has bytes it finds the same. -/
theorem scan_rounds {fuel : Nat} (hfuel : data.length ≤ fuel) :
    FrameLog.scan (journalFront limits) JournalScan.take halt fuel data {} =
      FrameLog.scan (journalFront limits) JournalScan.take halt data.length data {} := by
  rw [scan_eq_foldl, scan_eq_foldl, readFuel_eq_read (journalFront_positive limits) hfuel]
  rfl

/-- A repaired journal is whole, and the scan of it finds the same state. -/
theorem scanJournal_keep (limits : StoreLimits) (data : Bytes) :
    let kept := (scanJournal data limits).keep data
    WholeEntries limits kept ∧
      (scanJournal kept limits).lastSnapshotPayload = (scanJournal data limits).lastSnapshotPayload ∧
      (scanJournal kept limits).lastSnapshotGeneration = (scanJournal data limits).lastSnapshotGeneration := by
  by_cases hwhole : WholeEntries limits data
  · rw [keep_eq_iff.mpr hwhole]
    exact ⟨hwhole, rfl, rfl⟩
  · have hsums := scanJournal_sums limits data
    obtain ⟨kept, ⟨after, hframes⟩, hbytes, hpayload, hgeneration⟩ :=
      exists_kept (read (journalFront limits) data).1
    obtain ⟨-, hread⟩ := read_take (journalFront_positive limits) (journalFront_local limits) hframes.symm
    rw [keep, if_pos (scanJournal_not_whole hwhole).1, hsums.validBytes, hbytes]
    have hagain := scanJournal_sums limits (data.take (kept.map Prod.snd).sum)
    rw [hread] at hagain
    refine ⟨congrArg Prod.snd hread, ?_, ?_⟩
    · rw [hagain.payload, hsums.payload, hpayload]
    · rw [hagain.generation, hsums.generation, hgeneration]

end Scans

/-! ### Opening the store twice -/

section Opening

variable {options : StoreOptions} {disk after : Disk} {data : Bytes} {report : OpenReport} {reason : ReasonCode}

/-- The state that is chosen depends on the scan only through the state of the journal and its generation. -/
theorem adoptJournal_congr {snapshot state : Option RegistryState} {again : JournalScan} {counts : Nat × Nat}
    (hpayload : again.lastSnapshotPayload = scan.lastSnapshotPayload)
    (hgeneration : again.lastSnapshotGeneration = scan.lastSnapshotGeneration)
    (h : adoptJournal snapshot scan = .ok (state, counts)) :
    ∃ others, adoptJournal snapshot again = .ok (state, others) := by
  rw [adoptJournal] at h ⊢
  rw [hpayload, hgeneration]
  split at h
  · rename_i hempty
    cases h
    rw [if_pos hempty]
    exact ⟨_, rfl⟩
  · rename_i hsome
    obtain ⟨decoded, hdecoded, h⟩ := bind_ok h
    rw [if_neg hsome, hdecoded, ok_bind]
    cases snapshot with
    | none =>
      cases h
      exact ⟨_, rfl⟩
    | some stored =>
      dsimp only at h ⊢
      split at h
      · rename_i hnewer
        cases h
        rw [if_pos hnewer]
        exact ⟨_, rfl⟩
      · rename_i holder
        cases h
        rw [if_neg holder]
        exact ⟨_, rfl⟩

/-- Without a snapshot the state of the journal is chosen. -/
theorem adoptJournal_decodable (hstate : state.Decodable) (hpayload : scan.lastSnapshotPayload = state.encode) :
    ∃ counts, adoptJournal none scan = .ok (some state, counts) := by
  rw [adoptJournal, hpayload, if_neg state.encode_ne_nil, decodeState_encode hstate]
  exact ⟨_, rfl⟩

/-- Opening a store with a journal goes on with a state. -/
structure GoesOn (options : StoreOptions) (disk : Disk) (data : Bytes) (state : RegistryState) : Prop where
  basePath : options.basePath ≠ []
  bound : data.length ≤ options.limits.journalReadBound.toNat
  chosen : ∃ snapshot counts, openSnapshot options.limits disk.snapshot = .ok snapshot ∧
    adoptJournal snapshot (scanJournal data options.limits) = .ok (some state, counts)

section

variable (disk : Disk) (limits : StoreLimits) (data : Bytes)

/-- The disk after the repair of its journal. -/
def Disk.repaired : Disk where
  snapshot := disk.snapshot
  journal := some ((scanJournal data limits).keep data)

theorem journalBytes_repaired : (disk.repaired limits data).journalBytes = (scanJournal data limits).keep data := rfl

end

theorem GoesOn.openStore_eq (h : GoesOn options disk data state) (hjournal : disk.journal = some data) :
    ∃ report, openStore options disk = (.success report .ok, disk.repaired options.limits data) ∧
      report.state = state ∧ report.bytesDiscarded = (scanJournal data options.limits).bytesDiscarded := by
  obtain ⟨snapshot, counts, hsnapshot, hadopt⟩ := h.chosen
  obtain ⟨report, hopen, -, hdiscarded⟩ := Image.openStore_journal h.basePath hsnapshot hjournal h.bound hadopt
  exact ⟨{ report with state := state }, hopen, rfl, hdiscarded⟩

/-- A store that exists is not opened without a state. -/
theorem concludeOpen_none {other : OpenReport} (hexisted : report.existed = true) :
    concludeOpen report none ≠ .success other reason := by
  rw [concludeOpen, if_pos hexisted]
  intro h
  cases h

section

variable (hopen : openStore options disk = (.success report reason, after))
include hopen

/-- A store with a journal is opened only by going on with a state. -/
theorem goesOn_of_success (hjournal : disk.journal = some data) : GoesOn options disk data report.state := by
  rw [openStore] at hopen
  split at hopen
  · cases hopen
  · rename_i hbase
    dsimp only at hopen
    split at hopen
    · cases hopen
    · rename_i snapshot hsnapshot
      rw [hjournal] at hopen
      split at hopen
      · cases hopen
      · rename_i middle state journal hrest
        obtain ⟨read, hread, hscanned⟩ := bind_ok hrest
        obtain ⟨rfl, hbound⟩ := readWholeFile_ok hread
        obtain ⟨⟨chosen, counts⟩, hadopt, hreported⟩ := bind_ok hscanned
        cases hreported
        cases state with
        | some state =>
          cases hopen
          exact ⟨hbase, hbound, snapshot, counts, hsnapshot, hadopt⟩
        | none =>
          -- the journal exists, so without a state the store is refused
          exact absurd (congrArg Prod.fst hopen) (concludeOpen_none (Bool.or_true _))

/-- Opening a store without a journal again finds the same. -/
theorem openStore_again_of_none (hjournal : disk.journal = none) :
    ∃ again, openStore options after = (.success again .ok, after) ∧ again.state = report.state ∧
      again.bytesDiscarded = 0 := by
  rw [openStore] at hopen
  split at hopen
  · cases hopen
  · rename_i hbase
    dsimp only at hopen
    split at hopen
    · cases hopen
    · rename_i snapshot hsnapshot
      rw [hjournal, openJournal] at hopen
      dsimp only at hopen
      cases snapshot with
      | some state =>
        cases hopen
        rw [openStore, if_neg hbase]
        dsimp only
        rw [hsnapshot]
        exact ⟨_, rfl, rfl, rfl⟩
      | none =>
        rw [openSnapshot_none hsnapshot] at hopen
        cases hopen
        rw [openStore, if_neg hbase]
        exact ⟨_, rfl, rfl, rfl⟩

end

/-- Whatever a journal holds, the loop over it comes to an end, and the entries it applies have increasing sequences
    and generations that do not fall. When opening the store shortens the journal, it reports what it takes off
    exactly when the last entry before the refused bytes is one that was applied. -/
theorem journal_repair_accounting (options : StoreOptions) (disk : Disk) (data : Bytes) :
    (∀ fuel, data.length ≤ fuel →
        FrameLog.scan (journalFront options.limits) JournalScan.take JournalScan.halt fuel data {} =
          FrameLog.scan (journalFront options.limits) JournalScan.take JournalScan.halt data.length data {}) ∧
      (acceptedEntries options.limits data).length = (scanJournal data options.limits).entriesValid ∧
      (acceptedEntries options.limits data).Pairwise (fun a b => a.1.Precedes b.1) ∧
      ∀ report reason after, openStore options disk = (.success report reason, after) → disk.journal = some data →
        after.journalBytes.length < data.length →
          (data.length - after.journalBytes.length = report.bytesDiscarded ↔
            EndsAccepted (FrameLog.read (journalFront options.limits) data).1) := by
  refine ⟨fun fuel hfuel => scan_rounds hfuel, length_acceptedEntries _ _, accepted_ordered _ _, ?_⟩
  intro report reason after hopen hjournal hshorter
  obtain ⟨found, hfound, -, hdiscarded⟩ := (goesOn_of_success hopen hjournal).openStore_eq hjournal
  rw [hopen] at hfound
  cases hfound
  rw [journalBytes_repaired] at hshorter ⊢
  have hwhole : ¬ WholeEntries options.limits data := by
    intro hwhole
    rw [keep_eq_iff.mpr hwhole] at hshorter
    exact lt_irrefl _ hshorter
  have hsums := scanJournal_sums options.limits data
  obtain ⟨hpositive, hvalid⟩ := scanJournal_not_whole hwhole
  rw [← validBytes_eq_iff (fun frame hframe => read_size_pos (journalFront_positive _) hframe),
    keep, if_pos hpositive, length_take_of_le hvalid.le, hdiscarded, ← hsums.position,
    ← hsums.validBytes]
  have hlength := hsums.length
  omega

section Replayed

variable {limits : StoreLimits} {entry : Entry} {tail : Bytes} {stop : JournalStop}

/-- An entry that stands in the journal a second time is passed over. -/
theorem scanJournal_replayed (hreadable : entry.Readable limits) (hne : tail ≠ [])
    (hstop : journalFront limits tail = .stop stop) : scanJournal ([entry, entry].flatMap Entry.frame ++ tail) limits =
      ((accept {} entry.header entry.state.encode entry.frame.length).skip .protocolSequenceViolation
        entry.frame.length).halt stop tail.length := by
  have hboth : ∀ other ∈ [entry, entry], other.Readable limits := by
    intro other hother
    simp only [mem_cons, not_mem_nil, or_false, or_self] at hother
    rw [hother]
    exact hreadable
  have hfirst : scanEntry {} entry = accept {} entry.header entry.state.encode entry.frame.length :=
    take_accept _ (fun h => absurd h.2 (Nat.lt_irrefl 0)) (fun h => UInt64.not_lt_zero h)
  have hsecond : scanEntry (scanEntry {} entry) entry =
      (scanEntry {} entry).skip .protocolSequenceViolation entry.frame.length := by
    apply if_pos
    rw [hfirst]
    exact ⟨le_refl _, Nat.one_pos⟩
  rw [scanJournal_stop hboth hne hstop, foldl_cons, foldl_cons, foldl_nil, hsecond, hfirst]

/-- The state of the entry is recovered, its repetition goes with the bytes after it. -/
theorem openStore_replayed (hbase : options.basePath ≠ []) (hreadable : entry.Readable options.limits)
    (hne : tail ≠ []) (hstop : journalFront options.limits tail = .stop stop) (hsnapshot : disk.snapshot = none)
    (hjournal : disk.journal = some ([entry, entry].flatMap Entry.frame ++ tail))
    (hbound : ([entry, entry].flatMap Entry.frame ++ tail).length ≤ options.limits.journalReadBound.toNat) :
    ∃ report after, openStore options disk = (.success report .ok, after) ∧
      after.journalBytes.length = entry.frame.length ∧ report.bytesDiscarded = tail.length := by
  have hscan := scanJournal_replayed hreadable hne hstop
  have hdiscarded : (scanJournal ([entry, entry].flatMap Entry.frame ++ tail) options.limits).bytesDiscarded =
      tail.length := by
    rw [hscan, (halt_places _ stop tail.length).1]
    exact Nat.zero_add _
  have hvalid : (scanJournal ([entry, entry].flatMap Entry.frame ++ tail) options.limits).validBytes =
      entry.frame.length := by
    rw [hscan, (halt_places _ stop tail.length).2]
    exact Nat.zero_add _
  have hpayload : (scanJournal ([entry, entry].flatMap Entry.frame ++ tail) options.limits).lastSnapshotPayload =
      entry.state.encode := by
    have hfirst : (accept {} entry.header entry.state.encode entry.frame.length).lastSnapshotPayload =
        entry.state.encode := accept_payload rfl (UInt64.le_iff_toNat_le.mpr (Nat.zero_le _))
    rw [hscan, halt]
    cases stop.corrupt <;> exact hfirst
  have hgoes : GoesOn options disk ([entry, entry].flatMap Entry.frame ++ tail) entry.state := by
    obtain ⟨counts, hadopt⟩ := adoptJournal_decodable hreadable.decodable hpayload
    refine ⟨hbase, hbound, none, counts, ?_, hadopt⟩
    rw [hsnapshot]
    rfl
  obtain ⟨report, hopen, -, hreported⟩ := hgoes.openStore_eq hjournal
  refine ⟨report, _, hopen, ?_, hreported.trans hdiscarded⟩
  rw [journalBytes_repaired, keep, hdiscarded, if_pos (length_pos_of_ne_nil hne), hvalid]
  apply length_take_of_le
  rw [flatMap_cons, append_assoc, length_append]
  exact Nat.le_add_right _ _

end Replayed

namespace Lab

/-- The entry of a first commit. -/
def firstEntry : Entry := ⟨1, 0, stateAt 1⟩

/-- A journal with the same entry twice, and the first byte of another one. -/
def replayedTail : Disk := { journal := some ([firstEntry, firstEntry].flatMap Entry.frame ++ [0x4F]) }

theorem firstEntry_readable : firstEntry.Readable {} where
  decodable := stateAt_decodable 1
  word := by
    rw [firstEntry, stateAt_length]
    decide
  bound := by
    rw [firstEntry, stateAt_length]
    decide

theorem length_firstEntry : firstEntry.frame.length = 434 := by
  rw [Entry.length_frame, firstEntry, stateAt_length]

theorem length_replayedTail : ([firstEntry, firstEntry].flatMap Entry.frame ++ [0x4F]).length = 869 := by
  rw [flatMap_cons, flatMap_cons, flatMap_nil, append_nil, length_append, length_append, length_firstEntry]
  rfl

theorem openStore_replayedTail : ∃ report after, openStore Lab.options replayedTail = (.success report .ok, after) ∧
      after.journalBytes.length = 434 ∧ report.bytesDiscarded = 1 := by
  have hstop : journalFront {} [0x4F] = .stop ⟨false, none⟩ := rfl
  have hbound : ([firstEntry, firstEntry].flatMap Entry.frame ++ [0x4F]).length ≤
      ({} : StoreLimits).journalReadBound.toNat := by
    rw [length_replayedTail]
    decide
  have hjournal : replayedTail.journal = some ([firstEntry, firstEntry].flatMap Entry.frame ++ [0x4F]) := rfl
  rw [← length_firstEntry]
  exact openStore_replayed options_base firstEntry_readable (cons_ne_nil _ _) hstop rfl hjournal hbound

end Lab

/-- Opening a store takes a replayed entry and the byte after it off the journal, and reports the byte. -/
theorem replayed_entry_removed_unreported :
    ∃ report after, openStore Lab.options Lab.replayedTail = (.success report .ok, after) ∧
      Lab.replayedTail.journalBytes.length = 869 ∧ after.journalBytes.length = 434 ∧ report.bytesDiscarded = 1 := by
  obtain ⟨report, after, hopen, hkept, hreported⟩ := Lab.openStore_replayedTail
  exact ⟨report, after, hopen, Lab.length_replayedTail, hkept, hreported⟩

theorem replayed_tail_not_accounted :
    ∃ report after, openStore Lab.options Lab.replayedTail = (.success report .ok, after) ∧
      after.journalBytes.length < Lab.replayedTail.journalBytes.length ∧
      Lab.replayedTail.journalBytes.length - after.journalBytes.length ≠ report.bytesDiscarded ∧
      ¬ EndsAccepted (FrameLog.read (journalFront {}) Lab.replayedTail.journalBytes).1 := by
  obtain ⟨report, after, hopen, hkept, hreported⟩ := Lab.openStore_replayedTail
  have hlength : Lab.replayedTail.journalBytes.length = 869 := Lab.length_replayedTail
  have hshorter : after.journalBytes.length < Lab.replayedTail.journalBytes.length := by omega
  have hremoved : Lab.replayedTail.journalBytes.length - after.journalBytes.length ≠ report.bytesDiscarded := by omega
  refine ⟨report, after, hopen, hshorter, hremoved, ?_⟩
  intro hends
  exact hremoved (((journal_repair_accounting Lab.options Lab.replayedTail Lab.replayedTail.journalBytes).2.2.2 report .ok
    after hopen rfl hshorter).mpr hends)

/-- Opening a store that was opened finds the same state again, and discards nothing. -/
theorem reopening_is_idempotent (options : StoreOptions) (disk after : Disk) (report : OpenReport) (reason : ReasonCode)
    (hopen : openStore options disk = (.success report reason, after)) :
    ∃ again, openStore options after = (.success again .ok, after) ∧ again.state = report.state ∧
      again.bytesDiscarded = 0 := by
  cases hjournal : disk.journal with
  | none => exact openStore_again_of_none hopen hjournal
  | some data =>
    have hgoes := goesOn_of_success hopen hjournal
    obtain ⟨found, hfound, -, -⟩ := hgoes.openStore_eq hjournal
    rw [hopen] at hfound
    cases hfound
    obtain ⟨hwhole, hpayload, hgeneration⟩ := scanJournal_keep options.limits data
    obtain ⟨snapshot, counts, hsnapshot, hadopt⟩ := hgoes.chosen
    obtain ⟨others, hagain⟩ := adoptJournal_congr hpayload hgeneration hadopt
    have hshort : ((scanJournal data options.limits).keep data).length ≤ data.length := by
      rw [keep]
      split
      · rw [length_take]
        exact Nat.min_le_right _ _
      · exact le_refl _
    have hnext : GoesOn options (disk.repaired options.limits data) ((scanJournal data options.limits).keep data)
        report.state := ⟨hgoes.basePath, le_trans hshort hgoes.bound, snapshot, others, hsnapshot, hagain⟩
    obtain ⟨again, hopened, hstate, hbytes⟩ := hnext.openStore_eq rfl
    refine ⟨again, ?_, hstate, hbytes.trans (scanJournal_whole hwhole)⟩
    rw [hopened, Disk.repaired, Disk.repaired, keep_eq_iff.mpr hwhole]

theorem replayed_tail_reopened :
    ∃ report after again, openStore Lab.options Lab.replayedTail = (.success report .ok, after) ∧
      report.bytesDiscarded = 1 ∧ openStore Lab.options after = (.success again .ok, after) ∧
      again.state = report.state ∧ again.bytesDiscarded = 0 := by
  obtain ⟨report, after, hopen, -, hreported⟩ := Lab.openStore_replayedTail
  obtain ⟨again, hopened, hstate, hdiscarded⟩ :=
    reopening_is_idempotent Lab.options Lab.replayedTail after report .ok hopen
  exact ⟨report, after, again, hopen, hreported, hopened, hstate, hdiscarded⟩

end Opening

end Ocreg
