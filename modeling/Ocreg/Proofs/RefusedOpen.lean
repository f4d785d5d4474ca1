/-
Module: Ocreg.Proofs.RefusedOpen
Purpose: The files of a store whose opening is refused. They are left alone unless the journal is all there is, holds
  no state and does not end with a whole entry: the repair of its tail comes before that refusal.
-/
import Ocreg.Proofs.Recovery

namespace Ocreg

open List FrameLog

/-! ### What the scan discards -/

/-- The journal is entries laid end to end, with nothing after the last of them. -/
def WholeEntries (limits : StoreLimits) (data : Bytes) : Prop := (read (journalFront limits) data).2 = none

instance (limits : StoreLimits) (data : Bytes) : Decidable (WholeEntries limits data) :=
  decidable_of_iff ((read (journalFront limits) data).2.isNone = true) Option.isNone_iff_eq_none

/-- No state is found in the journal. -/
def HoldsNoState (limits : StoreLimits) (data : Bytes) : Prop := (scanJournal data limits).lastSnapshotPayload = []

instance (limits : StoreLimits) (data : Bytes) : Decidable (HoldsNoState limits data) :=
  inferInstanceAs (Decidable (_ = _))

/-- The scanner over the entries that were read, before it accounts for what stopped it. -/
def scanRead (frames : List ((JournalHeader × Bytes) × Nat)) (scan : JournalScan) : JournalScan :=
  frames.foldl (fun scan frame => scan.take frame.1 frame.2) scan

/-- One entry moves the scanner on by its size, discards nothing and keeps at most what was passed. -/
theorem JournalScan.take_places (scan : JournalScan) (entry : JournalHeader × Bytes) (total : Nat)
    (hvalid : scan.validBytes ≤ scan.position) : (scan.take entry total).bytesDiscarded = scan.bytesDiscarded ∧
      (scan.take entry total).position = scan.position + total ∧
      (scan.take entry total).validBytes ≤ (scan.take entry total).position := by
  rw [take]
  split
  · exact ⟨rfl, rfl, Nat.le_add_right_of_le hvalid⟩
  · split
    · exact ⟨rfl, rfl, Nat.le_add_right_of_le hvalid⟩
    · exact ⟨rfl, rfl, Nat.le_refl _⟩

theorem scanRead_places (frames : List ((JournalHeader × Bytes) × Nat)) (scan : JournalScan)
    (hvalid : scan.validBytes ≤ scan.position) : (scanRead frames scan).bytesDiscarded = scan.bytesDiscarded ∧
      (scanRead frames scan).validBytes ≤ scan.position + (frames.map Prod.snd).sum := by
  induction frames generalizing scan with
  | nil => exact ⟨rfl, hvalid⟩
  | cons frame frames ih =>
    obtain ⟨hdiscarded, hposition, hnext⟩ := scan.take_places frame.1 frame.2 hvalid
    obtain ⟨hrest, hbytes⟩ := ih (scan.take frame.1 frame.2) hnext
    rw [hposition] at hbytes
    rw [map_cons, sum_cons, ← Nat.add_assoc]
    exact ⟨hrest.trans hdiscarded, hbytes⟩

theorem JournalScan.halt_places (scan : JournalScan) (stop : JournalStop) (left : Nat) :
    (scan.halt stop left).bytesDiscarded = scan.bytesDiscarded + left ∧
      (scan.halt stop left).validBytes = scan.validBytes := by
  rw [halt]
  cases stop.corrupt <;> exact ⟨rfl, rfl⟩

variable {limits : StoreLimits} {data : Bytes} {snapshot : Option RegistryState}

/-- Nothing of a whole journal is discarded. -/
theorem scanJournal_whole (hwhole : WholeEntries limits data) : (scanJournal data limits).bytesDiscarded = 0 := by
  have hplaces := scanRead_places (read (journalFront limits) data).1 {} (Nat.le_refl 0)
  have hscan : scan (journalFront limits) JournalScan.take JournalScan.halt data.length data {} =
      scanRead (read (journalFront limits) data).1 {} := by
    rw [scan_eq_foldl]
    dsimp only
    rw [show (readFuel (journalFront limits) data.length data).2 = none from hwhole]
    rfl
  rw [scanJournal, hscan]
  split
  · exact hplaces.1
  · exact hplaces.1

/-- Of any other journal some bytes are discarded, and what is kept is shorter than the file. -/
theorem scanJournal_not_whole (hwhole : ¬ WholeEntries limits data) :
    0 < (scanJournal data limits).bytesDiscarded ∧ (scanJournal data limits).validBytes < data.length := by
  obtain ⟨⟨stop, left⟩, hstop⟩ := Option.ne_none_iff_exists'.mp hwhole
  obtain ⟨hleft, hsum⟩ := read_left (journalFront_positive limits) hstop
  obtain ⟨-, hvalid⟩ := scanRead_places (read (journalFront limits) data).1 {} (Nat.le_refl 0)
  have hscan : scanJournal data limits = (scanRead (read (journalFront limits) data).1 {}).halt stop left := by
    rw [scanJournal, scan_eq_foldl]
    dsimp only
    rw [show (readFuel (journalFront limits) data.length data).2 = some (stop, left) from hstop]
    exact if_neg (JournalScan.halt_flagged _ stop left)
  obtain ⟨hdiscarded, hkept⟩ := (scanRead (read (journalFront limits) data).1 {}).halt_places stop left
  rw [hscan, hdiscarded, hkept]
  constructor
  · exact Nat.lt_add_left _ hleft
  · have hstart : ({} : JournalScan).position = 0 := rfl
    omega

/-- The repair leaves a journal as it is exactly when it is whole. -/
theorem keep_eq_iff : (scanJournal data limits).keep data = data ↔ WholeEntries limits data := by
  rw [JournalScan.keep]
  by_cases hwhole : WholeEntries limits data
  · rw [scanJournal_whole hwhole]
    exact iff_of_true rfl hwhole
  · obtain ⟨hdiscarded, hvalid⟩ := scanJournal_not_whole hwhole
    rw [if_pos hdiscarded]
    refine iff_of_false ?_ hwhole
    intro hkept
    have hlength := congrArg List.length hkept
    rw [length_take] at hlength
    omega

/-! ### Refusals after the repair -/

/-- The only refusal that comes after the repair: the journal is all there is, and holds no state. -/
structure Stateless (options : StoreOptions) (disk : Disk) (data : Bytes) : Prop where
  basePath : options.basePath ≠ []
  snapshot : disk.snapshot = none
  journal : disk.journal = some data
  bound : data.length ≤ options.limits.journalReadBound.toNat
  state : HoldsNoState options.limits data

variable {options : StoreOptions} {disk : Disk}

theorem readWholeFile_ok {read : Bytes} {bound : UInt64} (h : readWholeFile data bound = .ok read) :
    read = data ∧ data.length ≤ bound.toNat := by
  rw [readWholeFile] at h
  split at h
  · cases h
  · rename_i hbound
    cases h
    exact ⟨rfl, not_lt.mp hbound⟩

/-- Going on without a state after the scan means that there was neither a snapshot nor a state in the journal. -/
theorem adoptJournal_none {scan : JournalScan} {counts : Nat × Nat}
    (h : adoptJournal snapshot scan = .ok (none, counts)) : snapshot = none ∧ scan.lastSnapshotPayload = [] := by
  rw [adoptJournal] at h
  split at h
  · rename_i hpayload
    cases h
    exact ⟨rfl, hpayload⟩
  · obtain ⟨decoded, -, h⟩ := bind_ok h
    cases snapshot with
    | none => cases h
    | some state =>
      dsimp only at h
      split at h
      · cases h
      · cases h

/-- The journal part of opening a store without a state, with the journal it leaves. -/
theorem openJournal_none {report after : OpenReport} {kept : Option Bytes}
    (h : openJournal limits report snapshot (some data) = .ok (after, none, kept)) :
    snapshot = none ∧ data.length ≤ limits.journalReadBound.toNat ∧ HoldsNoState limits data ∧
      kept = some ((scanJournal data limits).keep data) := by
  obtain ⟨read, hread, hscanned⟩ := bind_ok h
  obtain ⟨rfl, hbound⟩ := readWholeFile_ok hread
  obtain ⟨⟨state, counts⟩, hadopt, hreported⟩ := bind_ok hscanned
  cases hreported
  obtain ⟨hsnapshot, hpayload⟩ := adoptJournal_none hadopt
  exact ⟨hsnapshot, hbound, hpayload, rfl⟩

theorem openSnapshot_none {file : Option Bytes} (h : openSnapshot limits file = .ok none) : file = none := by
  cases file with
  | none => rfl
  | some data =>
    obtain ⟨read, -, h⟩ := bind_ok h
    obtain ⟨state, -, h⟩ := bind_ok h
    cases h

/-- What a refused opening does to the two files: nothing, or the repair of a journal that holds no state. -/
theorem openStore_refused (h : (openStore options disk).1.ok = false) :
    (openStore options disk).2.snapshot = disk.snapshot ∧
      ((openStore options disk).2.journal = disk.journal ∨
        ∃ data, Stateless options disk data ∧
          (openStore options disk).2.journal = some ((scanJournal data options.limits).keep data)) := by
  rw [openStore] at h ⊢
  split
  · exact ⟨rfl, .inl rfl⟩
  · rename_i hbase
    rw [if_neg hbase] at h
    dsimp only at h ⊢
    cases hsnapshot : openSnapshot options.limits disk.snapshot with
    | error refusal => exact ⟨rfl, .inl rfl⟩
    | ok snapshot =>
      rw [hsnapshot] at h
      dsimp only at h ⊢
      split
      · exact ⟨rfl, .inl rfl⟩
      · rename_i report state journal hopen
        rw [hopen] at h
        refine ⟨rfl, ?_⟩
        cases hjournal : disk.journal with
        | none =>
          rw [hjournal] at hopen
          cases hopen
          exact .inl rfl
        | some data =>
          rw [hjournal] at hopen
          cases state with
          | some state => cases h
          | none =>
            obtain ⟨rfl, hbound, hstate, rfl⟩ := openJournal_none hopen
            exact .inr ⟨data, ⟨hbase, openSnapshot_none hsnapshot, hjournal, hbound, hstate⟩, rfl⟩

/-- A store whose journal is all there is and holds no state is refused, after the repair. -/
theorem openStore_stateless (h : Stateless options disk data) : (openStore options disk).1.ok = false ∧
      (openStore options disk).2.journal = some ((scanJournal data options.limits).keep data) := by
  have hsnapshot : openSnapshot options.limits disk.snapshot = .ok none := congrArg (openSnapshot _) h.snapshot
  have hadopt : adoptJournal none (scanJournal data options.limits) = .ok (none, _) := if_pos h.state
  obtain ⟨report, hopen, hexisted, -⟩ := Image.openStore_journal h.basePath hsnapshot h.journal h.bound hadopt
  rw [hopen, concludeOpen, if_pos hexisted]
  exact ⟨rfl, rfl⟩

/-- A refused opening leaves both files as they are exactly when it is not of a store whose journal is all there is,
    holds no state and ends with bytes that are no entry. -/
theorem refused_open_unchanged_iff (options : StoreOptions) (disk : Disk) :
    ((openStore options disk).1.ok = false →
      (openStore options disk).2.snapshot = disk.snapshot ∧ (openStore options disk).2.journal = disk.journal) ↔
      ∀ data, Stateless options disk data → WholeEntries options.limits data := by
  constructor
  · intro hunchanged data hdata
    obtain ⟨hrefused, hjournal⟩ := openStore_stateless hdata
    have hkept := (hunchanged hrefused).2
    rw [hjournal, hdata.journal] at hkept
    exact keep_eq_iff.mp (Option.some.inj hkept)
  · intro hwhole hrefused
    obtain ⟨hsnapshot, hjournal⟩ := openStore_refused hrefused
    refine ⟨hsnapshot, ?_⟩
    rcases hjournal with hjournal | ⟨data, hdata, hjournal⟩
    · exact hjournal
    · rw [hjournal, keep_eq_iff.mpr (hwhole data hdata), hdata.journal]

namespace Lab

/-- The header of an entry that a later format version of the store wrote. -/
def newerHeader : JournalHeader := { formatVersion := 2, sequence := 1, storeGeneration := 1 }

/-- A journal of a later format version, and no snapshot. -/
def newerJournal : Disk := { journal := some newerHeader.serialize }

end Lab

/-- Opening the store refuses the journal of a later format version, and has emptied it. -/
theorem newer_journal_emptied :
    (openStore { basePath := text "store" } Lab.newerJournal).1.ok = false ∧
      (openStore { basePath := text "store" } Lab.newerJournal).1.reason = .storeVersionIncompatible ∧
      Lab.newerJournal.journalBytes.length = 72 ∧
      (openStore { basePath := text "store" } Lab.newerJournal).2.journal = some [] := by
  decide +kernel

end Ocreg
