/-
Module: Ocreg.Proofs.Commits
Purpose: What the calls of the store do to its files and counters, when a commit is refused, and when a snapshot
  that was written can be opened again.
-/
import Ocreg.Proofs.Recovery
import Ocreg.Registry.State
import Ocreg.Lib.Runs

namespace Ocreg

open List

variable {kind : JournalKind} (notes : List ReasonCode)

namespace Store

variable {store : Store} {state : RegistryState} {payload : Bytes} {now : Tick} {faults : Faults}

/-! ### Snapshots -/

/-- Steps between the temporary file and the rename that counts: the snapshot is removed when a first rename
    failed. -/
def Cleared (store : Store) (faults : Faults) (steps : List FileStep) : Prop :=
  steps = [] ∨ steps = [.removeSnapshot] ∧ faults.rename = true ∧ store.options.syncOnCommit = true

theorem publish_cases (store : Store) (faults : Faults) : ∃ steps, store.Cleared faults steps ∧
      (store.publish faults = (true, steps ++ [.rename]) ∨ store.publish faults = (false, steps)) := by
  cases hrename : faults.rename with
  | false => exact ⟨[], .inl rfl, .inl (by simp [publish, hrename])⟩
  | true =>
    cases hsync : store.options.syncOnCommit with
    | false => exact ⟨[], .inl rfl, .inr (by simp [publish, hrename, hsync])⟩
    | true =>
      refine ⟨if faults.remove then [] else [.removeSnapshot], ?_, ?_⟩
      · split
        · exact .inl rfl
        · exact .inr ⟨rfl, hrename, hsync⟩
      · cases hagain : faults.renameAgain with
        | false => exact .inl (by simp [publish, hrename, hsync, hagain])
        | true => exact .inr (by simp [publish, hrename, hsync, hagain])

section

variable (store) (state) (now) (faults)

/-- Writing a snapshot either fails with the store as it was, or puts the file in place. -/
inductive SnapshotView : Call → Prop
  | failed (reason : ReasonCode) (detail : Bytes) (steps : List FileStep)
      (hsteps : steps = [] ∨ ∃ part rest, store.Cleared faults rest ∧ steps = .openTemp :: .writeTemp part :: rest) :
      SnapshotView (store.fails reason detail steps)
  | wrote (token : CommitToken) (rest : List FileStep)
      (hfits : state.encode.length ≤ store.options.limits.maxSnapshotBytes.toNat) (hrest : store.Cleared faults rest) :
      SnapshotView
        { outcome := .success token .ok
          store := { store with written := store.written + (snapshotFile state now).length }
          steps := .openTemp :: .writeTemp (snapshotFile state now) :: (rest ++ [.rename]) }

theorem writeSnapshot_view : SnapshotView store state now faults (store.writeSnapshot state now faults) := by
  rw [writeSnapshot]
  split
  · exact .failed _ _ [] (.inl rfl)
  · rename_i hfits
    split
    · exact .failed _ _ [] (.inl rfl)
    · split
      · exact .failed _ _ _ (.inr ⟨_, [], .inl rfl, rfl⟩)
      · split
        · exact .failed _ _ _ (.inr ⟨_, [], .inl rfl, rfl⟩)
        · obtain ⟨steps, hcleared, hpublish | hpublish⟩ := store.publish_cases faults
          · simp only [hpublish]
            exact .wrote _ steps (not_lt.mp hfits) hcleared
          · simp only [hpublish]
            exact .failed _ _ _ (.inr ⟨_, steps, hcleared, rfl⟩)

end

/-- Nothing about the snapshot fails. -/
structure SnapshotWorks (faults : Faults) : Prop where
  tempOpen : faults.tempOpen = false
  tempWrite : faults.tempWrite = none
  tempSync : faults.tempSync = none
  rename : faults.rename = false

theorem writeSnapshot_works (store : Store) (now : Tick) (h : SnapshotWorks faults)
    (hfits : state.encode.length ≤ store.options.limits.maxSnapshotBytes.toNat) :
    ∃ token, store.writeSnapshot state now faults =
      { outcome := .success token .ok
        store := { store with written := store.written + (snapshotFile state now).length }
        steps := [.openTemp, .writeTemp (snapshotFile state now), .rename] } := by
  simp only [writeSnapshot, if_neg (not_lt.mpr hfits), h.tempOpen, h.tempWrite, h.tempSync, synced, publish, h.rename]
  simp

/-! ### Journal entries -/

/-- The journal takes one more entry of this size. -/
def HasRoom (store : Store) (size : Nat) : Prop :=
  store.journalSize + size + kJournalHeaderSize + kJournalTrailerSize ≤ store.options.limits.maxJournalBytes.toNat ∧
    store.entryCount < store.options.limits.maxJournalEntries.toNat

instance (store : Store) (size : Nat) : Decidable (store.HasRoom size) := inferInstanceAs (Decidable (_ ∧ _))

/-- The next frame of the journal. -/
def nextFrame (store : Store) (kind : JournalKind) (payload : Bytes) (now : Tick) : Bytes :=
  journalFrame (store.nextHeader kind payload now) payload

/-- The store after an entry was appended. -/
def counted (store : Store) (size : Nat) : Store :=
  { store with
    sequence := store.sequence + 1
    entryCount := store.entryCount + 1
    journalSize := store.journalSize + size
    written := store.written + size }

section

variable (store : Store) (kind : JournalKind) (payload : Bytes) (now : Tick) (faults : Faults)

/-- The journal can be opened; a write to it may be cut short. -/
inductive AppendView : Call → Prop
  | refused (reason : ReasonCode) (detail : Bytes) (hroom : ¬ store.HasRoom payload.length) :
      AppendView (store.fails reason detail [])
  | torn (reason : ReasonCode) (detail : Bytes) (kept : Nat) (hroom : store.HasRoom payload.length)
      (hfault : faults.journalWrite = some kept ∨ faults.journalSync = some kept) :
      AppendView
        (store.fails reason detail [.openJournal, .appendJournal ((store.nextFrame kind payload now).take kept)])
  | appended (token : CommitToken) (hroom : store.HasRoom payload.length) :
      AppendView
        { outcome := .success token .ok
          store := store.counted (store.nextFrame kind payload now).length
          steps := [.openJournal, .appendJournal (store.nextFrame kind payload now)] }

end

theorem append_view (hopen : faults.journalOpen = false)
    (hentry : payload.length ≤ store.options.limits.maxJournalEntryBytes.toNat) :
    AppendView store kind payload now faults (store.append kind payload now faults) := by
  rw [append, if_neg (not_lt.mpr hentry)]
  split
  · rename_i hbytes
    exact .refused _ _ fun hroom => absurd hroom.1 (not_le.mpr hbytes)
  · rename_i hbytes
    split
    · rename_i hcount
      exact .refused _ _ fun hroom => absurd hroom.2 (not_lt.mpr hcount)
    · rename_i hcount
      have hroom : store.HasRoom payload.length := ⟨not_lt.mp hbytes, not_le.mp hcount⟩
      rw [hopen]
      cases hwrite : faults.journalWrite with
      | some kept => exact .torn _ _ kept hroom (.inl hwrite)
      | none =>
        cases hsync : store.synced faults.journalSync with
        | some kept =>
          refine .torn _ _ kept hroom (.inr ?_)
          rw [synced] at hsync
          split at hsync
          · exact hsync
          · cases hsync
        | none => exact .appended _ hroom

/-- Without faults an entry is refused only when the journal has no room for it. -/
theorem append_ok_iff (hentry : payload.length ≤ store.options.limits.maxJournalEntryBytes.toNat) :
    (store.append kind payload now {}).outcome.ok = true ↔ store.HasRoom payload.length := by
  have hview : AppendView store kind payload now {} _ := append_view rfl hentry
  generalize store.append kind payload now {} = call at hview
  cases hview with
  | refused reason detail hroom => exact ⟨fun h => Bool.noConfusion h, fun h => absurd h hroom⟩
  | torn reason detail kept hroom hfault => rcases hfault with h | h <;> cases h
  | appended token hroom => exact ⟨fun _ => hroom, fun _ => rfl⟩

/-! ### Commits -/

/-- A snapshot is written and the journal truncated. -/
def rotation (store : Store) (state : RegistryState) (now : Tick) (faults : Faults) (detail : Bytes) : Call :=
  let written := store.writeSnapshot state now faults
  if written.outcome.ok then truncateJournal written faults detail else written

/-- The store as a commit finds it, with the generation of the state. -/
def advanced (store : Store) (state : RegistryState) : Store := { store with generation := state.storeGeneration }

/-- A state that does not fit a journal entry goes to the snapshot. -/
theorem commit_oversized (h : store.options.limits.maxJournalEntryBytes.toNat < state.encode.length) :
    (store.commit state now notes faults).1 =
      (store.advanced state).rotation state now faults (text "journal rotation failed") := by
  rw [commit, if_pos h, rotation, advanced]
  dsimp only
  split
  · rfl
  · rfl

/-- A state that fits is appended, and the journal rotated when it has grown long enough. -/
theorem commit_fitting (h : ¬ store.options.limits.maxJournalEntryBytes.toNat < state.encode.length) :
    (store.commit state now notes faults).1 =
      let appended := (store.advanced state).append .stateSnapshot state.encode now faults
      if appended.outcome.ok ∧ appended.store.rotates then
        let rotated := appended.store.rotation state now faults (text "journal rotation failed")
        { rotated with
          outcome := if rotated.outcome.ok then appended.outcome else rotated.outcome
          steps := appended.steps ++ rotated.steps }
      else appended := by
  rw [commit, if_neg h, advanced]
  dsimp only
  generalize Store.append _ .stateSnapshot state.encode now faults = appended
  by_cases hok : appended.outcome.ok = true
  · by_cases hrotates : appended.store.rotates
    · have hboth : appended.outcome.ok = true ∧ appended.store.rotates := ⟨hok, hrotates⟩
      rw [if_pos hok, if_pos hrotates, if_pos hboth, rotation]
      generalize appended.store.writeSnapshot state now faults = written
      by_cases hwritten : written.outcome.ok = true
      · rw [if_pos hwritten, if_pos hwritten]
        split
        · rfl
        · rfl
      · rw [if_neg hwritten, if_neg hwritten, if_neg hwritten]
    · have hboth : ¬ (appended.outcome.ok = true ∧ appended.store.rotates) := fun h => hrotates h.2
      rw [if_pos hok, if_neg hrotates, if_neg hboth]
  · have hboth : ¬ (appended.outcome.ok = true ∧ appended.store.rotates) := fun h => hok h.1
    rw [if_neg hok, if_neg hboth]

theorem rotation_works (store : Store) (now : Tick) (detail : Bytes) (h : SnapshotWorks faults)
    (htruncate : faults.truncate = false) (hfits : state.encode.length ≤ store.options.limits.maxSnapshotBytes.toNat) :
    ∃ token, store.rotation state now faults detail =
      { outcome := .success token .ok
        store :=
          { store with
            written := store.written + (snapshotFile state now).length
            entryCount := 0
            journalSize := 0 }
        steps := [.openTemp, .writeTemp (snapshotFile state now), .rename, .truncateJournal] } := by
  obtain ⟨token, hwrite⟩ := writeSnapshot_works store now h hfits
  refine ⟨token, ?_⟩
  rw [rotation, hwrite, truncateJournal, htruncate]
  rfl

/-- A call leaves the options alone. -/
theorem rotation_options (detail : Bytes) : (store.rotation state now faults detail).store.options = store.options := by
  have hview := store.writeSnapshot_view state now faults
  rw [rotation]
  generalize store.writeSnapshot state now faults = written at hview ⊢
  have hwritten : written.store.options = store.options := by
    cases hview with
    | failed reason detail steps hsteps | wrote token rest hfits hrest => rfl
  split
  · rw [truncateJournal]
    split
    · exact hwritten
    · exact hwritten
  · exact hwritten

theorem commit_options (hopen : faults.journalOpen = false) :
    (store.commit state now notes faults).1.store.options = store.options := by
  by_cases hentry : store.options.limits.maxJournalEntryBytes.toNat < state.encode.length
  · rw [commit_oversized notes hentry, rotation_options]
    rfl
  · have hview : AppendView (store.advanced state) .stateSnapshot state.encode now faults _ :=
      append_view hopen (not_lt.mp hentry)
    rw [commit_fitting notes hentry]
    generalize (store.advanced state).append .stateSnapshot state.encode now faults = appended at hview ⊢
    have happended : appended.store.options = store.options := by
      cases hview with
      | refused reason detail hroom | torn reason detail kept hroom hfault | appended token hroom => rfl
    dsimp only
    split
    · rw [rotation_options, happended]
    · exact happended

/-- The commit of the state is not turned away for the size of the journal. -/
def Accepts (store : Store) (state : RegistryState) : Prop :=
  store.options.limits.maxJournalEntryBytes.toNat < state.encode.length ∨ store.HasRoom state.encode.length

instance (store : Store) (state : RegistryState) : Decidable (store.Accepts state) :=
  inferInstanceAs (Decidable (_ ∨ _))

/-- Without faults a commit returns a token exactly when the journal is not asked for more than its bounds. -/
theorem commit_ok_iff (hfits : state.encode.length ≤ store.options.limits.maxSnapshotBytes.toNat) :
    (store.commit state now notes {}).1.outcome.ok = true ↔ store.Accepts state := by
  have hworks : SnapshotWorks {} := ⟨rfl, rfl, rfl, rfl⟩
  by_cases hentry : store.options.limits.maxJournalEntryBytes.toNat < state.encode.length
  · obtain ⟨token, hrotation⟩ := rotation_works (store.advanced state) now (text "journal rotation failed")
      hworks rfl hfits
    rw [commit_oversized notes hentry, hrotation]
    exact ⟨fun _ => .inl hentry, fun _ => rfl⟩
  · have hview : AppendView (store.advanced state) .stateSnapshot state.encode now {} _ :=
      append_view rfl (not_lt.mp hentry)
    rw [commit_fitting notes hentry]
    generalize (store.advanced state).append .stateSnapshot state.encode now {} = appended at hview ⊢
    cases hview with
    | refused reason detail hroom =>
      refine ⟨fun h => Bool.noConfusion h, fun h => ?_⟩
      exact absurd (h.resolve_left hentry) hroom
    | torn reason detail kept hroom hfault => rcases hfault with h | h <;> cases h
    | appended token hroom =>
      refine ⟨fun _ => .inr hroom, fun _ => ?_⟩
      dsimp only
      split
      · obtain ⟨token, hrotation⟩ := rotation_works ((store.advanced state).counted
          ((store.advanced state).nextFrame .stateSnapshot state.encode now).length) now
          (text "journal rotation failed") hworks rfl hfits
        rw [hrotation]
        rfl
      · rfl

end Store

/-! ### Availability -/

/-- The store after a commit, with all file operations succeeding. -/
def Store.next (store : Store) (commit : RegistryState × Tick) : Store :=
  (store.commit commit.1 commit.2 [] {}).1.store

/-- Every commit of a run on a bound store returns a token exactly when the journal is never asked for more than its
    bounds: nothing is rotated because a bound is reached. -/
theorem commits_accepted_iff_room {options : StoreOptions} {disk : Disk} {store : Store} {reason : ReasonCode}
    (hbind : Store.bind options disk = .success store reason) {commits : List (RegistryState × Tick)}
    (hsize : ∀ commit ∈ commits, commit.1.encode.length ≤ options.limits.maxSnapshotBytes.toNat) :
    Runs.Along Store.next (fun store commit => (store.commit commit.1 commit.2 [] {}).1.outcome.ok = true) store commits ↔
      Runs.Along Store.next (fun store commit => store.Accepts commit.1) store commits := by
  have hoptions : store.options = options := by
    rw [Store.bind] at hbind
    split at hbind
    · cases hbind
    · cases hbind
      rfl
  clear hbind
  induction commits generalizing store with
  | nil => exact Iff.rfl
  | cons commit rest ih =>
    have hfirst := hsize commit mem_cons_self
    rw [← hoptions] at hfirst
    apply and_congr (Store.commit_ok_iff [] hfirst)
    apply ih fun commit hcommit => hsize commit (mem_cons_of_mem _ hcommit)
    rw [← hoptions]
    exact Store.commit_options [] rfl

/-- An empty registry at a store generation. -/
def Lab.stateAt (generation : StoreGeneration) : RegistryState := { storeGeneration := generation }

/-- Options for so many entries in the journal, and no compaction. -/
def Lab.room (entries : UInt64) : StoreOptions where
  basePath := text "registry"
  limits := { maxJournalEntries := entries }
  compactAfterEntries := 0

theorem commits_accepted_two :
    let commits := [(Lab.stateAt 1, (0 : Tick)), (Lab.stateAt 2, 1)]
    (∀ commit ∈ commits, commit.1.encode.length ≤ (Lab.room 2).limits.maxSnapshotBytes.toNat) ∧
      Runs.Along Store.next (fun store commit => (store.commit commit.1 commit.2 [] {}).1.outcome.ok = true)
        { options := Lab.room 2 } commits := by
  intro commits
  have hsize : ∀ commit ∈ commits, commit.1.encode.length ≤ (Lab.room 2).limits.maxSnapshotBytes.toNat := by
    decide +kernel
  have hbind : Store.bind (Lab.room 2) {} = .success { options := Lab.room 2 } .ok := rfl
  exact ⟨hsize, (commits_accepted_iff_room hbind hsize).mpr ⟨by decide +kernel, by decide +kernel, trivial⟩⟩

/-- The second commit is refused, with the reason that names a rotation, and nothing was rotated. -/
theorem commit_refused_at_entry_bound :
    Store.bind (Lab.room 1) {} = .success { options := Lab.room 1 } .ok ∧
      ({} : RegistryState).encode.length ≤ (Lab.room 1).limits.maxSnapshotBytes.toNat ∧
      (Store.commit { options := Lab.room 1 } {} 0 [] {}).1.outcome.ok = true ∧
      ((Store.next { options := Lab.room 1 } ({}, 0)).commit {} 1 [] {}).1 =
        { outcome := .failure .storeRotationPerformed (text "journal entry bound reached")
          store := Store.next { options := Lab.room 1 } ({}, 0)
          steps := [] } := by
  refine ⟨rfl, by decide +kernel, by decide +kernel, by decide +kernel⟩

/-! ### Snapshots that are opened again -/

/-- Writing the temporary file and renaming it, with or without removing the snapshot in between. -/
theorem after_wrote {store : Store} {faults : Faults} {rest : List FileStep} (h : store.Cleared faults rest)
    (disk : Disk) (file : Bytes) : disk.after (.openTemp :: .writeTemp file :: (rest ++ [.rename])) =
      { disk with snapshot := some file, temp := none } := by
  rcases h with rfl | ⟨rfl, -, -⟩
  · rfl
  · rfl

/-- The files after a snapshot for which a token was returned. -/
theorem after_writeSnapshot {store : Store} {state : RegistryState} {now : Tick} {faults : Faults} (disk : Disk)
    (htoken : (store.writeSnapshot state now faults).outcome.ok = true) :
    disk.after (store.writeSnapshot state now faults).steps =
      { disk with snapshot := some (snapshotFile state now), temp := none } := by
  have hview := store.writeSnapshot_view state now faults
  generalize store.writeSnapshot state now faults = written at hview htoken ⊢
  cases hview with
  | failed reason detail steps hsteps => cases htoken
  | wrote token rest hfits hrest => exact after_wrote hrest disk _

theorem recovered_eq_some {outcome : Outcome OpenReport} {state : RegistryState}
    (h : recovered outcome = some state) : ∃ report reason, outcome = .success report reason ∧
      report.state = state := by
  cases outcome with
  | failure reason detail => cases h
  | success report reason =>
    rw [recovered] at h
    split at h
    · exact ⟨report, reason, rfl, Option.some.inj h⟩
    · cases h

theorem openStore_oversized {options : StoreOptions} {disk : Disk} {file : Bytes} (hbase : options.basePath ≠ [])
    (hsnapshot : disk.snapshot = some file) (h : options.limits.maxSnapshotBytes.toNat < file.length) :
    (openStore options disk).1 = .failure .storeOversized (text "file exceeds the configured bound") := by
  have hopen : openSnapshot options.limits (some file) =
      .error ⟨.storeOversized, text "file exceeds the configured bound"⟩ := by
    rw [openSnapshot, readWholeFile, if_pos h]
    rfl
  rw [openStore, if_neg hbase, hsnapshot]
  dsimp only
  rw [hopen]

/-- A snapshot for which a token was returned is opened again as the state it was written for exactly when the file,
    not only the encoded state, is within the bound. -/
theorem snapshot_reopened_iff_fits (store : Store) (state : RegistryState) (now : Tick) (faults : Faults) (disk : Disk)
    (hbase : store.options.basePath ≠ []) (hjournal : disk.journal = none) (hstate : state.Decodable)
    (htoken : (store.writeSnapshot state now faults).outcome.ok = true) :
    (∃ report reason,
        (openStore store.options (disk.after (store.writeSnapshot state now faults).steps)).1 = .success report reason ∧
          report.state = state) ↔
      state.encode.length + (kSnapshotHeaderSize + kSnapshotFooterSize) ≤
        store.options.limits.maxSnapshotBytes.toNat := by
  rw [after_writeSnapshot disk htoken]
  constructor
  · rintro ⟨report, reason, hopen, -⟩
    by_contra hlong
    have hover : store.options.limits.maxSnapshotBytes.toNat < (snapshotFile state now).length := by
      rw [length_snapshotFile]
      exact not_le.mp hlong
    rw [openStore_oversized hbase rfl hover] at hopen
    cases hopen
  · intro hshort
    have hshown : ({ snapshot := some (state, now) } : Image).Shown store.options.limits
        { disk with snapshot := some (snapshotFile state now), temp := none } := by
      constructor
      · rfl
      · rintro snapshot ⟨⟩
        exact hstate
      · rintro snapshot ⟨⟩
        exact hshort
      · rw [Disk.journalBytes, hjournal]
        rfl
      · intro entry hentry
        cases hentry
      · exact IsChain.nil
      · exact .inl rfl
      · rw [Disk.journalBytes, hjournal]
        exact Nat.zero_le _
    exact recovered_eq_some (hshown.recovered_eq hbase)

theorem Lab.stateAt_decodable (generation : StoreGeneration) : (Lab.stateAt generation).Decodable := by
  apply RegistryState.WF.decodable
  constructor <;> simp [Lab.stateAt, sourcesAscending]
  constructor <;> simp

/-- Options whose snapshot bound is exactly the size of the encoded state. -/
def Lab.tight : StoreOptions where
  basePath := text "registry"
  limits := { maxSnapshotBytes := UInt64.ofNat (Lab.stateAt 1).encode.length }

theorem snapshot_reopened_default :
    (Store.writeSnapshot { options := { basePath := text "registry" } } (Lab.stateAt 1) 0 {}).outcome.ok = true ∧
      ∃ report reason,
        (openStore { basePath := text "registry" } (Disk.after {}
          (Store.writeSnapshot { options := { basePath := text "registry" } } (Lab.stateAt 1) 0 {}).steps)).1 =
            .success report reason ∧ report.state = Lab.stateAt 1 := by
  have htoken : (Store.writeSnapshot { options := { basePath := text "registry" } } (Lab.stateAt 1) 0 {}).outcome.ok =
    true := by decide +kernel
  exact ⟨htoken, (snapshot_reopened_iff_fits { options := { basePath := text "registry" } } (Lab.stateAt 1) 0 {} {}
    (by decide) rfl (Lab.stateAt_decodable 1) htoken).mpr (by decide +kernel)⟩

/-- A token is returned for a snapshot that is refused when the store is opened again. -/
theorem snapshot_written_not_reopened :
    (Lab.stateAt 1).Decodable ∧
      (Store.writeSnapshot { options := Lab.tight } (Lab.stateAt 1) 0 {}).outcome.ok = true ∧
      (openStore Lab.tight (Disk.after {} (Store.writeSnapshot { options := Lab.tight }
          (Lab.stateAt 1) 0 {}).steps)).1 =
        .failure .storeOversized (text "file exceeds the configured bound") := by
  have htoken : (Store.writeSnapshot { options := Lab.tight } (Lab.stateAt 1) 0 {}).outcome.ok = true := by
    decide +kernel
  have hlong : Lab.tight.limits.maxSnapshotBytes.toNat < (snapshotFile (Lab.stateAt 1) 0).length := by
    rw [length_snapshotFile]
    decide +kernel
  refine ⟨Lab.stateAt_decodable 1, htoken, ?_⟩
  rw [after_writeSnapshot {} htoken]
  exact openStore_oversized (by decide) rfl hlong

end Ocreg
