/-
Module: Ocreg.Proofs.Crashes
Purpose: Stopping in the middle of a commit or a compaction: at every point on the way the store opens with the last
  acknowledged state or with the one being written, as long as a failed rename leaves something to fall back on.
-/
import Ocreg.Proofs.Durability

namespace Ocreg

open List Lab World

variable {rest : List FileStep} {limits : StoreLimits} {image : Image}

/-! ### Where a call may stop -/

/-- The files at every point at which the process may stop during a call. -/
def World.stopsIn (w : World) : StoreOp → List Disk
  | .commit state now faults => w.disk.stops (w.store.commit state now [] faults).1.steps
  | .compact state now faults => w.disk.stops (w.store.compact state now faults).steps
  | .reopen _ => [w.disk]

/-- The state a call writes. -/
def StoreOp.writing : StoreOp → Option RegistryState
  | .commit state _ _ => some state
  | .compact state _ _ => some state
  | .reopen _ => none

namespace Disk

variable {disk d : Disk}

theorem stops_append (disk : Disk) (first rest : List FileStep) :
    d ∈ disk.stops (first ++ rest) ↔ d ∈ disk.stops first ∨ d ∈ (disk.after first).stops rest := by
  induction first generalizing disk with
  | nil =>
    have hstart : disk ∈ disk.stops rest := by
      cases rest with
      | nil => exact mem_singleton_self _
      | cons step steps => exact mem_cons_self
    constructor
    · exact fun h => .inr h
    · rintro (h | h)
      · rw [mem_singleton.mp h]
        exact hstart
      · exact h
  | cons step first ih =>
    rw [cons_append, stops, stops, mem_cons, mem_append, mem_cons, mem_append,
      ih (step.apply disk), or_assoc, or_assoc]
    rfl

/-- Stopping while an entry is appended leaves a part of it. -/
theorem stops_appending {bytes : Bytes} (h : d ∈ disk.stops [.openJournal, .appendJournal bytes]) :
    d.snapshot = disk.snapshot ∧ ∃ kept, d.journalBytes = disk.journalBytes ++ bytes.take kept := by
  simp only [stops, FileStep.during, FileStep.apply, nil_append, mem_cons, mem_append, mem_map,
    mem_inits, not_mem_nil, or_false] at h
  rcases h with rfl | rfl | ⟨part, hpart, rfl⟩ | rfl
  · exact ⟨rfl, 0, by simp⟩
  · exact ⟨rfl, 0, by simp [journalBytes]⟩
  · refine ⟨rfl, part.length, ?_⟩
    rw [← prefix_iff_eq_take.mp hpart]
    rfl
  · refine ⟨rfl, bytes.length, ?_⟩
    rw [take_length]
    rfl

/-- Stopping while a snapshot is put in place and the journal truncated. -/
theorem stops_rotating {file : Bytes} (hrest : rest = [] ∨ rest = [.removeSnapshot])
    (h : d ∈ disk.stops (.openTemp :: .writeTemp file :: (rest ++ [.rename, .truncateJournal]))) :
    d.snapshot = disk.snapshot ∧ d.journalBytes = disk.journalBytes ∨
      rest ≠ [] ∧ d.snapshot = none ∧ d.journalBytes = disk.journalBytes ∨
      d.snapshot = some file ∧ d.journalBytes = disk.journalBytes ∨
      d.snapshot = some file ∧ d.journalBytes = [] := by
  rcases hrest with rfl | rfl
  · simp only [stops, FileStep.during, FileStep.apply, nil_append, mem_cons, mem_append, mem_map,
      not_mem_nil, or_false] at h
    rcases h with rfl | rfl | ⟨part, -, rfl⟩ | rfl | rfl | rfl
    iterate 4 exact .inl ⟨rfl, rfl⟩
    · exact .inr (.inr (.inl ⟨rfl, rfl⟩))
    · exact .inr (.inr (.inr ⟨rfl, rfl⟩))
  · simp only [stops, FileStep.during, FileStep.apply, nil_append, cons_append, mem_cons,
      mem_append, mem_map, not_mem_nil, or_false] at h
    rcases h with rfl | rfl | ⟨part, -, rfl⟩ | rfl | rfl | rfl | rfl
    iterate 4 exact .inl ⟨rfl, rfl⟩
    · exact .inr (.inl ⟨cons_ne_nil _ _, rfl, rfl⟩)
    · exact .inr (.inr (.inl ⟨rfl, rfl⟩))
    · exact .inr (.inr (.inr ⟨rfl, rfl⟩))

end Disk

/-! ### What is recovered there -/

namespace Image

variable {options : StoreOptions} {disk d : Disk} {state : RegistryState} {now : Tick}

theorem Shown.congr (h : image.Shown limits disk) (hsnapshot : d.snapshot = disk.snapshot)
    (hjournal : d.journalBytes = disk.journalBytes) : image.Shown limits d :=
  { h with
    snapshot := hsnapshot.trans h.snapshot, journal := hjournal.trans h.journal, bound := hjournal ▸ h.bound }

theorem Shown.remove (h : image.Shown limits disk) (hsnapshot : d.snapshot = none)
    (hjournal : d.journalBytes = disk.journalBytes) : ({ image with snapshot := none } : Image).Shown limits d :=
  { h with
    snapshot := hsnapshot
    decodable := nofun
    fits := nofun
    journal := hjournal.trans h.journal
    bound := hjournal ▸ h.bound }

/-- The last entry of the journal is no older than the snapshot. -/
def JournalNewer (image : Image) : Prop :=
  ∀ last ∈ image.entries.getLast?, ∀ snapshot ∈ image.snapshot,
    snapshot.1.storeGeneration ≤ last.state.storeGeneration

/-- With entries that are newer, the store does not need its snapshot. -/
theorem value_remove (hnewer : image.JournalNewer) (hentries : image.entries ≠ []) :
    ({ image with snapshot := none } : Image).value = image.value := by
  obtain ⟨last, hlast⟩ := Option.isSome_iff_exists.mp (List.getLast?_isSome.mpr hentries)
  rw [value, value, hlast]
  cases hsnapshot : image.snapshot with
  | none => rfl
  | some snapshot => exact (if_pos (hnewer last hlast snapshot hsnapshot)).symm

/-- A new snapshot is what the store holds, unless its own state is already in the journal. -/
theorem value_publish
    (h : ∀ last ∈ image.entries.getLast?, last.state = state ∨ last.state.storeGeneration < state.storeGeneration) :
    ({ image with snapshot := some (state, now) } : Image).value = some state := by
  rw [value]
  cases hlast : image.entries.getLast? with
  | none => rfl
  | some last =>
    dsimp only
    rcases h last hlast with hsame | hless
    · rw [hsame, if_pos (le_refl _)]
    · rw [if_neg (not_le.mpr hless)]

/-- Wherever a rotation stops, the store opens with what it held or with the state being written. -/
theorem Shown.rotation_stops (h : image.Shown options.limits disk) (hbase : options.basePath ≠ [])
    (hstate : Storable options.limits state) (hnewer : image.JournalNewer)
    (hlast : ∀ last ∈ image.entries.getLast?, last.state = state ∨ last.state.storeGeneration < state.storeGeneration)
    (hrest : rest = [] ∨ rest = [.removeSnapshot] ∧ image.entries ≠ [])
    (hd : d ∈ disk.stops (.openTemp :: .writeTemp (snapshotFile state now) :: (rest ++ [.rename, .truncateJournal]))) :
    recovered (openStore options d).1 = image.value ∨ recovered (openStore options d).1 = some state := by
  have hshape : rest = [] ∨ rest = [.removeSnapshot] := hrest.imp_right And.left
  rcases Disk.stops_rotating hshape hd with hsame | ⟨hremoved, hnone, hjournal⟩ | ⟨hfile, hjournal⟩ | ⟨hfile, hjournal⟩
  · left
    exact (h.congr hsame.1 hsame.2).recovered_eq hbase
  · left
    have hentries := (hrest.resolve_left hremoved).2
    rw [(h.remove hnone hjournal).recovered_eq hbase, value_remove hnewer hentries]
  · right
    rw [(h.publish hstate hfile hjournal).recovered_eq hbase, value_publish hlast]
  · right
    exact (shown_rotated hstate hfile hjournal).recovered_eq hbase

end Image

/-! ### Calls in which only renames fail -/

/-- Only renames fail, without effect. -/
def Faults.OnlyRename (faults : Faults) : Prop :=
  faults = { rename := faults.rename, renameAgain := faults.renameAgain }

namespace Store

variable {store : Store} {state : RegistryState} {now : Tick} {faults : Faults}

/-- A rotation goes through, or ends with the second rename, or with the first when nothing is synchronised. -/
inductive RotationView (store : Store) (state : RegistryState) (now : Tick) (faults : Faults) : Call → Prop
  | done (token : CommitToken) (rest : List FileStep) (hrest : store.Cleared faults rest) :
      RotationView store state now faults
        { outcome := .success token .ok
          store :=
            { store with
              written := store.written + (snapshotFile state now).length
              entryCount := 0
              journalSize := 0 }
          steps := .openTemp :: .writeTemp (snapshotFile state now) :: (rest ++ [.rename, .truncateJournal]) }
  | undone (reason : ReasonCode) (detail : Bytes) (rest : List FileStep) (hrest : store.Cleared faults rest)
      (hrename : faults.rename = true) (hagain : store.options.syncOnCommit = true → faults.renameAgain = true) :
      RotationView store state now faults
        (store.fails reason detail (.openTemp :: .writeTemp (snapshotFile state now) :: rest))

/-- Where a rotation stops, one that goes through could stop too. -/
theorem RotationView.stops {disk d : Disk} (hview : RotationView store state now faults call)
    (hd : d ∈ disk.stops call.steps) : ∃ rest, store.Cleared faults rest ∧
      d ∈ disk.stops (.openTemp :: .writeTemp (snapshotFile state now) :: (rest ++ [.rename, .truncateJournal])) := by
  cases hview with
  | done token rest hrest => exact ⟨rest, hrest, hd⟩
  | undone reason detail rest hrest hrename hagain =>
    -- the steps that were made are the first ones of a rotation that goes through
    exact ⟨rest, hrest, (Disk.stops_append disk _ [.rename, .truncateJournal]).mpr (.inl hd)⟩

theorem rotation_view (detail : Bytes) (hfaults : faults.OnlyRename)
    (hfits : state.encode.length ≤ store.options.limits.maxSnapshotBytes.toNat) :
    RotationView store state now faults (store.rotation state now faults detail) := by
  obtain ⟨hopen, hwrite, hsync, hremove, htruncate⟩ : faults.tempOpen = false ∧ faults.tempWrite = none ∧
      faults.tempSync = none ∧ faults.remove = false ∧ faults.truncate = false := by
    rw [hfaults]
    exact ⟨rfl, rfl, rfl, rfl, rfl⟩
  have hnosync : store.synced none = none := by simp [synced]
  simp only [rotation, writeSnapshot, if_neg (not_lt.mpr hfits), hopen, hwrite, hsync, hnosync, Bool.false_eq_true,
    if_false, publish, hremove, truncateJournal, htruncate]
  cases hrename : faults.rename with
  | false => exact .done _ [] (.inl rfl)
  | true =>
    cases hmode : store.options.syncOnCommit with
    | false =>
      refine .undone _ _ [] (.inl rfl) hrename ?_
      rw [hmode]
      exact fun h => Bool.noConfusion h
    | true =>
      cases hagain : faults.renameAgain with
      | false => exact .done _ [.removeSnapshot] (.inr ⟨rfl, hrename, hmode⟩)
      | true => exact .undone _ _ [.removeSnapshot] (.inr ⟨rfl, hrename, hmode⟩) hrename (fun _ => hagain)

section

variable (store : Store) (state : RegistryState) (now : Tick) (faults : Faults)

/-- What a commit can do when only renames fail. -/
inductive CrashView : Call → Prop
  | refused (reason : ReasonCode) (detail : Bytes) :
      CrashView ((store.advanced state).fails reason detail [])
  | snapshot (call : Call) (hlarge : store.options.limits.maxJournalEntryBytes.toNat < state.encode.length)
      (hview : (store.advanced state).RotationView state now faults call) : CrashView call
  | appended (token : CommitToken) (hroom : store.HasRoom state.encode.length) (hleaves : store.LeavesEntry state) :
      CrashView
        (store.journalCall state now token)
  | both (token : CommitToken) (rotated : Call) (hroom : store.HasRoom state.encode.length)
      (hfit : state.encode.length ≤ store.options.limits.maxJournalEntryBytes.toNat)
      (hleaves : ¬ store.LeavesEntry state)
      (hview : ((store.advanced state).counted (store.entryOf state now).frame.length).RotationView state now faults
        rotated) :
      CrashView
        { rotated with
          outcome := if rotated.outcome.ok then .success token .ok else rotated.outcome
          steps := [.openJournal, .appendJournal (store.entryOf state now).frame] ++ rotated.steps }

end

theorem commit_crash_view (hfaults : faults.OnlyRename)
    (hfits : state.encode.length ≤ store.options.limits.maxSnapshotBytes.toNat) :
    CrashView store state now faults (store.commit state now [] faults).1 := by
  by_cases hentry : store.options.limits.maxJournalEntryBytes.toNat < state.encode.length
  · rw [commit_oversized [] hentry]
    exact .snapshot _ hentry (rotation_view _ hfaults hfits)
  · have hopen : faults.journalOpen = false := by rw [hfaults]
    have hview : AppendView (store.advanced state) .stateSnapshot state.encode now faults _ :=
      append_view hopen (not_lt.mp hentry)
    rw [commit_fitting [] hentry]
    generalize (store.advanced state).append .stateSnapshot state.encode now faults = appended at hview ⊢
    cases hview with
    | refused reason detail hroom => exact .refused reason detail
    | torn reason detail kept hroom hfault =>
      rw [hfaults] at hfault
      rcases hfault with h | h <;> cases h
    | appended token hroom =>
      dsimp only
      split
      · rename_i hrotates
        exact .both token _ hroom (not_lt.mp hentry) (fun hleaves => hleaves.2 hrotates.2)
          (rotation_view _ hfaults hfits)
      · rename_i hkeeps
        exact .appended token hroom ⟨not_lt.mp hentry, fun hrotates => hkeeps ⟨rfl, hrotates⟩⟩

end Store

/-! ### Runs of calls -/

/-- Commits and compactions of states of ever later generations; only renames fail. -/
def CrashOp (w : World) : StoreOp → Prop
  | .commit state _ faults => faults.OnlyRename ∧ w.Advances state
  | .compact state _ faults => faults.OnlyRename ∧ w.Advances state
  | .reopen _ => False

/-- The state is read back from where it is written, its sequence number does not wrap, and a rename that fails does
    no harm. When the state goes to the snapshot alone, either the old snapshot is not removed or the journal has the
    latest state. When it was appended to the journal before, the second rename works. -/
def SafeCall (w : World) : StoreOp → Prop
  | .commit state _ faults => Storable w.store.options.limits state ∧ w.store.sequence < w.store.sequence + 1 ∧
      (faults.rename = true → ¬ w.store.LeavesEntry state →
        if state.encode.length ≤ w.store.options.limits.maxJournalEntryBytes.toNat then
          w.store.options.syncOnCommit = true ∧ faults.renameAgain = false
        else w.store.options.syncOnCommit = false ∨ w.store.entryCount ≠ 0)
  | .compact state _ faults => Storable w.store.options.limits state ∧
      (faults.rename = true → w.store.options.syncOnCommit = false ∨ w.store.entryCount ≠ 0)
  | .reopen _ => True

/-- The journal is counted and numbered as the store has it, and is what the store would be opened from. -/
structure World.Steady (limits : StoreLimits) (w : World) (image : Image) : Prop extends w.Settled limits image where
  numbered : ∀ entry ∈ image.entries, entry.sequence ≤ w.store.sequence
  count : w.store.entryCount = image.entries.length
  newer : image.JournalNewer

/-- A store that differs only in what a commit sets before it writes. -/
structure Store.Alike (a b : Store) : Prop where
  options : a.options = b.options
  sequence : a.sequence = b.sequence
  entryCount : a.entryCount = b.entryCount
  journalSize : a.journalSize = b.journalSize

namespace World

variable {w : World} {state : RegistryState} {now : Tick} {faults : Faults} {store : Store} {call : Call} {d : Disk}
  {options : StoreOptions}

theorem Steady.last_earlier (h : w.Steady limits image) (hadvances : w.Advances state) :
    ∀ last ∈ image.entries.getLast?, last.state = state ∨ last.state.storeGeneration < state.storeGeneration :=
  fun last hlast => .inr ((h.holds.earlier hadvances).entries last (mem_of_getLast? hlast))

/-- After a rotation the store holds the state in its snapshot and nothing in the journal. -/
theorem Steady.rotated (h : w.Steady limits image) (hstate : Storable limits state)
    (hoptions : call.store.options = w.store.options) (hcount : call.store.entryCount = 0)
    (hsize : call.store.journalSize = 0) (hok : call.outcome.ok = true)
    (hafter : ∀ disk : Disk, disk.after call.steps =
      { snapshot := some (snapshotFile state now), journal := some [], temp := none }) :
    (w.called state call).Steady limits { snapshot := some (state, now) } where
  holds := h.holds.rotated hstate hoptions hafter
  aligned := by
    refine ⟨?_, rfl⟩
    rw [called, hafter]
    exact hsize
  latest := (if_pos hok).symm
  numbered := nofun
  count := hcount
  newer := by
    rintro last ⟨⟩

/-- What a rotation needs when a rename fails in it. -/
def Fallback (w : World) (faults : Faults) : Prop :=
  faults.rename = true → w.store.options.syncOnCommit = false ∨ w.store.entryCount ≠ 0

section

variable (h : w.Steady limits image)

include h

theorem Steady.cleared (halike : store.Alike w.store) (hfallback : w.Fallback faults)
    (hrest : store.Cleared faults rest) : rest = [] ∨ rest = [.removeSnapshot] ∧ image.entries ≠ [] := by
  rcases hrest with rfl | ⟨rfl, hrename, hsync⟩
  · exact .inl rfl
  · right
    refine ⟨rfl, ?_⟩
    rw [halike.options] at hsync
    have hcount := (hfallback hrename).resolve_left (by simp [hsync])
    rw [h.count] at hcount
    exact ne_nil_of_length_pos (Nat.pos_of_ne_zero hcount)

theorem Steady.rotate (halike : store.Alike w.store) (hstate : Storable limits state) (hadvances : w.Advances state)
    (hfallback : w.Fallback faults) (hview : store.RotationView state now faults call) :
    ∃ image', (w.called state call).Steady limits image' := by
  cases hview with
  | done token rest hrest =>
    refine ⟨{ snapshot := some (state, now) }, h.rotated hstate halike.options rfl rfl rfl ?_⟩
    intro disk
    rcases hrest with rfl | ⟨rfl, -, -⟩
    · rfl
    · rfl
  | undone reason detail rest hrest hrename hagain =>
    have hknown := h.holds.known_later hadvances
    have hsize : store.journalSize = w.disk.journalBytes.length := halike.journalSize.trans h.aligned.size
    have hlimits := (congrArg StoreOptions.limits halike.options).trans h.holds.limits_eq
    have hbase := (congrArg StoreOptions.basePath halike.options).trans_ne h.holds.base
    rcases h.cleared halike hfallback hrest with rfl | ⟨rfl, hentries⟩
    · -- only the temporary file is there
      refine ⟨image, ⟨⟨⟨h.holds.shown.congr rfl rfl, hlimits, hbase, hknown _⟩, ⟨hsize, h.aligned.tail⟩, h.latest⟩,
        ?_, halike.entryCount.trans h.count, h.newer⟩⟩
      exact fun entry hentry => halike.sequence ▸ h.numbered entry hentry
    · -- the snapshot is gone, and the journal has the latest state
      refine ⟨{ image with snapshot := none }, ⟨⟨⟨h.holds.shown.remove rfl rfl, hlimits, hbase, ?_⟩,
        ⟨hsize, h.aligned.tail⟩, ?_⟩, ?_, halike.entryCount.trans h.count, ?_⟩⟩
      · refine ⟨?_, (hknown _).entries⟩
        rintro snapshot ⟨⟩
      · exact (Image.value_remove h.newer hentries).trans h.latest
      · exact fun entry hentry => halike.sequence ▸ h.numbered entry hentry
      · rintro last - snapshot ⟨⟩

/-- An entry the store appends is newer than everything before it. -/
theorem Steady.append_newer (hadvances : w.Advances state) :
    (image.append (w.store.entryOf state now)).JournalNewer := by
  intro last hlast snapshot hsnapshot
  rw [Image.append, List.getLast?_concat] at hlast
  cases hlast
  exact le_of_lt ((h.holds.earlier hadvances).snapshot snapshot hsnapshot)

theorem Steady.value_append (hadvances : w.Advances state) :
    (image.append (w.store.entryOf state now)).value = some state :=
  Image.value_append (fun s hs => le_of_lt ((h.holds.earlier hadvances).snapshot s hs))

theorem Steady.append (hlimits : limits.NoWrap) (hstate : Storable limits state) (hadvances : w.Advances state)
    (hwrap : w.store.sequence < w.store.sequence + 1) (hroom : w.store.HasRoom state.encode.length)
    (hleaves : w.store.LeavesEntry state) (token : CommitToken) : (w.called state
      { outcome := .success token .ok
        store := (w.store.advanced state).counted (w.store.entryOf state now).frame.length
        steps := [.openJournal, .appendJournal (w.store.entryOf state now).frame] }).Steady limits
      (image.append (w.store.entryOf state now)) := by
  have hsequence : ∀ last ∈ image.entries.getLast?, last.sequence < w.store.sequence + 1 :=
    fun last hlast => lt_of_le_of_lt (h.numbered last (mem_of_getLast? hlast)) hwrap
  refine ⟨h.toSettled.appended hlimits hstate hadvances hroom hleaves hsequence token, ?_, ?_,
    h.append_newer hadvances⟩
  · exact forall_mem_append.mpr ⟨fun entry hold => (h.numbered entry hold).trans hwrap.le,
      forall_mem_singleton.mpr le_rfl⟩
  · change w.store.entryCount + 1 = _
    rw [h.count, Image.append, length_append, length_singleton]

end

theorem steady_fresh (hlimits : options.limits = limits) (hbase : options.basePath ≠ []) :
    (fresh options).Steady limits {} where
  toSettled := settled_fresh hlimits hbase
  numbered := nofun
  count := rfl
  newer := by
    rintro last ⟨⟩

/-- Stopping in a rotation, whether it would have gone through or not. -/
theorem Steady.stops_rotate (h : w.Steady options.limits image) (hbase : options.basePath ≠ [])
    (hstate : Storable options.limits state) (hadvances : w.Advances state) (halike : store.Alike w.store)
    (hfallback : w.Fallback faults) (hview : store.RotationView state now faults call)
    (hd : d ∈ w.disk.stops call.steps) :
    recovered (openStore options d).1 = w.latest ∨ recovered (openStore options d).1 = some state := by
  rw [← h.latest]
  obtain ⟨rest, hrest, hd⟩ := hview.stops hd
  exact h.holds.shown.rotation_stops hbase hstate h.newer (h.last_earlier hadvances)
    (h.cleared halike hfallback hrest) hd

section Appending

variable (h : w.Steady options.limits image) (hlimits : options.limits.NoWrap)
  (hstate : Storable options.limits state) (hadvances : w.Advances state)
  (hwrap : w.store.sequence < w.store.sequence + 1) (hroom : w.store.HasRoom state.encode.length)
  (hfit : state.encode.length ≤ options.limits.maxJournalEntryBytes.toNat)
include h hlimits hstate hadvances hwrap hroom hfit

theorem Steady.shown_append (hjournal : d.journalBytes = w.disk.journalBytes ++ (w.store.entryOf state now).frame)
    (hsnapshot : d.snapshot = w.disk.snapshot) :
    (image.append (w.store.entryOf state now)).Shown options.limits d := by
  have hbound := h.holds.room hlimits h.aligned hroom (le_refl (w.store.entryOf state now).frame.length)
  rw [← hjournal] at hbound
  refine h.holds.shown.append h.aligned.tail (hstate.readable hfit _ _) ?_ hsnapshot hjournal hbound
  intro last hlast
  have hmem := mem_of_getLast? hlast
  exact ⟨lt_of_le_of_lt (h.numbered last hmem) hwrap, le_of_lt ((h.holds.earlier hadvances).entries last hmem)⟩

/-- Stopping while an entry is appended. -/
theorem Steady.stops_append (hbase : options.basePath ≠ [])
    (hd : d ∈ w.disk.stops [.openJournal, .appendJournal (w.store.entryOf state now).frame]) :
    recovered (openStore options d).1 = w.latest ∨ recovered (openStore options d).1 = some state := by
  obtain ⟨hsnapshot, kept, hjournal⟩ := Disk.stops_appending hd
  by_cases hkept : kept < (w.store.entryOf state now).frame.length
  · left
    have hbound := h.holds.room hlimits h.aligned hroom (length_take_le' kept (w.store.entryOf state now).frame)
    rw [← hjournal] at hbound
    have hcut := h.holds.shown.cut h.aligned.tail (hstate.readable hfit _ _) hkept hsnapshot hjournal hbound
    exact (hcut.recovered_eq hbase).trans h.latest
  · right
    rw [take_of_length_le (not_lt.mp hkept)] at hjournal
    have hwhole := h.shown_append hlimits hstate hadvances hwrap hroom hfit hjournal hsnapshot
    exact (hwhole.recovered_eq hbase).trans (h.value_append hadvances)

/-- Stopping in the rotation after an entry was appended. -/
theorem Steady.stops_both (hbase : options.basePath ≠ [])
    (hview : Store.RotationView ((w.store.advanced state).counted
        (w.store.entryOf state now).frame.length) state now faults
      call)
    (hd : d ∈ (w.disk.after [.openJournal, .appendJournal (w.store.entryOf state now).frame]).stops call.steps) :
    recovered (openStore options d).1 = some state := by
  have hshown : (image.append (w.store.entryOf state now)).Shown options.limits
      (w.disk.after [.openJournal, .appendJournal (w.store.entryOf state now).frame]) :=
    h.shown_append hlimits hstate hadvances hwrap hroom hfit rfl rfl
  have hlast : ∀ last ∈ (image.append (w.store.entryOf state now)).entries.getLast?,
      last.state = state ∨ last.state.storeGeneration < state.storeGeneration := by
    intro last hlast
    rw [Image.append, List.getLast?_concat] at hlast
    cases hlast
    exact .inl rfl
  obtain ⟨rest, hrest, hd⟩ := hview.stops hd
  have hstop := hshown.rotation_stops hbase hstate (h.append_newer hadvances) hlast
    (hrest.imp_right (fun hrest => ⟨hrest.1, by simp [Image.append]⟩)) hd
  rw [h.value_append hadvances] at hstop
  exact hstop.elim id id

end Appending

/-- The store after a call, and at every point on the way. -/
def Survives (options : StoreOptions) (w : World) (op : StoreOp) : Prop :=
  (∃ image, (w.step op).Steady options.limits image) ∧
    ∀ d ∈ w.stopsIn op,
      recovered (openStore options d).1 = w.latest ∨ recovered (openStore options d).1 = op.writing

section

variable (h : w.Steady options.limits image) (hbase : options.basePath ≠ [])
include h hbase

theorem Steady.compact (hop : CrashOp w (.compact state now faults)) (hsafe : SafeCall w (.compact state now faults)) :
    w.Survives options (.compact state now faults) := by
  obtain ⟨hfaults, hadvances⟩ := hop
  obtain ⟨hstate, hfallback⟩ := hsafe
  have hview : w.store.RotationView state now faults _ :=
    Store.rotation_view (text "journal truncation failed") hfaults (Nat.le_of_add_right_le hstate.file)
  rw [h.holds.limits_eq] at hstate
  have halike : w.store.Alike w.store := ⟨rfl, rfl, rfl, rfl⟩
  exact ⟨h.rotate halike hstate hadvances hfallback hview,
    fun d hd => h.stops_rotate hbase hstate hadvances halike hfallback hview hd⟩

theorem Steady.commit (hlimits : options.limits.NoWrap) (hop : CrashOp w (.commit state now faults))
    (hsafe : SafeCall w (.commit state now faults)) : w.Survives options (.commit state now faults) := by
  obtain ⟨hfaults, hadvances⟩ := hop
  obtain ⟨hstate, hwrap, hrenames⟩ := hsafe
  have hview : Store.CrashView w.store state now faults _ :=
    Store.commit_crash_view hfaults (Nat.le_of_add_right_le hstate.file)
  have heq := h.holds.limits_eq
  rw [heq] at hstate
  have hlatest := (h.holds.shown.recovered_eq hbase).trans h.latest
  rw [Survives, step, stopsIn]
  generalize (w.store.commit state now [] faults).1 = call at hview ⊢
  cases hview with
  | refused reason detail =>
    refine ⟨⟨image, ⟨⟨h.holds.refused hadvances reason detail, ⟨h.aligned.size, h.aligned.tail⟩, h.latest⟩,
      h.numbered, h.count, h.newer⟩⟩, ?_⟩
    intro d hd
    rw [mem_singleton.mp hd]
    exact .inl hlatest
  | snapshot call hlarge hview =>
    have halike : (w.store.advanced state).Alike w.store := ⟨rfl, rfl, rfl, rfl⟩
    have hfallback : w.Fallback faults := by
      intro hrename
      have hneeds := hrenames hrename (fun hleaves => absurd hleaves.1 (not_le.mpr hlarge))
      rwa [if_neg (not_le.mpr hlarge)] at hneeds
    exact ⟨h.rotate halike hstate hadvances hfallback hview,
      fun d hd => h.stops_rotate hbase hstate hadvances halike hfallback hview hd⟩
  | appended token hroom hleaves =>
    have hfit := hleaves.1
    rw [heq] at hfit
    exact ⟨⟨_, h.append hlimits hstate hadvances hwrap hroom hleaves token⟩,
      fun d hd => h.stops_append hlimits hstate hadvances hwrap hroom hfit hbase hd⟩
  | both token rotated hroom hfit hleaves hview =>
    have hneeds : faults.rename = true → w.store.options.syncOnCommit = true ∧ faults.renameAgain = false := by
      intro hrename
      have hneeds := hrenames hrename hleaves
      rwa [if_pos hfit] at hneeds
    rw [heq] at hfit
    refine ⟨?_, ?_⟩
    · cases hview with
      | done token' rest hrest =>
        refine ⟨{ snapshot := some (state, now) }, h.rotated hstate rfl rfl rfl rfl ?_⟩
        intro disk
        rcases hrest with rfl | ⟨rfl, -, -⟩
        · rfl
        · rfl
      | undone reason detail rest hrest hrename hagain =>
        obtain ⟨hsync, hworks⟩ := hneeds hrename
        rw [hagain hsync] at hworks
        cases hworks
    · intro d hd
      rcases (Disk.stops_append w.disk _ _).mp hd with hfirst | hsecond
      · exact h.stops_append hlimits hstate hadvances hwrap hroom hfit hbase hfirst
      · exact .inr (h.stops_both hlimits hstate hadvances hwrap hroom hfit hbase hview hsecond)

end

end World

/-- Wherever a commit or compaction stops, after any run of them, the store opens with the state of the last one that
    returned a token or with the state being written, and with the former when it stops between two calls. -/
theorem stopped_store_recovers {options : StoreOptions} (hbase : options.basePath ≠ [])
    (hlimits : options.limits.NoWrap) {calls : List StoreOp} {op : StoreOp}
    (h : Runs.Along step (fun w op => CrashOp w op ∧ SafeCall w op) (fresh options) (calls ++ [op])) :
    recovered (openStore options (calls.foldl step (fresh options)).disk).1 =
        (calls.foldl step (fresh options)).latest ∧
      ∀ d ∈ (calls.foldl step (fresh options)).stopsIn op,
        recovered (openStore options d).1 = (calls.foldl step (fresh options)).latest ∨
          recovered (openStore options d).1 = op.writing := by
  obtain ⟨hcalls, hlast, -⟩ := Runs.Along.append.mp h
  have hsteady : ∃ image, (calls.foldl step (fresh options)).Steady options.limits image := by
    apply Runs.Along.invariant (I := fun w => ∃ image, w.Steady options.limits image) _
      ⟨{}, steady_fresh rfl hbase⟩ hcalls
    rintro w op ⟨image, hw⟩ ⟨hop, hsafe⟩
    cases op with
    | commit state now faults => exact (hw.commit hbase hlimits hop hsafe).1
    | compact state now faults => exact (hw.compact hbase hop hsafe).1
    | reopen options' => cases hop
  obtain ⟨image, hsteady⟩ := hsteady
  refine ⟨(hsteady.holds.shown.recovered_eq hbase).trans hsteady.latest, ?_⟩
  cases op with
  | commit state now faults => exact (hsteady.commit hbase hlimits hlast.1 hlast.2).2
  | compact state now faults => exact (hsteady.compact hbase hlast.1 hlast.2).2
  | reopen options' => cases hlast.1

/-- A compaction whose first rename fails while the journal has the latest state. -/
theorem stopped_compaction_recovers :
    recovered (openStore options (once options).disk).1 = some (stateAt 1) ∧
      ∀ d ∈ (once options).stopsIn (.compact (stateAt 2) 0 { rename := true }),
        recovered (openStore options d).1 = some (stateAt 1) ∨
          recovered (openStore options d).1 = some (stateAt 2) := by
  have hfirst := first_settled
  have hlatest : (once options).latest = some (stateAt 1) := hfirst.latest.symm
  have hcount : (once options).store.entryCount = 1 := by decide +kernel
  have halong : Runs.Along step (fun w op => CrashOp w op ∧ SafeCall w op) (fresh options)
      ([.commit (stateAt 1) 0 {}] ++ [.compact (stateAt 2) 0 { rename := true }]) := by
    refine ⟨⟨⟨rfl, ?_⟩, stateAt_storable 1, by decide, fun hrename => Bool.noConfusion hrename⟩,
      ⟨⟨rfl, ?_⟩, ?_, fun _ => .inr ?_⟩, trivial⟩
    · rintro generation ⟨⟩
    · rintro generation ⟨⟩
      decide
    · rw [← once, hfirst.holds.limits_eq]
      exact stateAt_storable 2
    · rw [← once, hcount]
      decide
  have hstops := stopped_store_recovers options_base noWrap halong
  rw [foldl_cons, foldl_nil, ← once, hlatest] at hstops
  exact hstops

/-- The steps of a compaction whose first rename fails and whose second works. -/
theorem Store.compact_again {store : Store} {state : RegistryState} (now : Tick)
    (hsync : store.options.syncOnCommit = true)
    (hfits : state.encode.length ≤ store.options.limits.maxSnapshotBytes.toNat) :
    (store.compact state now { rename := true }).steps =
      [.openTemp, .writeTemp (snapshotFile state now), .removeSnapshot, .rename, .truncateJournal] := by
  simp [compact, writeSnapshot, not_lt.mpr hfits, synced, publish, hsync, truncateJournal]

/-- The process stops after the snapshot was removed: the acknowledged state is gone and the store is refused. -/
theorem removed_snapshot_lost :
    (once rotating).latest = some (stateAt 1) ∧
      ∃ d ∈ (once rotating).stopsIn (.compact (stateAt 2) 0 { rename := true }),
        (openStore rotating d).1 =
          .failure .recoveryCleanOpen (text "store exists but holds no recoverable state") := by
  have hoptions : (once rotating).store.options = rotating := by
    rw [once, step, called]
    dsimp only
    rw [Store.commit_options [] rfl]
    rfl
  have hjournal : (once rotating).disk.journal = some [] := by
    decide +kernel
  refine ⟨by decide +kernel, ?_⟩
  generalize once rotating = w at hoptions hjournal
  have hfits : (stateAt 2).encode.length ≤ w.store.options.limits.maxSnapshotBytes.toNat := by
    rw [hoptions]
    exact Nat.le_of_add_right_le (stateAt_storable 2).file
  have hsteps := Store.compact_again 0 (hoptions ▸ rfl) hfits
  refine ⟨w.disk.after [.openTemp, .writeTemp (snapshotFile (stateAt 2) 0), .removeSnapshot], ?_, ?_⟩
  · rw [stopsIn, hsteps]
    simp [Disk.stops, Disk.after, FileStep.during]
  · exact Image.openStore_empty rotating_base rfl hjournal

end Ocreg
