/-
Module: Ocreg.Proofs.Durability
Purpose: Whole histories of a store: what opening it recovers after lifetimes of commits, and after commits some of
  whose writes to the journal were cut short.
-/
import Ocreg.Proofs.Commits

namespace Ocreg

open List Lab

variable {disk' : Disk} {kept : Nat} {call : Call} {limits : StoreLimits} {image : Image}

/-! ### Histories -/

/-- A store with its files, and what its callers know: the state of the last call that returned a token, and the
    generation of the last state handed over. -/
structure World where
  store : Store
  disk : Disk := {}
  latest : Option RegistryState := none
  newest : Option StoreGeneration := none

variable {w : World}

/-- A call, with the file operations that fail in it, or a new lifetime. -/
inductive StoreOp where
  | commit (state : RegistryState) (now : Tick) (faults : Faults)
  | compact (state : RegistryState) (now : Tick) (faults : Faults)
  | reopen (options : StoreOptions)

namespace World

/-- A store bound to a fresh path. -/
def fresh (options : StoreOptions) : World where
  store := { options := options }

def called (w : World) (state : RegistryState) (call : Call) : World where
  store := call.store
  disk := w.disk.after call.steps
  latest := if call.outcome.ok then some state else w.latest
  newest := some state.storeGeneration

def step (w : World) : StoreOp → World
  | .commit state now faults => w.called state (w.store.commit state now [] faults).1
  | .compact state now faults => w.called state (w.store.compact state now faults)
  | .reopen options =>
    let disk := (openStore options w.disk).2
    match Store.bind options disk with
    | .success store _ => { w with store := store, disk := disk }
    | .failure _ _ => { w with disk := disk }

/-- The state is of a later generation than every one handed over before. -/
def Advances (w : World) (state : RegistryState) : Prop := ∀ generation ∈ w.newest, generation < state.storeGeneration

end World

/-- A state that is read back whichever file it is written to. -/
structure Storable (limits : StoreLimits) (state : RegistryState) : Prop where
  decodable : state.Decodable
  file : state.encode.length + (kSnapshotHeaderSize + kSnapshotFooterSize) ≤ limits.maxSnapshotBytes.toNat
  word : state.encode.length ≤ limits.maxJournalEntryBytes.toNat → state.encode.length < 2 ^ 32

/-- The bound under which the journal is read back does not wrap around. -/
def StoreLimits.NoWrap (limits : StoreLimits) : Prop := limits.maxJournalBytes.toNat + kJournalHeaderSize < 2 ^ 64

theorem StoreLimits.NoWrap.bound (h : limits.NoWrap) :
    limits.maxJournalBytes.toNat ≤ limits.journalReadBound.toNat := by
  have hsmall : limits.maxJournalBytes.toNat + 72 < 2 ^ 64 := h
  rw [journalReadBound, UInt64.toNat_add]
  change _ ≤ (limits.maxJournalBytes.toNat + 72) % 2 ^ 64
  rw [Nat.mod_eq_of_lt hsmall]
  omega

/-! ### Commits whose snapshots succeed -/

/-- The entry a commit appends. -/
def Store.entryOf (store : Store) (state : RegistryState) (now : Tick) : Entry := ⟨store.sequence + 1, now, state⟩

/-- The state of a commit stays in the journal: it fits an entry and no rotation follows. -/
def Store.LeavesEntry (store : Store) (state : RegistryState) : Prop :=
  state.encode.length ≤ store.options.limits.maxJournalEntryBytes.toNat ∧
    ¬ ({ store with entryCount := store.entryCount + 1 } : Store).rotates

/-- Only writes to the journal fail. -/
def Faults.OnlyJournal (faults : Faults) : Prop :=
  faults = { journalWrite := faults.journalWrite, journalSync := faults.journalSync }

namespace Store

variable {store : Store} {state : RegistryState} {now : Tick} {faults : Faults}

/-- The call that appends an entry to the journal. -/
def journalCall (store : Store) (state : RegistryState) (now : Tick) (token : CommitToken) : Call where
  outcome := .success token .ok
  store := (store.advanced state).counted (store.entryOf state now).frame.length
  steps := [.openJournal, .appendJournal (store.entryOf state now).frame]

section

variable (store : Store) (state : RegistryState) (now : Tick) (faults : Faults)

/-- A commit is refused, torn, left in the journal, or rotated away into the snapshot. -/
inductive CommitView : Call → Prop
  | refused (reason : ReasonCode) (detail : Bytes) :
      CommitView ((store.advanced state).fails reason detail [])
  | torn (reason : ReasonCode) (detail : Bytes) (kept : Nat) (hroom : store.HasRoom state.encode.length)
      (hfit : state.encode.length ≤ store.options.limits.maxJournalEntryBytes.toNat)
      (hfault : faults.journalWrite = some kept ∨ faults.journalSync = some kept) :
      CommitView ((store.advanced state).fails reason detail
        [.openJournal, .appendJournal ((store.entryOf state now).frame.take kept)])
  | appended (token : CommitToken) (hroom : store.HasRoom state.encode.length) (hleaves : store.LeavesEntry state) :
      CommitView (store.journalCall state now token)
  | rotated (token : CommitToken) (after : Store) (steps : List FileStep) (hoptions : after.options = store.options)
      (hcount : after.entryCount = 0) (hsize : after.journalSize = 0)
      (hafter : ∀ disk : Disk, disk.after steps =
        { snapshot := some (snapshotFile state now), journal := some [], temp := none }) :
      CommitView { outcome := .success token .ok, store := after, steps := steps }

end

theorem commit_view (hfaults : faults.OnlyJournal)
    (hfits : state.encode.length ≤ store.options.limits.maxSnapshotBytes.toNat) :
    CommitView store state now faults (store.commit state now [] faults).1 := by
  have hworks : SnapshotWorks faults := by
    rw [hfaults]
    exact ⟨rfl, rfl, rfl, rfl⟩
  have htruncate : faults.truncate = false := by rw [hfaults]
  have hopen : faults.journalOpen = false := by rw [hfaults]
  by_cases hentry : store.options.limits.maxJournalEntryBytes.toNat < state.encode.length
  · obtain ⟨token, hrotation⟩ := rotation_works (store.advanced state) now (text "journal rotation failed")
      hworks htruncate hfits
    rw [commit_oversized [] hentry, hrotation]
    exact .rotated token _ _ rfl rfl rfl fun disk => rfl
  · have hview : AppendView (store.advanced state) .stateSnapshot state.encode now faults _ :=
      append_view hopen (not_lt.mp hentry)
    rw [commit_fitting [] hentry]
    generalize (store.advanced state).append .stateSnapshot state.encode now faults = appended at hview ⊢
    cases hview with
    | refused reason detail hroom => exact .refused reason detail
    | torn reason detail kept hroom hfault => exact .torn reason detail kept hroom (not_lt.mp hentry) hfault
    | appended token hroom =>
      dsimp only
      split
      · obtain ⟨_, hrotation⟩ := rotation_works ((store.advanced state).counted
          ((store.advanced state).nextFrame .stateSnapshot state.encode now).length) now
          (text "journal rotation failed") hworks htruncate hfits
        rw [hrotation]
        exact .rotated token _ _ rfl rfl rfl fun disk => rfl
      · rename_i hkeeps
        exact .appended token hroom ⟨not_lt.mp hentry, fun hrotates => hkeeps ⟨rfl, hrotates⟩⟩

section

variable (notes : List ReasonCode) (now : Tick) (hroom : store.HasRoom state.encode.length)
include hroom

/-- A write to the journal that is cut short. -/
theorem commit_torn (hfit : state.encode.length ≤ store.options.limits.maxJournalEntryBytes.toNat) (kept : Nat) :
    (store.commit state now notes { journalWrite := some kept }).1 =
      (store.advanced state).fails .storeWriteFailed (text "journal append failed")
        [.openJournal, .appendJournal ((store.entryOf state now).frame.take kept)] := by
  have hbytes := not_lt.mpr hroom.1
  have hcount := not_le.mpr hroom.2
  have happend : (store.advanced state).append .stateSnapshot state.encode now { journalWrite := some kept } =
      (store.advanced state).fails .storeWriteFailed (text "journal append failed")
        [.openJournal, .appendJournal ((store.entryOf state now).frame.take kept)] := by
    rw [append]
    change (if store.options.limits.maxJournalEntryBytes.toNat < _ then _ else
      if store.options.limits.maxJournalBytes.toNat < store.journalSize + _ + _ + _ then _ else
      if store.options.limits.maxJournalEntries.toNat ≤ store.entryCount then _ else _) = _
    rw [if_neg (not_lt.mpr hfit), if_neg hbytes, if_neg hcount]
    rfl
  rw [commit_fitting notes (not_lt.mpr hfit), happend]
  exact if_neg fun h => Bool.noConfusion h.1

/-- Without faults a state that stays in the journal is appended to it. -/
theorem commit_appended (hleaves : store.LeavesEntry state) : ∃ token, (store.commit state now notes {}).1 =
      store.journalCall state now token := by
  have hview : AppendView (store.advanced state) .stateSnapshot state.encode now {} _ := append_view rfl hleaves.1
  rw [commit_fitting notes (not_lt.mpr hleaves.1)]
  generalize (store.advanced state).append .stateSnapshot state.encode now {} = appended at hview ⊢
  cases hview with
  | refused reason detail hfull => exact absurd hroom hfull
  | torn reason detail kept hroom hfault => rcases hfault with h | h <;> cases h
  | appended token hroom => exact ⟨token, if_neg (fun h => hleaves.2 h.2)⟩

end

end Store

/-! ### What the files show after a commit -/

theorem Storable.readable {state : RegistryState} (h : Storable limits state)
    (hfit : state.encode.length ≤ limits.maxJournalEntryBytes.toNat) (sequence : UInt64) (now : Tick) :
    Entry.Readable limits ⟨sequence, now, state⟩ := ⟨h.decodable, h.word hfit, hfit⟩

namespace Image

variable {disk : Disk} {entry : Entry} {state : RegistryState} {now : Tick}
  {P : RegistryState → Prop}

/-- One more entry. -/
def append (image : Image) (entry : Entry) : Image := { image with entries := image.entries ++ [entry] }

/-- Every state on disk has a property. -/
structure Every (P : RegistryState → Prop) (image : Image) : Prop where
  snapshot : ∀ snapshot ∈ image.snapshot, P snapshot.1
  entries : ∀ entry ∈ image.entries, P entry.state

theorem Every.mono {Q : RegistryState → Prop} (h : image.Every P) (himp : ∀ state, P state → Q state) :
    image.Every Q := ⟨fun s hs => himp _ (h.snapshot s hs), fun e he => himp _ (h.entries e he)⟩

theorem Every.append (h : image.Every P) (hentry : P entry.state) : (image.append entry).Every P := by
  exact ⟨h.snapshot, forall_mem_append.mpr ⟨h.entries, forall_mem_singleton.mpr hentry⟩⟩

theorem Every.value (h : image.Every P) : ∀ state ∈ image.value, P state := by
  intro state hstate
  rw [Image.value] at hstate
  split at hstate
  · obtain ⟨snapshot, hmem, rfl⟩ := Option.map_eq_some_iff.mp hstate
    exact h.snapshot snapshot hmem
  · rename_i entry hlast _
    cases hstate
    exact h.entries entry (mem_of_getLast? hlast)
  · rename_i entry old tick hlast hsnapshot
    split at hstate
    · cases hstate
      exact h.entries entry (mem_of_getLast? hlast)
    · cases hstate
      exact h.snapshot _ hsnapshot

section

variable (h : image.Shown limits disk) (htail : image.tail = []) (hentry : entry.Readable limits)
include h htail hentry

/-- The files after a whole entry was appended. -/
theorem Shown.append (hlast : ∀ last ∈ image.entries.getLast?, last.Before entry)
    (hsnapshot : disk'.snapshot = disk.snapshot) (hjournal : disk'.journalBytes = disk.journalBytes ++ entry.frame)
    (hbound : disk'.journalBytes.length ≤ limits.journalReadBound.toNat) : (image.append entry).Shown limits disk' :=
  { h with
    snapshot := hsnapshot.trans h.snapshot
    journal := by
      rw [hjournal, h.journal, htail, Image.append, htail]
      simp [flatMap_append]
    readable := forall_mem_append.mpr ⟨h.readable, forall_mem_singleton.mpr hentry⟩
    ascending := isChain_append.mpr ⟨h.ascending, isChain_singleton _, fun last hmem other hother => by
      cases hother
      exact hlast last hmem⟩
    bound := hbound }

/-- The files after the beginning of an entry was appended. -/
theorem Shown.cut (hkept : kept < entry.frame.length) (hsnapshot : disk'.snapshot = disk.snapshot)
    (hjournal : disk'.journalBytes = disk.journalBytes ++ entry.frame.take kept)
    (hbound : disk'.journalBytes.length ≤ limits.journalReadBound.toNat) :
    ({ image with tail := entry.frame.take kept } : Image).Shown limits disk' :=
  { h with
    snapshot := hsnapshot.trans h.snapshot
    journal := by rw [hjournal, h.journal, htail, append_nil]
    torn := .inr (journalFront_torn hentry.describes hkept)
    bound := hbound }

end

/-- The files after a new snapshot was put in place. -/
theorem Shown.publish (h : image.Shown limits disk) (hstate : Storable limits state)
    (hsnapshot : disk'.snapshot = some (snapshotFile state now)) (hjournal : disk'.journalBytes = disk.journalBytes) :
    ({ image with snapshot := some (state, now) } : Image).Shown limits disk' :=
  { h with
    snapshot := hsnapshot
    decodable := by
      rintro snapshot ⟨⟩
      exact hstate.decodable
    fits := by
      rintro snapshot ⟨⟩
      exact hstate.file
    journal := hjournal.trans h.journal
    bound := hjournal ▸ h.bound }

/-- A fresh path. -/
theorem shown_fresh (limits : StoreLimits) : ({} : Image).Shown limits {} :=
  ⟨rfl, nofun, nofun, rfl, nofun, IsChain.nil, .inl rfl, Nat.zero_le _⟩

/-- The files of a store that was just rotated. -/
theorem shown_rotated (hstate : Storable limits state) (hsnapshot : disk.snapshot = some (snapshotFile state now))
    (hjournal : disk.journalBytes = []) : ({ snapshot := some (state, now) } : Image).Shown limits disk :=
  (shown_fresh limits).publish hstate hsnapshot hjournal

/-- An entry later than the snapshot is what the store then holds. -/
theorem value_append (h : ∀ snapshot ∈ image.snapshot, snapshot.1.storeGeneration ≤ entry.state.storeGeneration) :
    (image.append entry).value = some entry.state := by
  rw [value, append, List.getLast?_concat]
  cases hsnapshot : image.snapshot with
  | none => rfl
  | some snapshot => exact if_pos (h snapshot hsnapshot)

end Image

namespace World

variable {state : RegistryState} {now : Tick} {faults : Faults}

/-- The files show the image, and every state in it was handed over. -/
structure Holds (limits : StoreLimits) (w : World) (image : Image) : Prop where
  shown : image.Shown limits w.disk
  limits_eq : w.store.options.limits = limits
  base : w.store.options.basePath ≠ []
  known : image.Every (fun state => ∃ generation ∈ w.newest, state.storeGeneration ≤ generation)

/-- The journal file ends where the store counts it to end, with a whole entry. -/
structure Aligned (w : World) (image : Image) : Prop where
  size : w.store.journalSize = w.disk.journalBytes.length
  tail : image.tail = []

theorem holds_fresh {options : StoreOptions} (hlimits : options.limits = limits) (hbase : options.basePath ≠ []) :
    (fresh options).Holds limits {} where
  shown := Image.shown_fresh limits
  limits_eq := hlimits
  base := hbase
  known := ⟨by rintro snapshot ⟨⟩, nofun⟩

section

variable (h : w.Holds limits image)
include h

section

variable (hadvances : w.Advances state)
include hadvances

/-- States of the image are of earlier generations than one that advances. -/
theorem Holds.earlier : image.Every (fun old => old.storeGeneration < state.storeGeneration) := by
  apply h.known.mono
  rintro old ⟨generation, hgeneration, hle⟩
  exact lt_of_le_of_lt hle (hadvances generation hgeneration)

theorem Holds.known_later (call : Call) :
    image.Every (fun old => ∃ generation ∈ (w.called state call).newest, old.storeGeneration ≤ generation) :=
  (h.earlier hadvances).mono (fun _ hlt => ⟨state.storeGeneration, rfl, le_of_lt hlt⟩)

theorem Holds.refused (reason : ReasonCode) (detail : Bytes) :
    (w.called state ((w.store.advanced state).fails reason detail [])).Holds limits image :=
  { h with known := h.known_later hadvances _ }

end

/-- Bytes up to a whole entry keep the journal within the bound it is read under. -/
theorem Holds.room (hlimits : limits.NoWrap) (haligned : w.Aligned image) (hroom : w.store.HasRoom state.encode.length)
    {bytes : Bytes} (hbytes : bytes.length ≤ (w.store.entryOf state now).frame.length) :
    (w.disk.journalBytes ++ bytes).length ≤ limits.journalReadBound.toNat := by
  have hframe := (w.store.entryOf state now).length_frame
  have hbound := hlimits.bound
  have hfits := hroom.1
  rw [h.limits_eq, haligned.size] at hfits
  change _ + 72 + 8 ≤ _ at hfits
  change _ = state.encode.length + 80 at hframe
  rw [length_append]
  omega

theorem Holds.called {image' : Image} (hoptions : call.store.options = w.store.options)
    (hshown : image'.Shown limits (w.called state call).disk)
    (hknown : image'.Every (fun old => ∃ generation ∈ (w.called state call).newest, old.storeGeneration ≤ generation)) :
    (w.called state call).Holds limits image' :=
  ⟨hshown, (congrArg StoreOptions.limits hoptions).trans h.limits_eq,
    (congrArg StoreOptions.basePath hoptions).trans_ne h.base, hknown⟩

end

section Appending

variable (h : w.Holds limits image) (hlimits : limits.NoWrap) (haligned : w.Aligned image)
  (hstate : Storable limits state) (hadvances : w.Advances state) (hroom : w.store.HasRoom state.encode.length)
  (hfit : state.encode.length ≤ limits.maxJournalEntryBytes.toNat)
include h hlimits haligned hstate hadvances hroom hfit

/-- A whole entry in the journal, whatever the call then returns. -/
theorem Holds.append (hsequence : ∀ last ∈ image.entries.getLast?, last.sequence < w.store.sequence + 1)
    (hoptions : call.store.options = w.store.options)
    (hsteps : call.steps = [.openJournal, .appendJournal (w.store.entryOf state now).frame]) :
    (w.called state call).Holds limits (image.append (w.store.entryOf state now)) := by
  have hdisk : (w.called state call).disk =
      { w.disk with journal := some (w.disk.journalBytes ++ (w.store.entryOf state now).frame) } := by
    rw [World.called, hsteps]
    rfl
  have hlast : ∀ last ∈ image.entries.getLast?, last.Before (w.store.entryOf state now) := by
    intro last hmem
    exact ⟨hsequence last hmem, le_of_lt ((h.earlier hadvances).entries last (mem_of_getLast? hmem))⟩
  refine h.called hoptions ?_ ((h.known_later hadvances call).append ⟨state.storeGeneration, rfl, le_refl _⟩)
  rw [hdisk]
  exact h.shown.append haligned.tail (hstate.readable hfit _ _) hlast rfl rfl
    (h.room hlimits haligned hroom (le_refl _))

/-- The beginning of an entry in the journal. -/
theorem Holds.cut (hkept : kept < (w.store.entryOf state now).frame.length)
    (hoptions : call.store.options = w.store.options)
    (hsteps : call.steps = [.openJournal, .appendJournal ((w.store.entryOf state now).frame.take kept)]) :
    (w.called state call).Holds limits
      { image with tail := (w.store.entryOf state now).frame.take kept } := by
  have hdisk : (w.called state call).disk =
      { w.disk with journal := some (w.disk.journalBytes ++ (w.store.entryOf state now).frame.take kept) } := by
    rw [World.called, hsteps]
    rfl
  refine h.called hoptions ?_ ⟨(h.known_later hadvances call).snapshot, (h.known_later hadvances call).entries⟩
  rw [hdisk]
  exact h.shown.cut haligned.tail (hstate.readable hfit _ _) hkept rfl rfl
    (h.room hlimits haligned hroom (length_take_le' _ _))

end Appending

/-- A rotated store holds the state in its snapshot. -/
theorem Holds.rotated (h : w.Holds limits image) (hstate : Storable limits state)
    (hoptions : call.store.options = w.store.options)
    (hafter : ∀ disk : Disk, disk.after call.steps =
      { snapshot := some (snapshotFile state now), journal := some [], temp := none }) :
    (w.called state call).Holds limits { snapshot := some (state, now) } := by
  refine h.called hoptions ?_ ⟨?_, nofun⟩
  · rw [World.called, hafter]
    exact Image.shown_rotated hstate rfl rfl
  · rintro snapshot ⟨⟩
    exact ⟨state.storeGeneration, rfl, le_refl _⟩

end World

/-! ### Lifetimes -/

/-- Histories of lifetimes on one path under one set of bounds: stores are opened and bound again, and commit states
    of ever later generations, with all file operations succeeding. -/
def LifetimeOp (base : Bytes) (limits : StoreLimits) (w : World) : StoreOp → Prop
  | .commit state _ faults => faults = {} ∧ w.Advances state ∧ Storable limits state
  | .compact _ _ _ => False
  | .reopen options => options.basePath = base ∧ options.limits = limits

/-- A commit that leaves its state in the journal has a sequence number the scanner goes on to: the journal has no
    entry yet, or the last one it applies has a smaller number. -/
def FollowsOn (w : World) : StoreOp → Prop
  | .commit state _ _ => w.store.LeavesEntry state →
      (scanJournal w.disk.journalBytes w.store.options.limits).entriesValid = 0 ∨
        (scanJournal w.disk.journalBytes w.store.options.limits).previousSequence < w.store.sequence + 1
  | _ => True

/-- The files hold the latest state, and the store knows where the journal ends. -/
structure World.Settled (limits : StoreLimits) (w : World) (image : Image) : Prop where
  holds : w.Holds limits image
  aligned : w.Aligned image
  latest : image.value = w.latest

namespace World

variable {base : Bytes} {state : RegistryState} {now : Tick}

section

variable (h : w.Settled limits image)

include h

/-- What following on means for the entries of the journal. -/
theorem Settled.followsOn_iff : FollowsOn w (.commit state now {}) ↔ (w.store.LeavesEntry state →
      ∀ last ∈ image.entries.getLast?, last.sequence < w.store.sequence + 1) := by
  have hscan := scanJournal_entries h.holds.shown.readable h.holds.shown.ascending
  have hbytes : w.disk.journalBytes = image.entries.flatMap Entry.frame := by
    rw [h.holds.shown.journal, h.aligned.tail, append_nil]
  rw [FollowsOn, hbytes, h.holds.limits_eq, hscan.entriesValid, hscan.previousSequence]
  refine imp_congr_right fun _ => ?_
  cases hlast : image.entries.getLast? with
  | none => simp [getLast?_eq_none_iff.mp hlast]
  | some last =>
    have hsome : image.entries ≠ [] := by
      rintro hnil
      rw [hnil] at hlast
      cases hlast
    simp [hsome]

section

variable (hlimits : limits.NoWrap) (hstate : Storable limits state) (hadvances : w.Advances state)
include hlimits hstate hadvances

/-- An entry that follows on is what the store then holds. -/
theorem Settled.appended (hroom : w.store.HasRoom state.encode.length) (hleaves : w.store.LeavesEntry state)
    (hsequence : ∀ last ∈ image.entries.getLast?, last.sequence < w.store.sequence + 1) (token : CommitToken) :
    (w.called state (w.store.journalCall state now token)).Settled limits (image.append (w.store.entryOf state now)) := by
  have hfit := hleaves.1
  rw [h.holds.limits_eq] at hfit
  refine ⟨?_, ⟨?_, h.aligned.tail⟩, ?_⟩
  · exact h.holds.append hlimits h.aligned hstate hadvances hroom hfit hsequence rfl rfl
  · change w.store.journalSize + _ = (w.disk.journalBytes ++ _).length
    rw [h.aligned.size, length_append]
  · exact Image.value_append fun s hs => le_of_lt ((h.holds.earlier hadvances).snapshot s hs)

theorem Settled.commit (hfollows : FollowsOn w (.commit state now {})) :
    ∃ image', (w.step (.commit state now {})).Settled limits image' := by
  have hfits : state.encode.length ≤ w.store.options.limits.maxSnapshotBytes.toNat := by
    rw [h.holds.limits_eq]
    exact Nat.le_of_add_right_le hstate.file
  have hview : Store.CommitView w.store state now {} _ := Store.commit_view rfl hfits
  rw [step]
  generalize (w.store.commit state now [] {}).1 = call at hview ⊢
  cases hview with
  | refused reason detail =>
    exact ⟨image, h.holds.refused hadvances reason detail, ⟨h.aligned.size, h.aligned.tail⟩, h.latest⟩
  | torn reason detail kept hroom hfit hfault => rcases hfault with h | h <;> cases h
  | appended token hroom hleaves =>
    exact ⟨_, h.appended hlimits hstate hadvances hroom hleaves (h.followsOn_iff.mp hfollows hleaves) token⟩
  | rotated token after steps hoptions hcount hsize hafter =>
    refine ⟨{ snapshot := some (state, now) }, h.holds.rotated hstate hoptions hafter, ⟨?_, rfl⟩, rfl⟩
    rw [World.called, hafter]
    exact hsize

end

theorem Settled.step_reopen {options : StoreOptions} (hlimits : options.limits = limits)
    (hbase : options.basePath ≠ []) : w.step (.reopen options) =
      { w with
        store := { options := options, journalSize := w.store.journalSize }
        disk := { w.disk with temp := none } } := by
  subst hlimits
  have hdisk := h.holds.shown.openStore_disk hbase h.aligned.tail
  have hbind : Store.bind options (openStore options w.disk).2 =
      .success { options := options, journalSize := w.store.journalSize } .ok := by
    rw [Store.bind, if_neg hbase, hdisk, h.aligned.size]
    rfl
  rw [step]
  dsimp only
  rw [hbind, hdisk]

theorem Settled.reopen {options : StoreOptions} (hlimits : options.limits = limits) (hbase : options.basePath ≠ []) :
    (w.step (.reopen options)).Settled limits image := by
  rw [h.step_reopen hlimits hbase]
  have hshown := h.holds.shown
  refine ⟨⟨?_, hlimits, hbase, h.holds.known⟩, ⟨h.aligned.size, h.aligned.tail⟩, h.latest⟩
  exact { hshown with }

end

/-- A commit that is accepted is the latest. -/
theorem latest_commit (hfits : state.encode.length ≤ w.store.options.limits.maxSnapshotBytes.toNat)
    (haccepts : w.store.Accepts state) : (w.step (.commit state now {})).latest = some state :=
  if_pos ((Store.commit_ok_iff [] hfits).mpr haccepts)

/-- A commit that stays in the journal without following on its last entry is acknowledged and lost: the store still
    holds what it held before. -/
theorem Settled.lost (h : w.Settled limits image) (now : Tick) (hlimits : limits.NoWrap)
    (hstate : Storable limits state) (hroom : w.store.HasRoom state.encode.length)
    (hleaves : w.store.LeavesEntry state) {last : Entry} (hlast : last ∈ image.entries.getLast?)
    (hstale : w.store.sequence + 1 ≤ last.sequence) {options : StoreOptions} (hbase : options.basePath ≠ [])
    (hoptions : options.limits = limits) : (w.step (.commit state now {})).latest = some state ∧
      recovered (openStore options (w.step (.commit state now {})).disk).1 = w.latest := by
  subst hoptions
  have hfit := hleaves.1
  rw [h.holds.limits_eq] at hfit
  obtain ⟨token, hcommit⟩ := Store.commit_appended [] now hroom hleaves
  rw [step, hcommit]
  refine ⟨rfl, ?_⟩
  rw [← h.latest]
  have hdata : w.disk.journalBytes = image.entries.flatMap Entry.frame := by
    rw [h.holds.shown.journal, h.aligned.tail, append_nil]
  obtain ⟨hpayload, hgeneration, -⟩ := scanJournal_stale h.holds.shown.readable
    (forall_mem_singleton.mpr (hstate.readable hfit (w.store.sequence + 1) now)) h.holds.shown.ascending hlast
    (forall_mem_singleton.mpr hstale)
  rw [flatMap_append, flatMap_singleton, ← hdata] at hpayload hgeneration
  have hsnapshot := Image.openSnapshot_shown h.holds.shown
  exact Image.recovered_of_scan hbase hsnapshot rfl
    (h.holds.room hlimits h.aligned hroom (le_refl _)) h.holds.shown.readable hpayload hgeneration

theorem settled_fresh {options : StoreOptions} (hlimits : options.limits = limits) (hbase : options.basePath ≠ []) :
    (fresh options).Settled limits {} := ⟨holds_fresh hlimits hbase, ⟨rfl, rfl⟩, rfl⟩

end World

/-- After every history of lifetimes in which each commit that stays in the journal follows on its last entry,
    opening the store returns the state of the last commit that returned a token. -/
theorem reopened_state_is_latest {options : StoreOptions} (hbase : options.basePath ≠ [])
    (hlimits : options.limits.NoWrap) {history : List StoreOp}
    (h : Runs.Along World.step
      (fun w op => LifetimeOp options.basePath options.limits w op ∧ FollowsOn w op) (World.fresh options) history)
    {state : RegistryState} (hlatest : (history.foldl World.step (World.fresh options)).latest = some state) :
    ∃ report reason,
      (openStore options (history.foldl World.step (World.fresh options)).disk).1 = .success report reason ∧
        report.state = state := by
  have hsettled : ∃ image, (history.foldl World.step (World.fresh options)).Settled options.limits image := by
    apply Runs.Along.invariant (I := fun w => ∃ image, w.Settled options.limits image) _
      ⟨{}, World.settled_fresh rfl hbase⟩ h
    rintro w op ⟨image, hw⟩ ⟨hop, hfollows⟩
    cases op with
    | commit state now faults =>
      obtain ⟨rfl, hadvances, hstate⟩ := hop
      exact hw.commit hlimits hstate hadvances hfollows
    | compact state now faults => cases hop
    | reopen options' => exact ⟨image, hw.reopen hop.2 (hop.1.trans_ne hbase)⟩
  obtain ⟨image, hsettled⟩ := hsettled
  apply recovered_eq_some
  rw [hsettled.holds.shown.recovered_eq hbase, hsettled.latest, hlatest]

/-- Default options at some path. -/
def Lab.options : StoreOptions where
  basePath := text "registry"

/-- Every commit is rotated into the snapshot. -/
def Lab.rotating : StoreOptions := { Lab.options with compactAfterEntries := 1 }

theorem Lab.stateAt_length (generation : StoreGeneration) : (stateAt generation).encode.length = 354 := by
  have hsame : (stateAt generation).encode.length = (stateAt 0).encode.length := by
    simp [RegistryState.encode, stateAt]
  rw [hsame]
  decide +kernel

theorem Lab.stateAt_storable (generation : StoreGeneration) : Storable {} (stateAt generation) where
  decodable := stateAt_decodable generation
  file := by
    rw [stateAt_length]
    decide
  word := by
    rw [stateAt_length]
    exact fun _ => by decide

theorem Lab.options_base : Lab.options.basePath ≠ [] := by decide

theorem Lab.leaves_entry {store : Store} (hoptions : store.options = Lab.options) (hcount : store.entryCount = 0)
    (generation : StoreGeneration) : store.LeavesEntry (stateAt generation) := by
  constructor
  · rw [hoptions, stateAt_length]
    decide
  · rintro ⟨-, hrotates⟩
    change store.options.compactAfterEntries.toNat ≤ store.entryCount + 1 at hrotates
    rw [hoptions, hcount] at hrotates
    exact absurd hrotates (by decide)

theorem Lab.rotating_base : rotating.basePath ≠ [] := by decide

theorem Lab.noWrap : ({} : StoreLimits).NoWrap := by
  unfold StoreLimits.NoWrap
  decide

theorem Lab.rotating_leaves_nothing {store : Store} (hoptions : store.options = rotating) (state : RegistryState) :
    ¬ store.LeavesEntry state := by
  rintro ⟨-, hkeeps⟩
  apply hkeeps
  rw [Store.rotates, hoptions]
  exact ⟨by decide, Nat.le_add_left 1 _⟩

/-- The store after one commit. -/
def Lab.once (options : StoreOptions) : World := (World.fresh options).step (.commit (stateAt 1) 0 {})

/-- The files after the first commit. -/
theorem Lab.first_settled : (once Lab.options).Settled {} { entries := [⟨1, 0, stateAt 1⟩] } := by
  have hleaves : (World.fresh Lab.options).store.LeavesEntry (stateAt 1) := leaves_entry rfl rfl 1
  have hroom : (World.fresh Lab.options).store.HasRoom (stateAt 1).encode.length := by
    rw [stateAt_length]
    decide
  obtain ⟨token, hcommit⟩ := Store.commit_appended [] 0 hroom hleaves
  rw [once, World.step, hcommit]
  apply (World.settled_fresh rfl options_base).appended noWrap (stateAt_storable 1) _ hroom hleaves
  · rintro last ⟨⟩
  · rintro generation ⟨⟩

/-- Two commits that stay in the journal, and a second lifetime, which rotates a third into the snapshot. -/
def Lab.threeCommits : List StoreOp :=
  [.commit (stateAt 1) 0 {}, .commit (stateAt 2) 0 {}, .reopen rotating, .commit (stateAt 3) 0 {}]

theorem reopened_state_is_latest_three_commits :
    (Lab.threeCommits.foldl World.step (World.fresh Lab.options)).latest = some (Lab.stateAt 3) ∧
      ∃ report reason,
        (openStore Lab.options (Lab.threeCommits.foldl World.step (World.fresh Lab.options)).disk).1 =
          .success report reason ∧ report.state = Lab.stateAt 3 := by
  have hfresh : (World.fresh Lab.options).Settled {} {} := World.settled_fresh rfl options_base
  have hfirst : FollowsOn (World.fresh Lab.options) (.commit (stateAt 1) 0 {}) :=
    hfresh.followsOn_iff.mpr fun _ _ hlast => nomatch hlast
  have hsequence : (once Lab.options).store.sequence = 1 := by decide +kernel
  have hfollows : FollowsOn (once Lab.options) (.commit (stateAt 2) 0 {}) := by
    apply first_settled.followsOn_iff.mpr
    rintro - last ⟨⟩
    rw [hsequence]
    decide
  have hadvances : (once Lab.options).Advances (stateAt 2) := by
    rintro generation ⟨⟩
    decide
  obtain ⟨image, hsecond⟩ := first_settled.commit noWrap (stateAt_storable 2) hadvances hfollows
  have hreopened := hsecond.step_reopen (show rotating.limits = {} from rfl) rotating_base
  have hsize : ((once Lab.options).step (.commit (stateAt 2) 0 {})).store.journalSize = 868 := by decide +kernel
  have hlast : FollowsOn (((once Lab.options).step (.commit (stateAt 2) 0 {})).step (.reopen rotating))
      (.commit (stateAt 3) 0 {}) := by
    rw [hreopened]
    exact fun hleaves => absurd hleaves (rotating_leaves_nothing rfl _)
  have hlater : (((once Lab.options).step (.commit (stateAt 2) 0 {})).step (.reopen rotating)).Advances (stateAt 3) := by
    rw [hreopened]
    rintro generation ⟨⟩
    decide
  have hroom : ({ options := rotating, journalSize := 868 } : Store).HasRoom (stateAt 3).encode.length := by
    rw [stateAt_length]
    decide
  have hlatest : (Lab.threeCommits.foldl World.step (World.fresh Lab.options)).latest = some (stateAt 3) := by
    rw [threeCommits, foldl_cons, foldl_cons, foldl_cons, foldl_cons, foldl_nil, ← once, hreopened, hsize]
    exact World.latest_commit (Nat.le_of_add_right_le (stateAt_storable 3).file) (.inr hroom)
  have halong : Runs.Along World.step
      (fun w op => LifetimeOp Lab.options.basePath Lab.options.limits w op ∧ FollowsOn w op)
      (World.fresh Lab.options) Lab.threeCommits :=
    ⟨⟨⟨rfl, by rintro generation ⟨⟩, stateAt_storable 1⟩, hfirst⟩, ⟨⟨rfl, hadvances, stateAt_storable 2⟩, hfollows⟩,
      ⟨⟨rfl, rfl⟩, trivial⟩, ⟨⟨rfl, hlater, stateAt_storable 3⟩, hlast⟩, trivial⟩
  exact ⟨hlatest, reopened_state_is_latest options_base noWrap halong hlatest⟩

/-- Two lifetimes with one commit each. -/
def Lab.lifetimes (options : StoreOptions) : List StoreOp :=
  [.commit (Lab.stateAt 1) 0 {}, .reopen options, .commit (Lab.stateAt 2) 0 {}]

/-- The second of two lifetimes is acknowledged and lost. -/
theorem second_lifetime_lost :
    ((Lab.lifetimes Lab.options).foldl World.step (World.fresh Lab.options)).latest = some (Lab.stateAt 2) ∧
      ∃ report reason,
        (openStore Lab.options ((Lab.lifetimes Lab.options).foldl World.step (World.fresh Lab.options)).disk).1 =
          .success report reason ∧ report.state = Lab.stateAt 1 := by
  have hfirst := first_settled
  have hsize : (once Lab.options).store.journalSize = 434 := by
    rw [hfirst.aligned.size, hfirst.holds.shown.journal, flatMap_singleton, append_nil, Entry.length_frame,
      stateAt_length]
  have hreopened := hfirst.step_reopen (show Lab.options.limits = {} from rfl) options_base
  have hbound := hfirst.reopen (show Lab.options.limits = {} from rfl) options_base
  rw [hreopened, hsize] at hbound
  have hmore : ({ options := Lab.options, journalSize := 434 } : Store).HasRoom (stateAt 2).encode.length := by
    rw [stateAt_length]
    decide
  obtain ⟨hlatest, hrecovered⟩ := hbound.lost 0 noWrap (stateAt_storable 2) hmore (leaves_entry rfl rfl 2)
    rfl (le_refl _) options_base rfl
  rw [lifetimes, foldl_cons, foldl_cons, foldl_cons, foldl_nil, ← once, hreopened, hsize]
  refine ⟨hlatest, recovered_eq_some ?_⟩
  rw [hrecovered]
  dsimp only
  rw [← hfirst.latest]
  rfl

/-! ### Torn writes -/

/-- Commits of states of ever later generations; only writes to the journal fail, after any part of the frame. -/
def TornOp (w : World) : StoreOp → Prop
  | .commit state _ faults => faults.OnlyJournal ∧ w.Advances state
  | _ => False

/-- The state is read back from where it is written, the sequence number does not wrap, and an entry is only written
    where the store counts the journal to end: no bytes of a failed write are left there. -/
def WritesCleanly (w : World) : StoreOp → Prop
  | .commit state _ _ => Storable w.store.options.limits state ∧ w.store.sequence < w.store.sequence + 1 ∧
      (state.encode.length ≤ w.store.options.limits.maxJournalEntryBytes.toNat →
        w.disk.journalBytes.length = w.store.journalSize)
  | _ => True

/-- The files hold a state at least as new as the latest; while the journal ends where the store counts it to end,
    its entries are whole and numbered up to the store's sequence. -/
structure World.Kept (limits : StoreLimits) (w : World) (image : Image) : Prop where
  holds : w.Holds limits image
  clean : w.disk.journalBytes.length = w.store.journalSize →
    image.tail = [] ∧ ∀ entry ∈ image.entries, entry.sequence ≤ w.store.sequence
  latest : ∀ state ∈ w.latest, ∃ kept ∈ image.value, state.storeGeneration ≤ kept.storeGeneration

namespace World

variable {state : RegistryState} {now : Tick} {faults : Faults}

section

variable (h : w.Kept limits image) (hsize : w.disk.journalBytes.length = w.store.journalSize)
include h hsize

theorem Kept.aligned : w.Aligned image := ⟨hsize.symm, (h.clean hsize).1⟩

theorem Kept.sequence (hwrap : w.store.sequence < w.store.sequence + 1) :
    ∀ last ∈ image.entries.getLast?, last.sequence < w.store.sequence + 1 := by
  intro last hlast
  exact lt_of_le_of_lt ((h.clean hsize).2 last (mem_of_getLast? hlast)) hwrap

end

/-- A state that advances is newer than the latest. -/
theorem Kept.older (h : w.Kept limits image) (hadvances : w.Advances state) :
    ∀ old ∈ w.latest, old.storeGeneration ≤ state.storeGeneration := by
  intro old hold
  obtain ⟨kept, hkept, hle⟩ := h.latest old hold
  exact le_of_lt (lt_of_le_of_lt hle ((h.holds.earlier hadvances).value kept hkept))

theorem Kept.commit (h : w.Kept limits image) (hlimits : limits.NoWrap) (hfaults : faults.OnlyJournal)
    (hadvances : w.Advances state) (hclean : WritesCleanly w (.commit state now faults)) :
    ∃ image', (w.step (.commit state now faults)).Kept limits image' := by
  obtain ⟨hstate, hwrap, hends⟩ := hclean
  have hfits : state.encode.length ≤ w.store.options.limits.maxSnapshotBytes.toNat :=
    Nat.le_of_add_right_le hstate.file
  have hview : Store.CommitView w.store state now faults _ := Store.commit_view hfaults hfits
  rw [h.holds.limits_eq] at hstate
  have hvalue : (image.append (w.store.entryOf state now)).value = some state :=
    Image.value_append (fun s hs => le_of_lt ((h.holds.earlier hadvances).snapshot s hs))
  rw [step]
  generalize (w.store.commit state now [] faults).1 = call at hview ⊢
  cases hview with
  | refused reason detail => exact ⟨image, h.holds.refused hadvances reason detail, h.clean, h.latest⟩
  | torn reason detail kept hroom hfit hfault =>
    have hsize := hends hfit
    rw [h.holds.limits_eq] at hfit
    have hlength := (w.store.entryOf state now).length_frame
    by_cases hkept : kept < (w.store.entryOf state now).frame.length
    · refine ⟨{ image with tail := (w.store.entryOf state now).frame.take kept }, ?_, ?_, h.latest⟩
      · exact h.holds.cut hlimits (h.aligned hsize) hstate hadvances hroom hfit hkept rfl rfl
      · -- the file has grown unless nothing of the frame was written
        intro hsame
        change (w.disk.journalBytes ++ _).length = w.store.journalSize at hsame
        rw [length_append, hsize, Nat.add_eq_left] at hsame
        exact ⟨eq_nil_of_length_eq_zero hsame, (h.clean hsize).2⟩
    · -- the whole frame was written before the failure, so it is an entry like any other
      have hwhole := take_of_length_le (not_lt.mp hkept)
      refine ⟨image.append (w.store.entryOf state now), ?_, ?_, ?_⟩
      · exact h.holds.append hlimits (h.aligned hsize) hstate hadvances hroom hfit (h.sequence hsize hwrap) rfl
          (congrArg (fun bytes => [FileStep.openJournal, .appendJournal bytes]) hwhole)
      · intro hsame
        change (w.disk.journalBytes ++ _).length = w.store.journalSize at hsame
        rw [length_append, hsize, Nat.add_eq_left, hwhole, hlength] at hsame
        omega
      · intro old hold
        rw [hvalue]
        exact ⟨state, rfl, h.older hadvances old hold⟩
  | appended token hroom hleaves =>
    have hsize := hends hleaves.1
    have hfit := hleaves.1
    rw [h.holds.limits_eq] at hfit
    refine ⟨image.append (w.store.entryOf state now), ?_, ?_, ?_⟩
    · exact h.holds.append hlimits (h.aligned hsize) hstate hadvances hroom hfit (h.sequence hsize hwrap) rfl rfl
    · refine fun _ => ⟨(h.clean hsize).1, ?_⟩
      exact forall_mem_append.mpr ⟨fun entry hold => ((h.clean hsize).2 entry hold).trans hwrap.le,
        forall_mem_singleton.mpr le_rfl⟩
    · rintro latest ⟨⟩
      rw [hvalue]
      exact ⟨state, rfl, le_refl _⟩
  | rotated token after steps hoptions hcount hsize hafter =>
    refine ⟨{ snapshot := some (state, now) }, h.holds.rotated hstate hoptions hafter, ?_, ?_⟩
    · exact fun _ => ⟨rfl, nofun⟩
    · rintro latest ⟨⟩
      exact ⟨state, rfl, le_refl _⟩

theorem kept_fresh {options : StoreOptions} (hlimits : options.limits = limits) (hbase : options.basePath ≠ []) :
    (fresh options).Kept limits {} := by
  refine ⟨holds_fresh hlimits hbase, ?_, ?_⟩
  · exact fun _ => ⟨rfl, nofun⟩
  · rintro latest ⟨⟩

end World

/-- Commits some of whose writes are torn lose nothing that was acknowledged, as long as no entry is written after
    the bytes of a failed one. -/
theorem torn_writes_keep_commits {options : StoreOptions} (hbase : options.basePath ≠ [])
    (hlimits : options.limits.NoWrap) {commits : List StoreOp}
    (h : Runs.Along World.step (fun w op => TornOp w op ∧ WritesCleanly w op) (World.fresh options) commits)
    {state : RegistryState} (hlatest : (commits.foldl World.step (World.fresh options)).latest = some state) :
    ∃ report reason,
      (openStore options (commits.foldl World.step (World.fresh options)).disk).1 = .success report reason ∧
        state.storeGeneration ≤ report.state.storeGeneration := by
  have hkept : ∃ image, (commits.foldl World.step (World.fresh options)).Kept options.limits image := by
    apply Runs.Along.invariant (I := fun w => ∃ image, w.Kept options.limits image) _
      ⟨{}, World.kept_fresh rfl hbase⟩ h
    rintro w op ⟨image, hw⟩ ⟨hop, hclean⟩
    cases op with
    | commit state now faults => exact hw.commit hlimits hop.1 hop.2 hclean
    | compact state now faults | reopen options' => cases hop
  obtain ⟨image, hkept⟩ := hkept
  obtain ⟨kept, hvalue, hle⟩ := hkept.latest state hlatest
  have hrecovered := hkept.holds.shown.recovered_eq hbase
  rw [Option.mem_def.mp hvalue] at hrecovered
  obtain ⟨report, reason, hopen, rfl⟩ := recovered_eq_some hrecovered
  exact ⟨report, reason, hopen, hle⟩

/-- A commit, and one whose write is cut short after three bytes. -/
def Lab.torn : List StoreOp := [.commit (Lab.stateAt 1) 0 {}, .commit (Lab.stateAt 2) 0 { journalWrite := some 3 }]

theorem torn_writes_keep_first :
    (Lab.torn.foldl World.step (World.fresh Lab.options)).latest = some (Lab.stateAt 1) ∧
      ∃ report reason,
        (openStore Lab.options (Lab.torn.foldl World.step (World.fresh Lab.options)).disk).1 = .success report reason ∧
          (Lab.stateAt 1).storeGeneration ≤ report.state.storeGeneration := by
  have hlatest : (Lab.torn.foldl World.step (World.fresh Lab.options)).latest = some (stateAt 1) := by
    decide +kernel
  have hfirst := first_settled
  have hsequence : (once Lab.options).store.sequence = 1 := by decide +kernel
  have hfresh : TornOp (World.fresh Lab.options) (.commit (stateAt 1) 0 {}) := by
    refine ⟨rfl, ?_⟩
    rintro generation ⟨⟩
  have hnext : TornOp (once Lab.options) (.commit (stateAt 2) 0 { journalWrite := some 3 }) := by
    refine ⟨rfl, ?_⟩
    rintro generation ⟨⟩
    decide
  have hclean : WritesCleanly (once Lab.options) (.commit (stateAt 2) 0 { journalWrite := some 3 }) := by
    refine ⟨?_, ?_, fun _ => hfirst.aligned.size.symm⟩
    · rw [hfirst.holds.limits_eq]
      exact stateAt_storable 2
    · rw [hsequence]
      decide
  have halong : Runs.Along World.step (fun w op => TornOp w op ∧
      WritesCleanly w op) (World.fresh Lab.options) Lab.torn :=
    ⟨⟨hfresh, stateAt_storable 1, by decide, fun _ => rfl⟩, ⟨hnext, hclean⟩, trivial⟩
  exact ⟨hlatest, torn_writes_keep_commits options_base noWrap halong hlatest⟩

/-- A commit whose write is cut short after one byte, and a whole one. -/
def Lab.tornFirst : List StoreOp := [.commit (Lab.stateAt 1) 0 { journalWrite := some 1 }, .commit (Lab.stateAt 2) 0 {}]

/-- With one byte of an earlier frame before it, an entry does not start with the magic number. -/
theorem Lab.journalFront_shifted (limits : StoreLimits) (entry : Entry) :
    journalFront limits ([0x4F] ++ entry.frame) = .stop ⟨false, some .storeJournalCorrupt⟩ := by
  obtain ⟨rest, hrest⟩ : ∃ rest, entry.frame = 0x4F :: 0x43 :: 0x4A :: 0x52 :: rest := ⟨_, rfl⟩
  have hmagic : getU32 (0x4F :: entry.frame) 0 ≠ kJournalMagic := by
    rw [hrest]
    change UInt32.ofNat (valueBE [0x4F, 0x4F, 0x43, 0x4A]) ≠ kJournalMagic
    decide
  have hlong : ¬ (0x4F :: entry.frame).length < kJournalHeaderSize := by
    rw [length_cons, Entry.length_frame, kJournalHeaderSize]
    omega
  rw [singleton_append, journalFront, if_neg hlong, parseJournalHeader, if_pos hmagic]

/-- The second commit is acknowledged, and the store refuses to open. -/
theorem commit_after_torn_write_lost :
    (Lab.tornFirst.foldl World.step (World.fresh Lab.options)).latest = some (Lab.stateAt 2) ∧
      (openStore Lab.options (Lab.tornFirst.foldl World.step (World.fresh Lab.options)).disk).1 =
        .failure .storeJournalCorrupt (text "store exists but holds no recoverable state") := by
  have hleaves : (World.fresh Lab.options).store.LeavesEntry (stateAt 1) := leaves_entry rfl rfl 1
  have hroom : (World.fresh Lab.options).store.HasRoom (stateAt 1).encode.length := by
    rw [stateAt_length]
    decide
  have hbyte : ((World.fresh Lab.options).store.entryOf (stateAt 1) 0).frame.take 1 = [0x4F] := rfl
  have hfirst : World.step (World.fresh Lab.options) (.commit (stateAt 1) 0 { journalWrite := some 1 }) =
      { store := (World.fresh Lab.options).store.advanced (stateAt 1)
        disk := { journal := some [0x4F] }
        newest := some 1 } := by
    rw [World.step, Store.commit_torn [] 0 hroom hleaves.1 1, hbyte]
    rfl
  have hmore : ((World.fresh Lab.options).store.advanced (stateAt 1)).HasRoom (stateAt 2).encode.length := by
    rw [stateAt_length]
    decide
  obtain ⟨token, hcommit⟩ := Store.commit_appended [] 0 hmore (leaves_entry rfl rfl 2)
  rw [tornFirst, foldl_cons, foldl_cons, foldl_nil, hfirst, World.step]
  dsimp only
  rw [hcommit, Store.journalCall]
  refine ⟨rfl, ?_⟩
  generalize hentry : ((World.fresh Lab.options).store.advanced (stateAt 1)).entryOf (stateAt 2) 0 = entry
  have hlength : entry.state.encode.length = 354 := by
    rw [← hentry]
    exact stateAt_length 2
  have hbound : ([0x4F] ++ entry.frame).length ≤ Lab.options.limits.journalReadBound.toNat := by
    rw [length_append, Entry.length_frame, hlength]
    decide
  have hne : [0x4F] ++ entry.frame ≠ [] := append_ne_nil_of_left_ne_nil (by decide) _
  exact Image.openStore_corrupt options_base rfl rfl hne hbound (journalFront_shifted _ entry) (by decide)

end Ocreg
