/-
Module: Ocreg.Tools.Daemon
Purpose: What tools/ocreg_service.cpp does around the service: a run loads its registry from the store and commits it
  when the service has stopped. Every run starts from what the first one left.
-/
import Ocreg.Proofs.JournalScans
import Ocreg.Registry.Ops

namespace Ocreg.Daemon

open List Registry

/-- What a run is given: its options, and peers that change the registry. -/
structure Run where
  policy : RegistryPolicy
  now : Tick
  serve : Registry → Registry

def storeOptions (path : Bytes) : StoreOptions where
  basePath := path

/-- A store that was just made has no state to adopt. -/
def carriesState (report : OpenReport) : Bool :=
  report.state.records ≠ [] || report.state.incarnations ≠ [] || report.state.tombstones ≠ [] ||
    report.state.conflicts ≠ [] || report.classification = .journalReplayed ||
    report.classification = .tornTailTruncated || report.classification = .trailingCorruptDropped

namespace Run

/-- The registry a run starts with, unless the store or its state is refused. -/
def load (run : Run) : Outcome OpenReport → Option Registry
  | .success report _ =>
    if carriesState report then
      let policy := if report.state.policy.sources = [] then run.policy else report.state.policy
      let adopted := (init policy).adoptState report.state run.now
      if adopted.1.ok then some adopted.2 else none
    else some (init run.policy)
  | .failure reason _ => if reason = .storeEmptyNew then some (init run.policy) else none

def finalState (run : Run) (registry : Registry) : RegistryState :=
  let state := (run.serve registry).toState
  { state with storeGeneration := state.storeGeneration + 1 }

end Run

variable {path : Bytes} {disk : Disk} {run : Run} {registry : Registry} {state : RegistryState}

/-- The files after a run. -/
def step (path : Bytes) (disk : Disk) (run : Run) : Disk :=
  let opened := openStore (storeOptions path) disk
  match run.load opened.1, Store.bind (storeOptions path) opened.2 with
  | some registry, .success store _ => opened.2.after (store.commit (run.finalState registry) run.now [] {}).1.steps
  | _, _ => opened.2

/-- The state the run ends with is read back from an entry of the journal, which has room for it. -/
def Journals (path : Bytes) (disk : Disk) (run : Run) : Prop :=
  ∀ registry, run.load (openStore (storeOptions path) disk).1 = some registry →
    let store : Store := { options := storeOptions path, journalSize := disk.journalBytes.length }
    let state := run.finalState registry
    state.Decodable ∧ state.encode.length ≤ store.options.limits.maxJournalEntryBytes.toNat ∧
      store.HasRoom state.encode.length

/-- All entries of the journal have the number of the first, whose state is given. -/
structure Stuck (state : RegistryState) (disk : Disk) : Prop where
  snapshot : disk.snapshot = none
  entries : ∃ first stale, first.state = state ∧ disk.journal = some ((first :: stale).flatMap Entry.frame) ∧
    ∀ entry ∈ first :: stale, entry.Readable {} ∧ entry.sequence = 1
  bound : disk.journalBytes.length ≤ ({} : StoreLimits).journalReadBound.toNat

theorem Stuck.opened (h : Stuck state disk) (hpath : path ≠ []) :
    ∃ report, openStore (storeOptions path) disk = (.success report .ok, { disk with temp := none }) ∧
      report.state = state := by
  obtain ⟨first, stale, rfl, hjournal, hentries⟩ := h.entries
  obtain ⟨hfirst, hstale⟩ := forall_mem_cons.mp hentries
  obtain ⟨hpayload, -, hnone⟩ := scanJournal_stale (forall_mem_singleton.mpr hfirst.1)
    (fun entry hentry => (hstale entry hentry).1) (isChain_singleton _) rfl
    fun entry hentry => ((hstale entry hentry).2.trans hfirst.2.symm).le
  obtain ⟨counts, hadopt⟩ := adoptJournal_decodable hfirst.1.decodable hpayload
  have hbound := h.bound
  rw [Disk.journalBytes, hjournal] at hbound
  have hgoes : GoesOn (storeOptions path) disk ((first :: stale).flatMap Entry.frame) first.state :=
    ⟨hpath, hbound, none, counts, congrArg (openSnapshot _) h.snapshot, hadopt⟩
  obtain ⟨report, hopen, hstate, -⟩ := hgoes.openStore_eq hjournal
  have hkeep : (disk.repaired {} ((first :: stale).flatMap Entry.frame)).journal = disk.journal :=
    (congrArg some (if_neg hnone.not_gt)).trans hjournal.symm
  exact ⟨report, hopen.trans (congrArg (fun journal => (_, Disk.mk disk.snapshot journal none)) hkeep), hstate⟩

/-- The entry of every run has the number of the first. -/
theorem step_eq {report : OpenReport} (hpath : path ≠ []) (hjournals : Journals path disk run)
    (hopen : openStore (storeOptions path) disk = (.success report .ok, { disk with temp := none }))
    (hload : run.load (.success report .ok) = some registry) :
    let entry : Entry := ⟨1, run.now, run.finalState registry⟩
    step path disk run = { disk with journal := some (disk.journalBytes ++ entry.frame), temp := none } ∧
      entry.Readable {} ∧
      (disk.journalBytes ++ entry.frame).length ≤ ({} : StoreLimits).journalReadBound.toNat := by
  intro entry
  obtain ⟨hdecodable, hfit, hroom⟩ := hjournals registry (hopen ▸ hload)
  obtain ⟨token, hcommit⟩ := Store.commit_appended [] run.now hroom
    ⟨hfit, fun h => absurd (show 4096 ≤ 1 from h.2) (by decide)⟩
  have hbind : Store.bind (storeOptions path) { disk with temp := none } =
      .success { options := storeOptions path, journalSize := disk.journalBytes.length } .ok := if_neg hpath
  have hword : (run.finalState registry).encode.length < 2 ^ 32 := hfit.trans_lt (show 1024 * 1024 < 2 ^ 32 by decide)
  refine ⟨?_, ⟨hdecodable, hword, hfit⟩, ?_⟩
  · rw [step, hopen]
    dsimp only
    rw [hload, hbind]
    dsimp only
    rw [hcommit]
    rfl
  · rw [length_append, entry.length_frame]
    exact hroom.1.trans Lab.noWrap.bound

theorem Stuck.step (h : Stuck state disk) (hpath : path ≠ []) (hjournals : Journals path disk run) :
    Stuck state (step path disk run) := by
  obtain ⟨report, hopen, -⟩ := h.opened hpath
  cases hload : run.load (.success report .ok) with
  | none =>
    rw [Daemon.step, hopen]
    dsimp only
    rw [hload]
    exact ⟨h.snapshot, h.entries, h.bound⟩
  | some registry =>
    obtain ⟨hstep, hreadable, hbound⟩ := step_eq hpath hjournals hopen hload
    obtain ⟨first, stale, hfirst, hjournal, hentries⟩ := h.entries
    rw [hstep]
    refine ⟨h.snapshot, ⟨first, stale ++ [⟨1, run.now, run.finalState registry⟩], hfirst, ?_, ?_⟩, hbound⟩
    · rw [Disk.journalBytes, hjournal, ← cons_append, flatMap_append, flatMap_singleton]
      rfl
    · rw [← cons_append]
      exact forall_mem_append.mpr ⟨hentries, forall_mem_singleton.mpr ⟨hreadable, rfl⟩⟩

theorem stuck_first (hpath : path ≠ []) (hjournals : Journals path {} run) :
    Stuck (run.finalState (init run.policy)) (step path {} run) := by
  have hopen : openStore (storeOptions path) {} = (.success {} .ok, {}) := if_neg hpath
  obtain ⟨hstep, hreadable, hbound⟩ := step_eq hpath hjournals hopen rfl
  rw [hstep]
  refine ⟨rfl, ⟨_, [], rfl, ?_, forall_mem_singleton.mpr ⟨hreadable, rfl⟩⟩, hbound⟩
  rw [flatMap_singleton]
  rfl

/-- Whatever the peers of the later runs do, the store is opened with the state of the first one. -/
theorem runs_start_from_first (hpath : path ≠ []) {first : Run} {runs : List Run}
    (hruns : Runs.Along (step path) (Journals path) {} (first :: runs)) :
    ∃ report, (openStore (storeOptions path) ((first :: runs).foldl (step path) {})).1 = .success report .ok ∧
      report.state = first.finalState (init first.policy) := by
  obtain ⟨report, hopened, hstate⟩ := Stuck.opened
    (hruns.2.invariant (fun _ _ h hjournals => h.step hpath hjournals) (stuck_first hpath hruns.1)) hpath
  exact ⟨report, congrArg Prod.fst hopened, hstate⟩

/-- A run without peers. -/
def idle : Run := ⟨{}, 0, fun registry => registry⟩

theorem runs_start_from_first_idle : ∃ report,
    (openStore (storeOptions (text "registry")) ([idle, idle].foldl (step (text "registry")) {})).1 =
      .success report .ok ∧ report.state = idle.finalState (init {}) := by
  have hpath : text "registry" ≠ [] := by decide
  have hfirst : Journals (text "registry") {} idle := by
    rintro _ ⟨⟩
    unfold RegistryState.Decodable
    decide +kernel
  have hsecond : Journals (text "registry") (step (text "registry") {} idle) idle := by
    obtain ⟨report, hopen, hstate⟩ := (stuck_first hpath hfirst).opened hpath
    have hsize : (step (text "registry") {} idle).journalBytes.length = 434 := by decide +kernel
    intro registry hload
    rw [hopen, Run.load, hstate] at hload
    rw [hsize]
    unfold RegistryState.Decodable
    split at hload <;> cases hload <;> decide +kernel
  have hruns : Runs.Along (step (text "registry")) (Journals (text "registry")) {} [idle, idle] :=
    ⟨hfirst, hsecond, trivial⟩
  exact runs_start_from_first hpath hruns

end Ocreg.Daemon
