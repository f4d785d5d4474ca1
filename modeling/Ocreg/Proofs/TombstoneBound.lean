/-
Module: Ocreg.Proofs.TombstoneBound
Purpose: The bound on tombstones. The oldest tombstone goes when there are too many, unless it is the one just
  stored, so the bound holds exactly along the runs on which every retirement finds a place.
-/
import Ocreg.Lib.Runs
import Ocreg.Registry.Step

namespace Ocreg

open SortedMap Registry Lab Scan

variable {key : EvidenceKey} {tombstone : RetirementRecord} {request : RetirementRequest}

namespace Registry

variable {s : Registry} {now : Tick} {oldest : EvidenceKey × RetirementRecord}

section

variable (s) (key) (now)

/-- A tombstone that would go before one of this key and tick: an older one, or one as old that comes first. -/
def HasOlder : Prop :=
  ∃ entry ∈ s.tombstones.entries,
    entry.2.retiredAt < now ∧ entry.1 ≠ key ∨ entry.2.retiredAt = now ∧ entry.1 < key

/-- A tombstone has a place: its own, a free one, or that of an older one. -/
def TombstonePlace : Prop :=
  (s.findTombstone key).isSome ∨ s.tombstones.size < s.policy.limits.maxTombstones.toNat ∨ s.HasOlder key now

end

/-- A retirement that takes effect finds a place for its tombstone, and an adopted state has no more streams with
    tombstones than the registry takes. -/
def KeepsTombstones (s : Registry) : Op → Prop
  | .retire request now =>
    s.retirementRefusal request = none → s.fenceRefusal request = none → s.TombstonePlace request.key now
  | .adoptState state _ =>
    (state.tombstones.map RetirementRecord.key).toFinset.card ≤ s.policy.limits.maxTombstones.toNat
  | _ => True

section Oldest

variable (holdest : bestBy (fun a b : EvidenceKey × RetirementRecord => a.2.older b.2)
    (s.tombstones.insert key tombstone).entries = some oldest)

include holdest

/-- The oldest tombstone comes before the one just stored, by age and then by key. -/
theorem oldest_before_stored {entry : EvidenceKey × RetirementRecord}
    (hentry : entry ∈ (s.tombstones.insert key tombstone).entries) :
    oldest.2.retiredAt < entry.2.retiredAt ∨ oldest.2.retiredAt = entry.2.retiredAt ∧ oldest.1 ≤ entry.1 :=
  bestBy_first (fun _ _ => decide_eq_true_iff) (s.tombstones.insert key tombstone).ordered holdest hentry

/-- A table at its bound that holds an older tombstone drops another one than the one just stored. -/
theorem oldest_ne_of_older (holder : s.HasOlder key tombstone.retiredAt) : oldest.1 ≠ key := by
  intro hkey
  obtain ⟨entry, hentry, hbefore⟩ := holder
  have hself : oldest.2.retiredAt = tombstone.retiredAt := by
    have hmem := mem_entries_iff.mp (bestBy_mem holdest)
    rw [hkey, find?_insert_self] at hmem
    cases hmem
    rfl
  have hne : entry.1 ≠ key := by
    rcases hbefore with ⟨_, hne⟩ | ⟨_, hlt⟩
    · exact hne
    · exact ne_of_lt hlt
  have hmem : entry ∈ (s.tombstones.insert key tombstone).entries := by
    rw [mem_entries_iff, find?_insert_of_ne _ _ hne]
    exact mem_entries_iff.mp hentry
  have hfirst := oldest_before_stored holdest hmem
  rw [hself, hkey] at hfirst
  rcases hbefore with ⟨hlt, _⟩ | ⟨heq, hlt⟩
  · rcases hfirst with hworse | ⟨heq, _⟩
    · exact absurd (hworse.trans hlt) (lt_irrefl _)
    · exact absurd hlt (heq ▸ lt_irrefl _)
  · rcases hfirst with hworse | ⟨_, hle⟩
    · exact absurd heq (ne_of_gt hworse)
    · exact absurd hlt (not_lt.mpr hle)

/-- When another tombstone than the one just stored goes, it is an older one. -/
theorem older_of_oldest_ne (hne : oldest.1 ≠ key) : s.HasOlder key tombstone.retiredAt := by
  have hstored : (key, tombstone) ∈ (s.tombstones.insert key tombstone).entries := by
    rw [mem_entries_iff]
    exact find?_insert_self _ _ _
  have hmem := mem_entries_iff.mp (bestBy_mem holdest)
  rw [find?_insert_of_ne _ _ hne] at hmem
  refine ⟨oldest, mem_entries_iff.mpr hmem, ?_⟩
  rcases oldest_before_stored holdest hstored with hlt | ⟨heq, hle⟩
  · exact .inl ⟨hlt, hne⟩
  · exact .inr ⟨heq, lt_of_le_of_ne hle hne⟩

end Oldest

/-- Storing a tombstone keeps the table within its bound exactly when it has a place. -/
theorem size_pushTombstone (tombstone : RetirementRecord)
    (hbound : s.tombstones.size ≤ s.policy.limits.maxTombstones.toNat)
    (hraise : ∀ slot ∈ s.findTombstone tombstone.key, slot.generation < tombstone.generation) :
    (s.pushTombstone tombstone).tombstones.size ≤ s.policy.limits.maxTombstones.toNat ↔
      s.TombstonePlace tombstone.key tombstone.retiredAt := by
  have hsize := s.tombstones.size_insert tombstone.key tombstone
  rw [pushTombstone_of_raise hraise, dropTombstone, TombstonePlace, findTombstone]
  dsimp only
  by_cases hsome : (s.tombstones.find? tombstone.key).isSome = true
  · rw [if_pos hsome] at hsize
    rw [if_neg (by rw [hsize]; exact not_lt.mpr hbound), hsize]
    exact iff_of_true hbound (.inl hsome)
  · rw [if_neg hsome] at hsize
    by_cases hfree : s.tombstones.size < s.policy.limits.maxTombstones.toNat
    · rw [if_neg (by rw [hsize]; exact not_lt.mpr hfree), hsize]
      exact iff_of_true hfree (.inr (.inl hfree))
    · rw [if_pos (by rw [hsize]; exact Nat.lt_succ_of_le (not_lt.mp hfree)), oldestTombstone]
      dsimp only
      cases holdest : bestBy (fun a b : EvidenceKey × RetirementRecord => a.2.older b.2)
          (s.tombstones.insert tombstone.key tombstone).entries with
      | none =>
        rw [bestBy_eq_none] at holdest
        rw [size, holdest] at hsize
        cases hsize
      | some oldest =>
        dsimp only
        by_cases hne : oldest.1 ≠ tombstone.key
        · rw [if_pos hne]
          have herased := size_erase_of_some (mem_entries_iff.mp (bestBy_mem holdest))
          refine iff_of_true ?_ (.inr (.inr (older_of_oldest_ne holdest hne)))
          dsimp only
          omega
        · rw [if_neg hne]
          refine iff_of_false ?_ ?_
          · dsimp only
            omega
          · rintro (hslot | hroom | holder)
            · exact hsome hslot
            · exact hfree hroom
            · exact hne (oldest_ne_of_older holdest holder)

/-- A retirement above every tombstone and record of its stream is not refused for its generation. -/
theorem fenceRefusal_of_raise {stream : Stream}
    (hslot : ∀ tombstone ∈ s.findTombstone request.key, tombstone.generation < request.generation)
    (hstream : s.findStream request.key = some stream)
    (habove : stream.maxGeneration = 0 ∨ stream.maxGeneration < request.generation) :
    s.fenceRefusal request = none := by
  rw [fenceRefusal, if_neg, hstream]
  · dsimp only
    rw [if_neg]
    rintro ⟨hzero, hle⟩
    rcases habove with hmax | hlt
    · exact hzero hmax
    · exact absurd hlt (not_lt.mpr hle)
  · rintro ⟨tombstone, htombstone, hgt⟩
    exact absurd (hslot tombstone htombstone) (not_lt.mpr (le_of_lt hgt))

theorem size_tombstones_retire (hbound : s.tombstones.size ≤ s.policy.limits.maxTombstones.toNat) :
    (s.retire request now).2.tombstones.size ≤ s.policy.limits.maxTombstones.toNat ↔
      s.KeepsTombstones (.retire request now) := by
  rw [KeepsTombstones]
  generalize hop : s.retire request now = result
  cases s.retire_view hop with
  | @refused refusal hrefused =>
    refine iff_of_true hbound ?_
    intro haccepted hopen
    rcases hrefused with hrefused | hrefused
    · rw [haccepted] at hrefused
      cases hrefused
    · rw [hopen] at hrefused
      cases hrefused
  | @repeated tombstone hslot _ =>
    refine iff_of_true hbound ?_
    intro _ _
    rw [TombstonePlace, hslot]
    exact .inl rfl
  | @retired stream haccepted hslot hstream habove =>
    have hfence := fenceRefusal_of_raise hslot hstream habove
    have hpushed := size_pushTombstone (s := s.retireStream (s.tombstoneOf request now))
      (s.tombstoneOf request now) hbound hslot
    have htable : (s.settleRetired (s.tombstoneOf request now)).tombstones =
        ((s.retireStream (s.tombstoneOf request now)).pushTombstone (s.tombstoneOf request now)).tombstones :=
      (refreshConflict_evidence _ _ _ _).tombstones
    rw [htable]
    exact hpushed.trans ⟨fun hplace _ _ => hplace, fun hplace => hplace haccepted hfence⟩

/-- An adopted state brings one tombstone for each stream it names. -/
theorem size_tombstones_adoptState (s : Registry) (state : RegistryState) (now : Tick) :
    (s.adoptState state now).2.tombstones.size = (state.tombstones.map RetirementRecord.key).toFinset.card := by
  have htable : (s.adoptState state now).2.tombstones = (s.rebooted state now).tombstones :=
    (refreshAllConflicts_evidence (resumeTick state now) (.refl (s.rebooted state now))).tombstones
  rw [htable]
  exact (size_foldl_insert RetirementRecord.key state.tombstones).1

/-- One step ends with the tombstones within their bound exactly when it finds room for them. -/
theorem size_tombstones_step (hbound : s.tombstones.size ≤ s.policy.limits.maxTombstones.toNat) (op : Op) :
    (s.step op).tombstones.size ≤ s.policy.limits.maxTombstones.toNat ↔ s.KeepsTombstones op := by
  rcases op.made_or .adoptState with ⟨state, now, rfl⟩ | hadopt
  · rw [step, size_tombstones_adoptState]
    exact Iff.rfl
  · rcases op.made_or .retire with ⟨request, now, rfl⟩ | hretire
    · exact size_tombstones_retire hbound
    · have hsame : (s.step op).tombstones = s.tombstones := by
        rcases s.step_cases hadopt with ⟨request, now, _, hstep⟩ | ⟨request, now, hop, _⟩ | hframe
        · rw [hstep, tombstones_admitRequest]
        · exact absurd hop (hretire request now)
        · exact hframe.tombstones
      rw [hsame]
      refine iff_of_true hbound ?_
      cases op with
      | retire request now => exact absurd rfl (hretire request now)
      | adoptState state now => exact absurd rfl (hadopt state now)
      | _ => trivial

end Registry

/-- Under a bound on tombstones that stays, the bound holds after every operation of a run exactly when every
    retirement that takes effect finds a place for its tombstone and every adopted state brings few enough. -/
theorem tombstones_within_iff (s : Registry) (ops : List Op)
    (hstart : s.tombstones.size ≤ s.policy.limits.maxTombstones.toNat)
    (hfixed : Runs.Along step
      (fun s op => (s.step op).policy.limits.maxTombstones = s.policy.limits.maxTombstones) s ops) :
    Runs.Along step
        (fun s op => (s.step op).tombstones.size ≤ (s.step op).policy.limits.maxTombstones.toNat) s ops ↔
      Runs.Along step Registry.KeepsTombstones s ops := by
  refine Runs.Along.iff_of_invariant (I := fun s => s.tombstones.size ≤ s.policy.limits.maxTombstones.toNat)
    ?_ ?_ hstart hfixed
  · intro s op hbound hlimit
    rw [hlimit]
    exact size_tombstones_step hbound op
  · exact fun s op _ _ hafter => hafter

namespace Lab

/-- Room for one tombstone. -/
def oneTombstone : RegistryPolicy := { policy with limits := { policy.limits with maxTombstones := 1 } }

def oneRetirement : List Op := [.admitRequest (Lab.request 0 1 5) 5, .retire (retirement 0 2 9) 9]

/-- Two streams retired, the second with an earlier tick than the first. -/
def lateRetirement : List Op :=
  [.admitRequest (Lab.request 0 1 5) 5, .admitRequest (Lab.request 1 1 5) 5, .retire (retirement 0 2 9) 9,
    .retire (retirement 1 2 7) 7]

end Lab

theorem tombstones_within_one_retirement :
    Runs.Along step
      (fun s op => (s.step op).tombstones.size ≤ (s.step op).policy.limits.maxTombstones.toNat)
      (init oneTombstone) oneRetirement := by
  have hfixed : Runs.Along step
      (fun s op => (s.step op).policy.limits.maxTombstones = s.policy.limits.maxTombstones)
      (init oneTombstone) oneRetirement :=
    ⟨by decide +kernel, by decide +kernel, trivial⟩
  apply (tombstones_within_iff (init oneTombstone) oneRetirement (by decide) hfixed).mpr
  refine ⟨trivial, ?_, trivial⟩
  intro _ _
  exact .inr (.inl (by decide +kernel))

/-- A retirement older than the stored one leaves two tombstones where one is allowed. -/
theorem late_retirement_overflows :
    Lab.oneTombstone.limits.maxTombstones = 1 ∧
    ((init Lab.oneTombstone).run Lab.lateRetirement).policy.limits.maxTombstones = 1 ∧
    ((init Lab.oneTombstone).run Lab.lateRetirement).tombstones.size = 2 := by
  refine ⟨by decide, by decide +kernel, by decide +kernel⟩

end Ocreg
