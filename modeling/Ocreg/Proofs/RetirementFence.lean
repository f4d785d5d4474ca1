/-
Module: Ocreg.Proofs.RetirementFence
Purpose: A retired stream stays retired: records up to a tombstone's generation are never active again and
  are not admitted again, across any operations and restarts that drop no tombstone.
-/
import Ocreg.Registry.Step

namespace Ocreg

open Registry SortedMap Lab

variable {tombstone : RetirementRecord} {key : EvidenceKey}

/-- One public operation, or a restart: the snapshot taken now goes into another registry, by adoption or
    through the restoring constructor. -/
inductive Move : Registry → Registry → Prop
  | op (s : Registry) (op : Op) (hadopt : op.Ordinary) : Move s (s.step op)
  | adopt (s host : Registry) (now : Tick) : Move s (host.step (.adoptState s.toState now))
  | restore (s : Registry) (policy : RegistryPolicy) : Move s (restore policy s.toState)

/-- A move that drops no tombstone. -/
def Move.Keeping (s t : Registry) : Prop :=
  Move s t ∧ t.counters.tombstonesDropped = s.counters.tombstonesDropped

/-- Tombstones sit under their own keys. -/
def Registry.TombstonesKeyed (s : Registry) : Prop :=
  ∀ key tombstone, s.tombstones.find? key = some tombstone → tombstone.key = key

/-- No record of a stream up to its tombstone is admitted. -/
def fencedBy (tombstones : SortedMap EvidenceKey RetirementRecord) (key : EvidenceKey) (stream : Stream) : Prop :=
  ∀ tombstone ∈ tombstones.find? key, ∀ record ∈ stream.records,
    record.evidence.generation ≤ tombstone.generation → record.lifecycle ≠ .admitted

/-- What ties tombstones to records in every registry a run reaches. -/
structure FenceInvariant (s : Registry) : Prop where
  keyed : s.AllStreams Stream.Keyed
  tombstones : s.TombstonesKeyed
  fenced : s.AllStreams (fencedBy s.tombstones)

namespace FenceInvariant

variable {s t : Registry}

theorem init (policy : RegistryPolicy) : FenceInvariant (init policy) where
  keyed := by
    intro key stream hfind
    cases hfind
  tombstones := by
    intro key tombstone hfind
    cases hfind
  fenced := by
    intro key stream hfind
    cases hfind

theorem of_frame (h : FenceInvariant s) (hstreams : t.streams = s.streams)
    (htombstones : t.tombstones = s.tombstones) : FenceInvariant t where
  keyed := h.keyed.of_streams_eq hstreams
  tombstones := by
    intro key tombstone hfind
    rw [htombstones] at hfind
    exact h.tombstones key tombstone hfind
  fenced := by
    rw [htombstones]
    exact h.fenced.of_streams_eq hstreams

/-! ### Admission -/

theorem admitRequest (h : FenceInvariant s) (request : AdmissionRequest) (now : Tick) :
    FenceInvariant (s.admitRequest request now).2 := by
  have hkeyed : (s.step (.admitRequest request now)).AllStreams Stream.Keyed := keyed_step h.keyed nofun
  refine ⟨hkeyed, ?_, ?_⟩
  · intro key tombstone hfind
    rw [tombstones_admitRequest] at hfind
    exact h.tombstones key tombstone hfind
  · rw [tombstones_admitRequest]
    refine admitRequest_allStreams h.fenced (by simp [fencedBy, Stream.empty]) ?_ ?_ ?_
    · intro key stream id hfenced tombstone htombstone record hrecord
      exact hfenced tombstone htombstone record ((stream.without_sublist id).subset hrecord)
    · intro reason _ _ _ hfenced tombstone htombstone
      exact forall_insertRecord.mpr ⟨fun _ => by simp [storedOf], hfenced tombstone htombstone⟩
    · intro reason _ _ _ habove hfenced tombstone htombstone
      refine forall_insertRecord.mpr ⟨fun hle => ?_, hfenced tombstone htombstone⟩
      -- an admitted record lies above the tombstone
      exact absurd hle (not_le.mpr (habove tombstone htombstone))

/-! ### Retirement -/

/-- A retirement that takes effect leaves no admitted record up to its generation, and raises the fence. -/
theorem settleRetired (h : FenceInvariant s)
    (hraise : ∀ slot ∈ s.findTombstone tombstone.key, slot.generation < tombstone.generation) :
    FenceInvariant (s.settleRetired tombstone) ∧
      (s.settleRetired tombstone).findTombstone tombstone.key = some tombstone := by
  have hinserted : FenceInvariant
      { s.retireStream tombstone with tombstones := s.tombstones.insert tombstone.key tombstone } := by
    refine ⟨?_, ?_, ?_⟩
    · refine h.keyed.of_insert ?_ rfl
      intro record hrecord
      obtain ⟨old, hold, rfl⟩ := List.mem_map.mp hrecord
      obtain ⟨stream, hfind, hmem⟩ := find_of_mem_streamAt hold
      have hkey := h.keyed tombstone.key stream hfind old hmem
      rw [StoredEvidence.retiredUpTo]
      split
      · exact hkey
      · exact hkey
    · intro key slot hfind
      rw [find?_insert] at hfind
      split at hfind
      next heq =>
        cases hfind
        exact heq.symm
      next => exact h.tombstones key slot hfind
    · intro key stream hfind slot hslot record hrecord hle
      rw [Option.mem_def, find?_insert] at hslot
      have hstream : (s.streams.insert tombstone.key { s.streamAt tombstone.key with
            records := (s.streamAt tombstone.key).records.map (StoredEvidence.retiredUpTo tombstone.generation
              tombstone.retiredAt tombstone.reason) }).find? key = some stream := hfind
      rw [find?_insert] at hstream
      split at hslot
      next heq =>
        cases hslot
        rw [if_pos heq] at hstream
        cases hstream
        obtain ⟨old, _, rfl⟩ := List.mem_map.mp hrecord
        rw [StoredEvidence.retiredUpTo] at hle ⊢
        split
        next => simp
        next hkept =>
          rw [if_neg hkept] at hle
          exact fun hadmitted => hkept ⟨hle, hadmitted⟩
      next hne =>
        rw [if_neg hne] at hstream
        exact h.fenced key stream hstream slot hslot record hrecord hle
  have hstreams := s.streams_settleRetired tombstone
  rw [findTombstone]
  rcases tombstones_settleRetired tombstone hraise with htable | ⟨oldest, hother, htable⟩
  · refine ⟨hinserted.of_frame hstreams htable, ?_⟩
    rw [htable]
    exact find?_insert_self _ _ _
  · refine ⟨?_, ?_⟩
    · refine of_frame (s := { s.retireStream tombstone with
          tombstones := (s.tombstones.insert tombstone.key tombstone).erase oldest }) ?_ hstreams htable
      -- fewer tombstones fence less
      have hsub : ∀ key slot, ((s.tombstones.insert tombstone.key tombstone).erase oldest).find? key = some slot →
          (s.tombstones.insert tombstone.key tombstone).find? key = some slot := by
        intro key slot hfind
        rw [find?_erase] at hfind
        split at hfind
        · cases hfind
        · exact hfind
      exact ⟨hinserted.keyed, fun key slot hfind => hinserted.tombstones key slot (hsub key slot hfind),
        fun key stream hfind slot hslot => hinserted.fenced key stream hfind slot (hsub key slot hslot)⟩
    · rw [htable]
      exact (find?_erase_of_ne _ (Ne.symm hother)).trans (find?_insert_self _ _ _)

theorem retire (h : FenceInvariant s) (request : RetirementRequest) (now : Tick) :
    FenceInvariant (s.retire request now).2 := by
  generalize hop : s.retire request now = result
  cases s.retire_view hop with
  | retired _ hslot _ _ => exact (h.settleRetired hslot).1
  | _ => exact h.of_frame rfl rfl

/-! ### Restarts -/

theorem of_snapshot (h : FenceInvariant s) (hstreams : t.streams = restoreStreams s.flattenRecords)
    (htombstones : t.tombstones = s.tombstones.values.foldl
      (fun table tombstone => table.insert tombstone.key tombstone) .empty) : FenceInvariant t := by
  have hsame : t.tombstones = s.tombstones := by
    rw [htombstones]
    exact foldl_insert_values RetirementRecord.key s.tombstones h.tombstones
  have hrecord : ∀ key stream, t.streams.find? key = some stream → ∀ record ∈ stream.records,
      record.evidence.key = key ∧ ∃ old, s.streams.find? key = some old ∧ record ∈ old.records := by
    intro key stream hfind record hmem
    rw [hstreams] at hfind
    obtain ⟨hflat, hkey⟩ := (mem_restored hfind).mp hmem
    obtain ⟨key', old, hold, hmem'⟩ := mem_flattenRecords.mp hflat
    have hkey' := h.keyed key' old hold record hmem'
    rw [hkey] at hkey'
    exact ⟨hkey, old, hkey' ▸ hold, hmem'⟩
  refine ⟨fun key stream hfind record hmem => (hrecord key stream hfind record hmem).1, ?_, ?_⟩
  · intro key tombstone hfind
    rw [hsame] at hfind
    exact h.tombstones key tombstone hfind
  · rw [hsame]
    intro key stream hfind tombstone htombstone record hmem
    obtain ⟨_, old, hold, hmem'⟩ := hrecord key stream hfind record hmem
    exact h.fenced key old hold tombstone htombstone record hmem'

theorem move (h : FenceInvariant s) (hmove : Move s t) : FenceInvariant t := by
  cases hmove with
  | op op hadopt =>
    rcases s.step_cases hadopt with ⟨request, now, _, hstep⟩ | ⟨request, now, _, hstep⟩ | hframe
    · rw [hstep]
      exact h.admitRequest request now
    · rw [hstep]
      exact h.retire request now
    · exact h.of_frame hframe.streams hframe.tombstones
  | adopt host now =>
    have hrefresh := refreshAllConflicts_evidence (resumeTick s.toState now) (.refl (host.rebooted s.toState now))
    exact h.of_snapshot hrefresh.streams hrefresh.tombstones
  | restore policy => exact h.of_snapshot rfl rfl

theorem of_run {policy : RegistryPolicy} (hrun : Relation.ReflTransGen Move (Registry.init policy) s) :
    FenceInvariant s := by
  induction hrun with
  | refl => exact .init policy
  | tail _ hmove ih => exact ih.move hmove

/-! ### What the fence keeps out -/

/-- No record up to the fence is active, at any tick and under any age override. -/
theorem inactive (h : FenceInvariant s) (hslot : s.findTombstone key = some tombstone)
    {device : DeviceIncarnationRef} {kind : CapabilityKind} {now override : Tick} {fact : DerivedFact}
    (hfact : fact ∈ (s.derive device kind now override).facts) (hkey : fact.record.evidence.key = key)
    (hle : fact.record.evidence.generation ≤ tombstone.generation) : fact.state ≠ .active := by
  intro hactive
  obtain ⟨key', stream, _, hfind, _, _, hmem, heligible⟩ :=
    derive_facts_eligible hfact (.inl hactive)
  have hkey' : key' = key := (h.keyed key' stream hfind _ hmem).symm.trans hkey
  rw [hkey'] at hfind
  exact h.fenced key stream hfind tombstone hslot _ hmem hle heligible.admitted

end FenceInvariant

namespace Registry.FencedAt

variable {s t : Registry} {generation : RecordGeneration}

section

variable (h : s.FencedAt key generation)

include h

/-- Admissions below the fence fail and store nothing. -/
theorem refuses {request : AdmissionRequest} (hkey : request.key = key) (hle : request.generation ≤ generation)
    (now : Tick) : (s.admitRequest request now).1.ok = false ∧ (s.admitRequest request now).2.streams = s.streams := by
  obtain ⟨tombstone, hslot, hbound⟩ := h
  have hrefuses : ∀ {u}, ¬ Admissible s request now u :=
    fun ht => not_lt.mpr (hle.trans hbound) (above_tombstone_of_admissible ht tombstone (hkey ▸ hslot))
  generalize hop : s.admitRequest request now = result
  cases s.admitRequest_view hop with
  | fenced _ hregistered _ => exact ⟨rfl, (registerIncarnation_evidence hregistered).streams⟩
  | duplicate ht _ => exact absurd ht hrefuses
  | rejected ht _ _ _ | retained ht _ _ _ | exhausted ht _ _ | accepted ht _ _ => exact absurd ht hrefuses
  | _ => exact ⟨rfl, rfl⟩

theorem of_tombstones_eq (heq : t.tombstones = s.tombstones) : t.FencedAt key generation := by
  obtain ⟨tombstone, hslot, hle⟩ := h
  exact ⟨tombstone, by rw [findTombstone, heq]; exact hslot, hle⟩

/-- Retiring again raises the fence of its own stream and, dropping none, leaves the others. -/
theorem settleRetired (hraise : ∀ slot ∈ s.findTombstone tombstone.key, slot.generation < tombstone.generation)
    (hkept : (s.settleRetired tombstone).counters.tombstonesDropped = s.counters.tombstonesDropped) :
    (s.settleRetired tombstone).FencedAt key generation := by
  obtain ⟨slot, hslot, hle⟩ := h
  have hrefresh := refreshConflict_evidence ((s.retireStream tombstone).pushTombstone tombstone).countRetired
    tombstone.key.device tombstone.key.kind tombstone.retiredAt
  rw [Registry.settleRetired, hrefresh.tombstonesDropped] at hkept
  rw [Registry.settleRetired, FencedAt, Registry.findTombstone, hrefresh.tombstones]
  have hraise' : ∀ slot ∈ (s.retireStream tombstone).findTombstone tombstone.key,
      slot.generation < tombstone.generation := hraise
  rcases pushTombstone_cases hraise' with hpush | ⟨oldest, _, hpush⟩
  · rw [hpush]
    show ∃ found, (s.tombstones.insert tombstone.key tombstone).find? key = some found ∧ _
    rw [SortedMap.find?_insert]
    split
    next heq =>
      subst heq
      exact ⟨tombstone, rfl, hle.trans (hraise slot hslot).le⟩
    next => exact ⟨slot, hslot, hle⟩
  · -- the count would have grown
    rw [hpush] at hkept
    exact absurd hkept (by simp [countRetired, retireStream])

theorem keeping (hinv : FenceInvariant s) (hmove : Move.Keeping s t) : t.FencedAt key generation := by
  obtain ⟨hmove, hkept⟩ := hmove
  cases hmove with
  | op op hadopt =>
    rcases s.step_cases hadopt with ⟨request, now, _, hstep⟩ | ⟨request, now, _, hstep⟩ | hframe
    · exact h.of_tombstones_eq (by rw [hstep, tombstones_admitRequest])
    · rw [hstep] at hkept ⊢
      generalize hop : s.retire request now = result at hkept
      cases s.retire_view hop with
      | retired _ hslot _ _ => exact h.settleRetired hslot hkept
      | _ => exact h.of_tombstones_eq rfl
    · exact h.of_tombstones_eq hframe.tombstones
  | adopt host now =>
    have hrefresh := refreshAllConflicts_evidence (resumeTick s.toState now) (.refl (host.rebooted s.toState now))
    exact h.of_tombstones_eq (hrefresh.tombstones.trans
      (foldl_insert_values RetirementRecord.key s.tombstones hinv.tombstones))
  | restore policy =>
    exact h.of_tombstones_eq (foldl_insert_values RetirementRecord.key s.tombstones hinv.tombstones)

/-- A run that drops no tombstone keeps the invariant and the fence. -/
theorem run (hinv : FenceInvariant s) (hrun : Relation.ReflTransGen Move.Keeping s t) :
    FenceInvariant t ∧ t.FencedAt key generation := by
  induction hrun with
  | refl => exact ⟨hinv, h⟩
  | tail _ hmove ih => exact ⟨ih.1.move hmove.1, ih.2.keeping ih.1 hmove⟩

end

/-- A successful retirement puts the fence up. -/
theorem of_retire (hinv : FenceInvariant s) {request : RetirementRequest} {now : Tick}
    (hok : (s.retire request now).1.ok = true) : (s.retire request now).2.FencedAt request.key request.generation := by
  generalize hop : s.retire request now = result at hok
  cases s.retire_view hop with
  | refused _ => cases hok
  | repeated hslot hgeneration => exact ⟨_, hslot, hgeneration.ge⟩
  | retired _ hslot _ _ => exact ⟨_, (hinv.settleRetired hslot).2, le_rfl⟩

end Registry.FencedAt

/-- Once a stream is retired at a generation, its records up to there are never active again and admissions
    up to there are refused, however the registry is used and restarted, as long as no tombstone is dropped. -/
theorem retirement_fence {policy : RegistryPolicy} {s t : Registry} {request : RetirementRequest} {now : Tick}
    (hreach : Relation.ReflTransGen Move (Registry.init policy) s)
    (hretired : (s.retire request now).1.ok = true)
    (hrun : Relation.ReflTransGen Move.Keeping (s.retire request now).2 t) :
    (∀ device kind tick override, ∀ fact ∈ (t.derive device kind tick override).facts,
      fact.record.evidence.key = request.key → fact.record.evidence.generation ≤ request.generation →
      fact.state ≠ .active) ∧
    (∀ later tick, later.key = request.key → later.generation ≤ request.generation →
      (t.admitRequest later tick).1.ok = false ∧ (t.admitRequest later tick).2.streams = t.streams) := by
  have hinv := FenceInvariant.of_run hreach
  obtain ⟨hafter, hfence⟩ := (FencedAt.of_retire hinv hretired).run (hinv.retire request now) hrun
  refine ⟨?_, ?_⟩
  · obtain ⟨tombstone, hslot, hbound⟩ := hfence
    intro device kind tick override fact hfact hkey hle
    exact hafter.inactive hslot hfact hkey (hle.trans hbound)
  · intro later tick hkey hle
    exact hfence.refuses hkey hle tick

/-- Admitted at generation one, retired at two, restarted: generation two is refused. -/
theorem retirement_fence_after_restart :
    let retired := oneReport.retire (retirement 0 2 6) 6
    retired.1.ok = true ∧
      (((init policy).step (.adoptState retired.2.toState 7)).admitRequest (request 0 2 7) 7).1.ok
        = false :=
  ⟨by decide +kernel,
    ((retirement_fence (.single (.op _ (.admitRequest (request 0 1 5) 5) (fun _ _ h => by cases h)))
      (by decide +kernel) (.single ⟨.adopt _ (init policy) 7, by decide +kernel⟩)).2
      (request 0 2 7) 7 rfl le_rfl).1⟩

end Ocreg
