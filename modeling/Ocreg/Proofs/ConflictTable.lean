/-
Module: Ocreg.Proofs.ConflictTable
Purpose: The conflict table as a set. It has one entry for a group at most, whose id is that of its members; bringing a
  group up to date replaces what the table says about that group and nothing else, and no operation changes it
  otherwise.
-/
import Ocreg.Proofs.Restarts

namespace Ocreg

open List Registry

variable {group : ConflictGroup} {table : List ConflictGroup} {device : DeviceIncarnationRef}

/-- Which group an entry is about. -/
def ConflictGroup.owner (group : ConflictGroup) : DeviceIncarnationRef × CapabilityKind := (group.device, group.kind)

/-- What the id of an entry is the digest of. -/
def ConflictGroup.content (group : ConflictGroup) : Bytes :=
  Writer.u16 kApiGeneration.toUInt16 ++ (group.device.encode ++ (Writer.u16 group.kind.code ++
    Writer.collection Writer.digest group.members))

/-- A table in order of ids, with one entry for a group at most, each under the id of its members. -/
structure Grouped (table : List ConflictGroup) : Prop where
  ascends : table.Pairwise (fun a b => a.id ≤ b.id)
  owners : (table.map ConflictGroup.owner).Nodup
  ids : ∀ group ∈ table, group.id = Digest256.of group.content

/-! ### Lists with one element under each key -/

section Keyed

variable {α κ : Type} {keyOf : α → κ} {key : κ} {test : α → Bool} {values : List α} {a value : α}

/-- Erasing the first element under a key erases all there is under it. -/
theorem mem_eraseP_key (htest : ∀ a, test a = true ↔ keyOf a = key) (h : (values.map keyOf).Nodup) :
    a ∈ values.eraseP test ↔ a ∈ values ∧ keyOf a ≠ key := by
  induction values with
  | nil => simp
  | cons head rest ih =>
    obtain ⟨hhead, hrest⟩ := nodup_cons.mp h
    by_cases hsame : keyOf head = key
    · rw [eraseP_cons_of_pos ((htest head).mpr hsame), mem_cons]
      constructor
      · intro ha
        refine ⟨.inr ha, fun hkey => hhead ?_⟩
        rw [hsame, ← hkey]
        exact mem_map_of_mem ha
      · rintro ⟨rfl | ha, hne⟩
        · exact absurd hsame hne
        · exact ha
    · rw [eraseP_cons_of_neg (fun hyes => hsame ((htest head).mp hyes)), mem_cons, mem_cons, ih hrest]
      constructor
      · rintro (rfl | ⟨ha, hne⟩)
        · exact ⟨.inl rfl, hsame⟩
        · exact ⟨.inr ha, hne⟩
      · rintro ⟨rfl | ha, hne⟩
        · exact .inl rfl
        · exact .inr ⟨ha, hne⟩

theorem mem_replaceFirst_iff (hthere : (values.find? test).isSome = true) :
    a ∈ replaceFirst test value values ↔ a ∈ values.eraseP test ∨ a = value := by
  induction values with
  | nil => cases hthere
  | cons head rest ih =>
    rw [replaceFirst]
    by_cases hhead : test head = true
    · rw [if_pos hhead, eraseP_cons_of_pos hhead, mem_cons, or_comm]
    · rw [List.find?_cons_of_neg hhead] at hthere
      rw [if_neg hhead, eraseP_cons_of_neg hhead, mem_cons, mem_cons, ih hthere, or_assoc]

/-- Replacing the element under a key, when there is one. -/
theorem mem_replaceFirst_key (htest : ∀ a, test a = true ↔ keyOf a = key) (h : (values.map keyOf).Nodup)
    (hthere : (values.find? test).isSome = true) :
    a ∈ replaceFirst test value values ↔ (a ∈ values ∧ keyOf a ≠ key) ∨ a = value := by
  rw [mem_replaceFirst_iff hthere, mem_eraseP_key htest h]

end Keyed

/-! ### Bringing one group up to date -/

theorem same_iff (device : DeviceIncarnationRef) (kind : CapabilityKind) (group : ConflictGroup) :
    (group.device == device && group.kind == kind) = true ↔ group.owner = (device, kind) := by
  rw [Bool.and_eq_true, beq_iff_eq, beq_iff_eq, ConflictGroup.owner, Prod.mk.injEq]

theorem mem_sortConflicts : group ∈ sortConflicts table ↔ group ∈ table :=
  mem_insertionSort _

namespace Registry

variable {s t : Registry} {kind : CapabilityKind} {now override : Tick}

theorem findConflict_isSome (hfind : (s.findConflict device kind).isSome) :
    (s.conflictTable.find? (fun group => group.device == device && group.kind == kind)).isSome := by
  rw [findConflict] at hfind
  exact hfind

section

variable (h : (s.conflictTable.map ConflictGroup.owner).Nodup)
include h

/-- A refresh replaces what is said about its group; a group that is new needs room. -/
theorem mem_refreshedConflicts_iff : group ∈ (s.refreshedConflicts device kind now).1 ↔
      (group ∈ s.conflictTable ∧ group.owner ≠ (device, kind)) ∨
        ((s.derive device kind now 0).disagrees = true ∧
          ((s.findConflict device kind).isSome ∨ s.conflictTable.length < s.policy.limits.maxConflictGroups.toNat) ∧
          group = conflictGroupOf (s.derive device kind now 0) device kind) := by
  have hother : s.findConflict device kind = none → group ∈ s.conflictTable → group.owner ≠ (device, kind) := by
    intro hfind hgroup howner
    exact List.find?_eq_none.mp hfind group hgroup ((same_iff device kind group).mpr howner)
  generalize hop : s.refreshedConflicts device kind now = result
  cases s.refreshedConflicts_view hop with
  | settled hagree =>
    rw [mem_eraseP_key (same_iff device kind) h]
    simp [hagree]
  | replaced hdisagree hfind _ =>
    rw [mem_replaceFirst_key (same_iff device kind) h (findConflict_isSome (by rw [hfind]; rfl))]
    simp [hdisagree, hfind]
  | resorted hdisagree hfind =>
    rw [mem_sortConflicts, mem_replaceFirst_key (same_iff device kind) h (findConflict_isSome (by rw [hfind]; rfl))]
    simp [hdisagree, hfind]
  | dropped hdisagree hfind hfull =>
    simp only [hfind, Option.isSome_none, Bool.false_eq_true, not_lt.mpr hfull, or_self, false_and, and_false,
      or_false]
    exact ⟨fun hgroup => ⟨hgroup, hother hfind hgroup⟩, And.left⟩
  | added hdisagree hfind hroom =>
    rw [mem_sortConflicts, mem_append, mem_singleton]
    simp only [hdisagree, hroom, or_true, true_and]
    constructor
    · rintro (hgroup | hgroup)
      · exact .inl ⟨hgroup, hother hfind hgroup⟩
      · exact .inr hgroup
    · rintro (⟨hgroup, _⟩ | hgroup)
      · exact .inl hgroup
      · exact .inr hgroup

/-- With room in the table, a refresh replaces what is said about its group. -/
theorem mem_refreshedConflicts (hroom : s.conflictTable.length < s.policy.limits.maxConflictGroups.toNat) :
    group ∈ (s.refreshedConflicts device kind now).1 ↔
      (group ∈ s.conflictTable ∧ group.owner ≠ (device, kind)) ∨
        ((s.derive device kind now 0).disagrees = true ∧
          group = conflictGroupOf (s.derive device kind now 0) device kind) := by
  rw [mem_refreshedConflicts_iff h]
  simp [hroom]

end

theorem members_conflictGroupOf (s : Registry) (device : DeviceIncarnationRef) (kind : CapabilityKind)
    (now override : Tick) : (conflictGroupOf (s.derive device kind now override) device kind).members =
      (s.derive device kind now override).live.map StoredEvidence.id := by
  rw [conflictGroupOf]
  apply Pairwise.insertionSort_eq
  exact pairwise_map.mpr (Scan.insertionSort_ascends StoredEvidence.id _)

section

variable (h : (s.derive device kind now override).disagrees = true)
include h

/-- The id a derivation names is that of the entry it describes. -/
theorem derive_conflict : (s.derive device kind now override).conflict =
      some (Digest256.of (conflictGroupOf (s.derive device kind now override) device kind).content) := by
  rw [ConflictGroup.content, members_conflictGroupOf]
  exact if_pos h

/-- The entry of a disagreement stands under the id of its members. -/
theorem conflictGroupOf_id : (conflictGroupOf (s.derive device kind now override) device kind).id =
      Digest256.of (conflictGroupOf (s.derive device kind now override) device kind).content := by
  have hconflict := derive_conflict h
  generalize hcontent : (conflictGroupOf (s.derive device kind now override) device kind).content = content at hconflict ⊢
  rw [conflictGroupOf, hconflict]
  rfl

end

end Registry

namespace Grouped

variable {s : Registry}

theorem nil : Grouped [] := ⟨Pairwise.nil, nodup_nil, fun _ h => nomatch h⟩

theorem owners_refreshed (h : (s.conflictTable.map ConflictGroup.owner).Nodup) (device : DeviceIncarnationRef)
    (kind : CapabilityKind) (now : Tick) :
    ((s.refreshedConflicts device kind now).1.map ConflictGroup.owner).Nodup := by
  have hsorted : ∀ table : List ConflictGroup, (table.map ConflictGroup.owner).Nodup →
      ((sortConflicts table).map ConflictGroup.owner).Nodup := by
    intro table hnodup
    exact (((perm_insertionSort _ table).map ConflictGroup.owner).nodup_iff).mpr hnodup
  have hreplaced : ((replaceFirst (fun group => group.device == device && group.kind == kind)
      (conflictGroupOf (s.derive device kind now 0) device kind) s.conflictTable).map ConflictGroup.owner).Nodup := by
    rw [map_replaceFirst ConflictGroup.owner]
    · exact h
    · intro found hfound
      have htest := List.find?_some (Option.mem_def.mp hfound)
      exact (same_iff device kind found).mp htest
  generalize hop : s.refreshedConflicts device kind now = result
  cases s.refreshedConflicts_view hop with
  | settled _ => exact h.sublist (eraseP_sublist.map ConflictGroup.owner)
  | replaced _ _ _ => exact hreplaced
  | resorted _ _ => exact hsorted _ hreplaced
  | dropped _ _ _ => exact h
  | added _ hfind _ =>
    apply hsorted
    rw [map_append, nodup_append]
    refine ⟨h, nodup_singleton _, ?_⟩
    intro owner howner other hother heq
    obtain ⟨group, hgroup, rfl⟩ := mem_map.mp howner
    rw [mem_singleton.mp hother] at heq
    exact List.find?_eq_none.mp hfind group hgroup ((same_iff device kind group).mpr heq)

theorem refreshed (h : Grouped s.conflictTable) (device : DeviceIncarnationRef) (kind : CapabilityKind)
    (now : Tick) : Grouped (s.refreshedConflicts device kind now).1 := by
  refine ⟨conflicts_ascend_refreshed h.ascends device kind now, owners_refreshed h.owners device kind now, ?_⟩
  intro group hgroup
  rcases mem_of_mem_refreshed hgroup with hold | ⟨hdisagrees, rfl⟩
  · exact h.ids group hold
  · exact conflictGroupOf_id hdisagrees

end Grouped

/-! ### Entries and derivations -/

namespace Registry

section

variable (s : Registry)

/-- The entry is what the registry derives for its group. -/
def Describes (now : Tick) (group : ConflictGroup) : Prop :=
  (s.derive group.device group.kind now 0).disagrees = true ∧
    group = conflictGroupOf (s.derive group.device group.kind now 0) group.device group.kind

/-- A refresh derives from what it leaves, too: the table is not read. -/
theorem derive_refreshConflict (device : DeviceIncarnationRef) (kind : CapabilityKind) (now : Tick) :
    (s.refreshConflict device kind now).derive = s.derive := by
  obtain ⟨_, _, hrefresh⟩ := s.refreshConflict_frame device kind now
  rw [hrefresh]
  rfl

theorem derive_resolveConflict (conflict : ConflictId) (chosen : EvidenceId) (resolver : SourceId) (now : Tick)
    : (s.resolveConflict conflict chosen resolver now).2.derive = s.derive := by
  have htouches := s.resolveConflict_touches conflict chosen resolver now
  generalize (s.resolveConflict conflict chosen resolver now).2 = t at htouches
  cases htouches with
  | incarnated hedits _ _ _ _ _ _ | configured hedits _ _ _ _ _ => cases hedits
  | _ => rfl

theorem derive_refreshAll (now : Tick) : (s.refreshAllConflicts now).derive = s.derive := by
  obtain ⟨_, _, hrefresh⟩ := s.refreshAllConflicts_frame now
  rw [hrefresh]
  rfl

end

end Registry

/-- The content names the group and lists its members. -/
theorem ConflictGroup.content_injective {a b : ConflictGroup} (h : a.content = b.content) :
    a.owner = b.owner ∧ a.members = b.members := by
  rw [content, content, append_cancel_left_eq] at h
  rw [Writer.collection, Writer.collection] at h
  obtain ⟨hdevice, h⟩ := DeviceIncarnationRef.encode_prefixFree _ _ _ _ h
  obtain ⟨hkind, h⟩ := u16_prefixFree _ _ _ _ h
  obtain ⟨_, h⟩ := u32_prefixFree _ _ _ _ h
  exact ⟨Prod.ext hdevice (CapabilityKind.code_injective hkind), digest_prefixFree.flatMap_inj digest_ne_nil h⟩

/-! ### Runs -/

/-- What operations can make of a table: they leave it, start over, or bring groups up to date. -/
inductive Refreshing (table : List ConflictGroup) : List ConflictGroup → Prop
  | same : Refreshing table table
  | cleared : Refreshing table []
  | refreshed {s : Registry} (h : Refreshing table s.conflictTable) (device : DeviceIncarnationRef)
      (kind : CapabilityKind) (now : Tick) : Refreshing table (s.refreshedConflicts device kind now).1

theorem Refreshing.grouped {after : List ConflictGroup} (h : Refreshing table after) (htable : Grouped table) :
    Grouped after := by
  induction h with
  | same => exact htable
  | cleared => exact .nil
  | refreshed _ device kind now ih => exact ih.refreshed device kind now

namespace Registry

variable {s t : Registry}

theorem refreshing_refreshAll (table : List ConflictGroup) (s : Registry) (now : Tick) :
    Refreshing table (s.refreshAllConflicts now).conflictTable := by
  have hfold : ∀ (groups : List (DeviceIncarnationRef × CapabilityKind)) (s : Registry),
      Refreshing table s.conflictTable →
        Refreshing table (groups.foldl (fun s group => s.refreshConflict group.1 group.2 now) s).conflictTable := by
    intro groups
    induction groups with
    | nil => exact fun _ h => h
    | cons group groups ih => exact fun s h => ih _ (h.refreshed group.1 group.2 now)
  exact hfold s.groupKeys { s with conflictTable := [] } .cleared

theorem registerIncarnation_conflicts (h : s.registerIncarnation device = .ok t) :
    t.conflictTable = s.conflictTable := by
  obtain ⟨_, _, rfl⟩ := registerIncarnation_frame h
  rfl

end Registry

/-- How an operation leaves the table: as it was, with one group brought up to date, or recomputed. -/
inductive Tabulated (table : List ConflictGroup) : Registry → Prop
  | same {t : Registry} (h : t.conflictTable = table) : Tabulated table t
  | refreshed {t : Registry} (h : t.conflictTable = table) (device : DeviceIncarnationRef) (kind : CapabilityKind)
      (now : Tick) : Tabulated table (t.refreshConflict device kind now)
  | recomputed (t : Registry) (now : Tick) : Tabulated table (t.refreshAllConflicts now)

theorem Tabulated.refreshing {s : Registry} (h : Tabulated table s) : Refreshing table s.conflictTable := by
  cases h with
  | same h =>
    rw [h]
    exact .same
  | @refreshed t h device kind now =>
    apply Refreshing.refreshed
    rw [h]
    exact .same
  | recomputed t now => exact refreshing_refreshAll table t now

namespace Registry

variable {s t : Registry}

theorem admitRequest_tabulated (s : Registry) (request : AdmissionRequest) (now : Tick) :
    Tabulated s.conflictTable (s.admitRequest request now).2 := by
  have hevicted : ∀ {t u : Registry} {ids : List EvidenceId}, t.conflictTable = s.conflictTable →
      t.Displaces request now u ids → u.conflictTable = s.conflictTable := by
    intro t u ids ht hevicts
    obtain ⟨_, _, _, _, _, rfl⟩ := hevicts.frame
    exact ht
  generalize hop : s.admitRequest request now = result
  cases s.admitRequest_view hop with
  | fenced _ hregistered _ =>
    have ht := registerIncarnation_conflicts hregistered
    exact .same ht
  | duplicate ht _ | rejected ht _ _ _ =>
    have ht := registerIncarnation_conflicts ht.registered
    exact .same ht
  | retained ht _ _ _ =>
    have ht := registerIncarnation_conflicts ht.registered
    apply Tabulated.refreshed
    exact ht
  | exhausted ht _ hbudget =>
    have hu := hevicted (registerIncarnation_conflicts ht.registered) (evicts_of_budget hbudget)
    exact .same hu
  | accepted ht _ hbudget =>
    have hu := hevicted (registerIncarnation_conflicts ht.registered) (evicts_of_budget hbudget)
    apply Tabulated.refreshed
    exact hu
  | _ => exact .same rfl

theorem retire_tabulated (s : Registry) (retirement : RetirementRequest) (now : Tick) :
    Tabulated s.conflictTable (s.retire retirement now).2 := by
  generalize hop : s.retire retirement now = result
  cases s.retire_view hop with
  | retired _ _ _ _ =>
    apply Tabulated.refreshed
    obtain ⟨_, _, hpush⟩ := s.retired_frame retirement now
    rw [hpush]
    rfl
  | _ => exact .same rfl

theorem updateSource_tabulated (s : Registry) (source : SourceId) (settled : SourcePolicy → Bool)
    (change : SourcePolicy → SourcePolicy) (now : Tick) :
    Tabulated s.conflictTable (s.updateSource source settled change now).2 := by
  generalize hop : s.updateSource source settled change now = result
  cases s.updateSource_view hop with
  | changed _ _ => exact .recomputed _ _
  | _ => exact .same rfl

theorem Touches.conflicts {op : Op} (h : Touches s op t) (hdevices : op.editsDevices = false)
    (hsources : op.editsSources = false) (hadmitted : ∀ request now, op ≠ .admitRequest request now)
    (hretire : ∀ request now, op ≠ .retire request now) : t.conflictTable = s.conflictTable := by
  cases h with
  | admitted _ => exact absurd rfl (hadmitted _ _)
  | retired request now _ _ _ _ => exact absurd rfl (hretire request now)
  | incarnated hedits _ _ _ _ _ _ => exact absurd hedits (by simp [hdevices])
  | configured hedits _ _ _ _ _ => exact absurd hedits (by simp [hsources])
  | _ => rfl

/-- No operation changes the table otherwise. -/
theorem step_tabulated (s : Registry) (op : Op) : Tabulated s.conflictTable (s.step op) := by
  cases op with
  | admitRequest request now => exact s.admitRequest_tabulated request now
  | retire retirement now => exact s.retire_tabulated retirement now
  | beginDeviceIncarnation device now =>
    rw [step]
    generalize hop : s.beginDeviceIncarnation device now = result
    cases s.beginDeviceIncarnation_view hop with
    | begun _ _ => exact .recomputed _ _
    | _ => exact .same rfl
  | setDeviceIncarnation device incarnation now =>
    rw [step]
    generalize hop : s.setDeviceIncarnation device incarnation now = result
    cases s.setDeviceIncarnation_view hop with
    | refused => exact .same rfl
    | kept _ hregistered _ => exact .same (registerIncarnation_conflicts hregistered)
    | changed _ _ _ => exact .recomputed _ _
  | revokeSource source now | restoreSource source now | setSourceAuthority source _ now =>
    exact s.updateSource_tabulated source _ _ now
  | upsertSourcePolicy policy now =>
    rw [step]
    generalize hop : s.upsertSourcePolicy policy now = result
    cases s.upsertSourcePolicy_view hop with
    | refused => exact .same rfl
    | _ => exact .recomputed _ _
  | resolveConflict _ _ _ _ | setRuleGeneration _ | setLogicalTick _ | evaluate _ _ =>
    exact .same ((s.step_touches (by simp [Op.Ordinary])).conflicts rfl rfl (by simp) (by simp))
  | advanceEpoch | setLimits _ => exact .same rfl
  | adoptState _ _ => exact .recomputed _ _

/-- Registries that come about: new ones, ones restored from the snapshot of another, and what operations make of
    them. -/
inductive Grounded : Registry → Prop
  | init (policy : RegistryPolicy) : Grounded (init policy)
  | restore (policy : RegistryPolicy) {s : Registry} (h : Grounded s) : Grounded (restore policy s.toState)
  | step {s : Registry} (h : Grounded s) (op : Op) : Grounded (s.step op)

theorem Grounded.grouped (h : s.Grounded) : Grouped s.conflictTable := by
  induction h with
  | init policy => exact .nil
  | restore policy _ ih =>
    rename_i s _
    have hsorted : (Registry.restore policy s.toState).conflictTable = s.conflictTable :=
      (Scan.insertionSort_eq_iff ConflictGroup.id _).mpr ih.ascends
    rw [hsorted]
    exact ih
  | step _ op ih =>
    rename_i s _
    exact (s.step_tabulated op).refreshing.grouped ih

end Registry

end Ocreg
