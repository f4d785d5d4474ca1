/-
Module: Ocreg.Proofs.Conflicts
Purpose: What the conflict table says about the groups. Its entries pair members with their generations; what an
  admission or a retirement touches is brought up to date at its tick, and the operations that change authority
  recompute the table at theirs. Between two updates time goes on, so a conflict that an evaluation reports can be
  resolved exactly where the table has caught up with it.
-/
import Ocreg.Proofs.Conservation
import Ocreg.Proofs.SourcePolicies

namespace Ocreg

open List Registry Lab

variable {device : DeviceIncarnationRef} {kind : CapabilityKind} {group : ConflictGroup} {resolver : SourceId}
  {t : Registry} {conflict : ConflictId} {offered : Set Bytes} {s : Registry} {now : Tick}

/-! ### Members and generations -/

/-- Members in order of ids, each beside the generation of the evidence it is the id of. `offered` holds the
    encodings of the evidence that was built. -/
structure ConflictGroup.Paired (offered : Set Bytes) (group : ConflictGroup) : Prop where
  sorted : group.members.Pairwise (· ≤ ·)
  known : ∀ member ∈ group.members, ∃ evidence : CapabilityEvidence, evidence.encode ∈ offered ∧ evidence.id = member
  length : group.generations.length = group.members.length
  generation : ∀ (i : Nat) (evidence : CapabilityEvidence), evidence.encode ∈ offered →
    group.members[i]? = some evidence.id → group.generations[i]? = some evidence.generation

namespace Registry

variable {s : Registry}

theorem live_stored {override : Tick} {record : StoredEvidence} (h : record ∈ (s.derive device kind now override).live) :
    ∃ key stream, s.streams.find? key = some stream ∧ record ∈ stream.records := by
  obtain ⟨raw, hraw, rfl, _⟩ := mem_derive_live.mp h
  obtain ⟨key, stream, hfind, _, _, record, hmem, rfl⟩ := mem_rawFacts.mp hraw
  exact ⟨key, stream, hfind, hmem⟩

theorem Describes.paired (hinj : Set.InjOn Digest256.of offered) (hsound : s.Sound offered)
    (h : s.Describes now group) : group.Paired offered := by
  have hoffered : ∀ record ∈ (s.derive group.device group.kind now 0).live, record.evidence.encode ∈ offered := by
    intro record hrecord
    obtain ⟨key, stream, hfind, hmem⟩ := live_stored hrecord
    exact hsound.encodings key stream hfind record hmem
  have hmembers : group.members = (s.derive group.device group.kind now 0).live.map StoredEvidence.id := by
    conv_lhs => rw [h.2]
    exact members_conflictGroupOf s group.device group.kind now 0
  have hgenerations : group.generations =
      (s.derive group.device group.kind now 0).live.map (fun record => record.evidence.generation) := by
    conv_lhs => rw [h.2]
    rfl
  constructor
  · rw [hmembers]
    exact pairwise_map.mpr (Scan.insertionSort_ascends StoredEvidence.id _)
  · intro member hmember
    rw [hmembers] at hmember
    obtain ⟨record, hrecord, rfl⟩ := mem_map.mp hmember
    exact ⟨record.evidence, hoffered record hrecord, rfl⟩
  · rw [hmembers, hgenerations, length_map, length_map]
  · intro i evidence hevidence hmember
    rw [hmembers, List.getElem?_map] at hmember
    obtain ⟨record, hrecord, hid⟩ := Option.map_eq_some_iff.mp hmember
    rw [hgenerations, List.getElem?_map, hrecord]
    have hencode := hinj (hoffered record (mem_of_getElem? hrecord)) hevidence hid
    exact congrArg some (CapabilityEvidence.generation_eq_of_encode_eq hencode)

/-! ### One group brought up to date -/

/-- After an update of one group its entry is what is derived for it at the tick. It is there when the group
    disagrees, unless the table was full, which is counted then. -/
structure Entered (before after : Registry) (device : DeviceIncarnationRef) (kind : CapabilityKind) (now : Tick) :
    Prop where
  described : ∀ group ∈ after.conflictTable, group.owner = (device, kind) → after.Describes now group
  present : (after.derive device kind now 0).disagrees = true →
    (∃ group ∈ after.conflictTable, group.owner = (device, kind)) ∨
      (before.policy.limits.maxConflictGroups.toNat ≤ before.conflictTable.length ∧
        after.counters.conflictsDropped = before.counters.conflictsDropped + 1)

theorem entered_refreshConflict (h : (s.conflictTable.map ConflictGroup.owner).Nodup) (device : DeviceIncarnationRef)
    (kind : CapabilityKind) (now : Tick) : Entered s (s.refreshConflict device kind now) device kind now := by
  constructor
  · intro group hgroup howner
    rw [Describes, derive_refreshConflict]
    rcases (mem_refreshedConflicts_iff h).mp hgroup with ⟨_, hother⟩ | ⟨hdisagrees, _, rfl⟩
    · exact absurd howner hother
    · exact ⟨hdisagrees, rfl⟩
  · intro hdisagrees
    rw [derive_refreshConflict] at hdisagrees
    have hentry : (s.findConflict device kind).isSome ∨
        s.conflictTable.length < s.policy.limits.maxConflictGroups.toNat →
        ∃ group ∈ (s.refreshConflict device kind now).conflictTable, group.owner = (device, kind) :=
      fun hplace => ⟨_, (mem_refreshedConflicts_iff h).mpr (.inr ⟨hdisagrees, hplace, rfl⟩), rfl⟩
    have hcounters : (s.refreshConflict device kind now).counters = (s.refreshedConflicts device kind now).2 := rfl
    rw [hcounters]
    generalize hop : s.refreshedConflicts device kind now = result
    cases s.refreshedConflicts_view hop with
    | settled hagree =>
      rw [hagree] at hdisagrees
      cases hdisagrees
    | replaced _ hfind _ | resorted _ hfind => exact .inl (hentry (.inl (by rw [hfind]; rfl)))
    | dropped _ _ hfull => exact .inr ⟨hfull, rfl⟩
    | added _ _ hroom => exact .inl (hentry (.inr hroom))

theorem Entered.of_before {before after : Registry} {now : Tick} (h : Entered t after device kind now)
    (htable : t.conflictTable = before.conflictTable) (hpolicy : t.policy = before.policy)
    (hdropped : t.counters.conflictsDropped = before.counters.conflictsDropped) :
    Entered before after device kind now where
  described := h.described
  present hdisagrees := by
    rw [← htable, ← hpolicy, ← hdropped]
    exact h.present hdisagrees

section

variable (h : (s.conflictTable.map ConflictGroup.owner).Nodup)
include h

/-- An accepted admission ends with a refresh of its group. -/
theorem entered_of_accepted {request : AdmissionRequest} (haccepted : (s.admitRequest request now).1.isAccepted = true) :
    Entered s (s.admitRequest request now).2 request.device request.kind now := by
  generalize hop : s.admitRequest request now = result at haccepted
  cases s.admitRequest_view hop with
  | rejected _ _ _ _ | retained _ _ _ _ =>
    rw [rejectedOutcome_not_accepted] at haccepted
    cases haccepted
  | @accepted t u ids ht _ hbudget =>
    obtain ⟨_, _, rfl⟩ := registerIncarnation_frame ht.registered
    obtain ⟨_, _, _, _, _, rfl⟩ := (evicts_of_budget hbudget).frame
    refine Entered.of_before (entered_refreshConflict ?_ request.device request.kind now) rfl rfl rfl
    exact h
  | _ => cases haccepted

/-- A retirement that takes effect ends with a refresh of its group. -/
theorem entered_of_retired {retirement : RetirementRequest} (heffect : (s.retire retirement now).1.tookEffect = true) :
    Entered s (s.retire retirement now).2 retirement.device retirement.kind now := by
  generalize hop : s.retire retirement now = result at heffect
  cases s.retire_view hop with
  | retired _ _ _ _ =>
    obtain ⟨_, _, hpush⟩ := s.retired_frame retirement now
    dsimp only
    rw [settleRetired, hpush]
    refine Entered.of_before (entered_refreshConflict ?_ retirement.device retirement.kind now) rfl rfl rfl
    exact h
  | _ => cases heffect

end

/-! ### The table recomputed -/

/-- The table says what is derived at the tick, of every group that disagrees, up to the bound. -/
structure Recomputed (s : Registry) (now : Tick) : Prop where
  listed : ∀ group ∈ s.conflictTable, s.Describes now group
  complete : ∀ device kind, (s.derive device kind now 0).disagrees = true →
    (∃ group ∈ s.conflictTable, group.owner = (device, kind)) ∨
      s.conflictTable.length = s.policy.limits.maxConflictGroups.toNat
  bounded : s.conflictTable.length ≤ s.policy.limits.maxConflictGroups.toNat

/-- The table `t` of a recomputation for `s` that has been through the groups `done`. -/
structure Recomputing (s : Registry) (now : Tick) (done : List (DeviceIncarnationRef × CapabilityKind)) (t : Registry) :
    Prop where
  derive : t.derive = s.derive
  policy : t.policy = s.policy
  owners : (t.conflictTable.map ConflictGroup.owner).Nodup
  listed : ∀ group ∈ t.conflictTable, s.Describes now group
  complete : ∀ owner ∈ done, (s.derive owner.1 owner.2 now 0).disagrees = true →
    (∃ group ∈ t.conflictTable, group.owner = owner) ∨
      s.policy.limits.maxConflictGroups.toNat ≤ t.conflictTable.length
  bounded : t.conflictTable.length ≤ s.policy.limits.maxConflictGroups.toNat

namespace Recomputing

variable {now : Tick} {done : List (DeviceIncarnationRef × CapabilityKind)}

/-- No group is erased: what the table lists disagrees. So the table never shrinks. -/
theorem length_le (h : Recomputing s now done t) (device : DeviceIncarnationRef) (kind : CapabilityKind) :
    t.conflictTable.length ≤ (t.refreshedConflicts device kind now).1.length := by
  generalize hop : t.refreshedConflicts device kind now = result
  cases t.refreshedConflicts_view hop with
  | settled hagree =>
    rw [eraseP_of_forall_not]
    intro group hgroup htest
    have howner := (same_iff device kind group).mp htest
    have hdisagrees := (h.listed group hgroup).1
    rw [ConflictGroup.owner, Prod.mk.injEq] at howner
    rw [howner.1, howner.2, ← h.derive, hagree] at hdisagrees
    cases hdisagrees
  | replaced _ _ _ => rw [length_replaceFirst]
  | resorted _ _ => rw [sortConflicts, length_insertionSort, length_replaceFirst]
  | dropped _ _ _ => exact le_refl _
  | added _ _ _ =>
    rw [sortConflicts, length_insertionSort, length_append]
    exact Nat.le_add_right _ _

theorem refreshConflict (h : Recomputing s now done t) (owner : DeviceIncarnationRef × CapabilityKind) :
    Recomputing s now (owner :: done) (t.refreshConflict owner.1 owner.2 now) where
  derive := (derive_refreshConflict t owner.1 owner.2 now).trans h.derive
  policy := by
    obtain ⟨_, _, hrefresh⟩ := t.refreshConflict_frame owner.1 owner.2 now
    rw [hrefresh]
    exact h.policy
  owners := Grouped.owners_refreshed h.owners owner.1 owner.2 now
  listed := by
    intro group hgroup
    rcases mem_of_mem_refreshed hgroup with hold | ⟨hdisagrees, rfl⟩
    · exact h.listed group hold
    · rw [h.derive] at hdisagrees ⊢
      exact ⟨hdisagrees, rfl⟩
  complete := by
    have hlength := h.length_le owner.1 owner.2
    have hentered := entered_refreshConflict h.owners owner.1 owner.2 now
    intro other hother hdisagrees
    by_cases hsame : other = owner
    · subst hsame
      have hpresent := hentered.present (by rw [derive_refreshConflict, h.derive]; exact hdisagrees)
      rcases hpresent with hentry | ⟨hfull, _⟩
      · exact .inl hentry
      · rw [h.policy] at hfull
        exact .inr (hfull.trans hlength)
    · have hdone : other ∈ done := (mem_cons.mp hother).resolve_left hsame
      rcases h.complete other hdone hdisagrees with ⟨group, hgroup, howner⟩ | hfull
      · refine .inl ⟨group, (mem_refreshedConflicts_iff h.owners).mpr (.inl ⟨hgroup, ?_⟩), howner⟩
        rw [howner]
        exact hsame
      · exact .inr (hfull.trans hlength)
  bounded := by
    have hbound := t.length_conflicts_refreshed owner.1 owner.2 now
    rw [h.policy] at hbound
    exact hbound h.bounded

end Recomputing

/-- A group that disagrees has streams. -/
theorem mem_groupKeys_of_disagrees (h : (s.derive device kind now 0).disagrees = true) :
    (device, kind) ∈ s.groupKeys := by
  cases hlive : (s.derive device kind now 0).live with
  | nil =>
    have hnone : liveDisagrees (s.derive device kind now 0).live = true := h
    rw [hlive] at hnone
    cases hnone
  | cons record rest =>
    obtain ⟨raw, hraw, _⟩ := mem_derive_live.mp (hlive ▸ mem_cons_self : record ∈ _)
    obtain ⟨key, stream, hfind, rfl, rfl, _⟩ := mem_rawFacts.mp hraw
    rw [groupKeys, mem_dedup, mem_map]
    exact ⟨(key, stream), SortedMap.mem_entries_iff.mpr hfind, rfl⟩

theorem refreshAll_recomputed (s : Registry) (now : Tick) : (s.refreshAllConflicts now).Recomputed now := by
  have hfold : ∀ (groups done : List (DeviceIncarnationRef × CapabilityKind)) (t : Registry),
      Recomputing s now done t → Recomputing s now (groups.reverse ++ done)
          (groups.foldl (fun s group => s.refreshConflict group.1 group.2 now) t) := by
    intro groups
    induction groups with
    | nil => exact fun _ _ h => h
    | cons group groups ih =>
      intro done t h
      rw [reverse_cons, append_assoc]
      exact ih _ _ (h.refreshConflict group)
  have hempty : Recomputing s now [] { s with conflictTable := [] } :=
    ⟨rfl, rfl, nodup_nil, (fun _ hgroup => nomatch hgroup), (fun _ howner => nomatch howner), Nat.zero_le _⟩
  have hdone := hfold s.groupKeys [] _ hempty
  have hderive := s.derive_refreshAll now
  have hpolicy := s.policy_refreshAll now
  constructor
  · intro group hgroup
    rw [Describes, hderive]
    exact hdone.listed group hgroup
  · intro device kind hdisagrees
    rw [hderive] at hdisagrees
    rw [hpolicy]
    have hmem : (device, kind) ∈ s.groupKeys.reverse ++ [] := by
      rw [append_nil, mem_reverse]
      exact mem_groupKeys_of_disagrees hdisagrees
    rcases hdone.complete (device, kind) hmem hdisagrees with hentry | hfull
    · exact .inl hentry
    · exact .inr (le_antisymm hdone.bounded hfull)
  · rw [hpolicy]
    exact hdone.bounded

end Registry

/-- An entry after an operation was there before, or is what the registry derives after it. -/
theorem Tabulated.mem_conflicts {table : List ConflictGroup} (h : Tabulated table t)
    (hgroup : group ∈ t.conflictTable) : group ∈ table ∨ ∃ now, t.Describes now group := by
  cases h with
  | same h =>
    rw [h] at hgroup
    exact .inl hgroup
  | @refreshed t h device kind now =>
    rcases mem_of_mem_refreshed hgroup with hold | ⟨hdisagrees, rfl⟩
    · rw [h] at hold
      exact .inl hold
    · refine .inr ⟨now, ?_⟩
      rw [Describes, derive_refreshConflict]
      exact ⟨hdisagrees, rfl⟩
  | recomputed t now => exact .inr ⟨now, (t.refreshAll_recomputed now).listed group hgroup⟩

theorem Reach.grounded (h : Reach offered s) : s.Grounded := by
  induction h with
  | init policy => exact .init policy
  | step _ _ _ ih | adopt now _ _ ih _ => exact ih.step _
  | restore policy _ ih => exact .restore policy ih

theorem Reach.paired (hinj : Set.InjOn Digest256.of offered)
    (h : Reach offered s) : ∀ group ∈ s.conflictTable, group.Paired offered := by
  induction h with
  | init policy => exact fun group hgroup => nomatch hgroup
  | @step s op hs hadopt hoffered ih =>
    intro group hgroup
    rcases (s.step_tabulated op).mem_conflicts hgroup with hold | ⟨now, hdescribes⟩
    · exact ih group hold
    · exact hdescribes.paired hinj ((Reach.step hs hadopt hoffered).sound hinj)
  | @adopt s snapshot now hs hsnapshot ih _ =>
    intro group hgroup
    rcases (s.step_tabulated _).mem_conflicts hgroup with hold | ⟨now', hdescribes⟩
    · exact ih group hold
    · exact hdescribes.paired hinj ((Reach.adopt now hs hsnapshot).sound hinj)
  | restore policy _ ih =>
    intro group hgroup
    exact ih group ((mem_insertionSort _).mp hgroup)

namespace Registry

/-- The tick at which an operation recomputes the table, if it does. -/
def recomputesAt (s : Registry) : Op → Option Tick
  | .beginDeviceIncarnation device now =>
    if (s.findDevice device).isSome ∧ (s.beginDeviceIncarnation device now).1.ok then some now else none
  | .setDeviceIncarnation device incarnation now =>
    if (s.setDeviceIncarnation device incarnation now).1.ok ∧
        (s.findDevice device).map DeviceIncarnationEntry.current ≠ some incarnation then some now else none
  | .revokeSource source now => if (s.revokeSource source now).1.reason = .acceptedNew then some now else none
  | .restoreSource source now => if (s.restoreSource source now).1.reason = .acceptedNew then some now else none
  | .setSourceAuthority source authority now =>
    if (s.setSourceAuthority source authority now).1.reason = .acceptedNew then some now else none
  | .upsertSourcePolicy policy now => if (s.upsertSourcePolicy policy now).1.ok then some now else none
  | .adoptState state now => some (resumeTick state now)
  | _ => none

section Recomputes

variable {s : Registry} {now : Tick}

theorem updateSource_recomputes {source : SourceId} {settled : SourcePolicy → Bool}
    {change : SourcePolicy → SourcePolicy} (h : (s.updateSource source settled change now).1.reason = .acceptedNew) :
    ∃ t : Registry, (s.updateSource source settled change now).2 = t.refreshAllConflicts now := by
  generalize hop : s.updateSource source settled change now = result at h
  cases s.updateSource_view hop with
  | missing _ | kept _ _ => cases h
  | changed _ _ => exact ⟨_, rfl⟩

theorem recomputes {op : Op} (h : s.recomputesAt op = some now) :
    ∃ t : Registry, s.step op = t.refreshAllConflicts now := by
  cases op with
  | beginDeviceIncarnation device tick =>
    obtain ⟨⟨hknown, hok⟩, ⟨⟩⟩ := Option.ite_none_right_eq_some.mp h
    obtain ⟨entry, hentry⟩ := Option.isSome_iff_exists.mp hknown
    rw [step]
    generalize hop : s.beginDeviceIncarnation device now = result at hok
    cases s.beginDeviceIncarnation_view hop with
    | entered hnone _ => cases hnone.symm.trans hentry
    | begun _ _ => exact ⟨_, rfl⟩
    | _ => cases hok
  | setDeviceIncarnation device incarnation tick =>
    obtain ⟨⟨hok, hchange⟩, ⟨⟩⟩ := Option.ite_none_right_eq_some.mp h
    rw [step]
    generalize hop : s.setDeviceIncarnation device incarnation now = result at hok
    cases s.setDeviceIncarnation_view hop with
    | refused => cases hok
    | kept _ _ hcurrent => exact absurd hcurrent hchange
    | changed _ _ _ => exact ⟨_, rfl⟩
  | revokeSource source tick | restoreSource source tick | setSourceAuthority source authority tick =>
    obtain ⟨haccepted, ⟨⟩⟩ := Option.ite_none_right_eq_some.mp h
    exact updateSource_recomputes haccepted
  | upsertSourcePolicy policy tick =>
    obtain ⟨hok, ⟨⟩⟩ := Option.ite_none_right_eq_some.mp h
    rw [step]
    generalize hop : s.upsertSourcePolicy policy now = result at hok
    cases s.upsertSourcePolicy_view hop with
    | refused => cases hok
    | _ => exact ⟨_, rfl⟩
  | adoptState state tick =>
    cases h
    exact ⟨_, rfl⟩
  | _ => cases h

end Recomputes

/-- What the conflict table of a registry is, and what operations make of it. -/
structure TableCoherent (offered : Set Bytes) (s : Registry) : Prop where
  one : (s.conflictTable.map ConflictGroup.owner).Nodup
  sorted : s.conflictTable.Pairwise (fun a b => a.id ≤ b.id)
  paired : ∀ group ∈ s.conflictTable, group.Paired offered
  admitted : ∀ request now, (s.admitRequest request now).1.isAccepted = true →
    Entered s (s.admitRequest request now).2 request.device request.kind now
  retired : ∀ retirement now, (s.retire retirement now).1.tookEffect = true →
    Entered s (s.retire retirement now).2 retirement.device retirement.kind now
  recomputed : ∀ op now, s.recomputesAt op = some now → (s.step op).Recomputed now

end Registry

/-- The conflict table has one entry for a group at most, in order of ids, each with its members in order beside their
    generations; accepted admissions and retirements that take effect bring their group up to date, and operations
    that recompute the table leave exactly the groups that disagree, up to the bound. -/
theorem conflict_table_coherent {offered : Set Bytes} (hinj : Set.InjOn Digest256.of offered) {s : Registry}
    (hs : Reach offered s) : s.TableCoherent offered := by
  have hgrouped := hs.grounded.grouped
  constructor
  · exact hgrouped.owners
  · exact hgrouped.ascends
  · exact hs.paired hinj
  · intro request now haccepted
    exact entered_of_accepted hgrouped.owners haccepted
  · intro retirement now heffect
    exact entered_of_retired hgrouped.owners heffect
  · intro op now hrecomputes
    obtain ⟨t, hstep⟩ := recomputes hrecomputes
    rw [hstep]
    exact t.refreshAll_recomputed now

namespace Lab

/-- The report of the second source that differs. -/
def objection : AdmissionRequest := { request 0 1 5 with source := ⟨peer, 1⟩, capabilityVersion := .mk3 2 0 0 }

/-- The evidence of the two reports that differ. -/
def reported : Set Bytes :=
  {((init durablePolicy).evidenceOf (request 0 1 5)).encode,
    (((init durablePolicy).step (.admitRequest (request 0 1 5) 5)).evidenceOf objection).encode}

theorem reported_injOn : Set.InjOn Digest256.of reported :=
  Set.injOn_pair.mpr (fun hsame => absurd hsame (by decide +kernel))

theorem disagreeing_reach : Reach reported disagreeing := by
  rw [disagreeing]
  apply Reach.step
  · apply Reach.step (.init durablePolicy)
    · intro state now h
      cases h
    · intro request now h
      cases h
      exact .inl rfl
  · intro state now h
    cases h
  · intro request now h
    cases h
    exact .inr rfl

end Lab

/-- The table of the registry with two reports that differ has an entry and is coherent. -/
theorem disagreeing_table_coherent : disagreeing.conflictTable.length = 1 ∧ disagreeing.TableCoherent reported :=
  ⟨by decide +kernel, conflict_table_coherent reported_injOn disagreeing_reach⟩

namespace Lab

def auditor : SourceId := ⟨text "auditor", Or.inr (by decide)⟩

/-- A third source outranks the two that differ. -/
def auditedPolicy : RegistryPolicy :=
  { sources := { sourcePolicy with id := auditor, authority := .operator } :: durablePolicy.sources }

/-- The third source's report is valid until tick 10, the first one's until tick 20. -/
def audited : Registry :=
  (((init auditedPolicy).step (.admitRequest { request 0 1 5 with validUntil := some 20 } 5)).step
    (.admitRequest objection 5)).step
    (.admitRequest { request 0 1 5 with source := ⟨auditor, 1⟩, validUntil := some 10 } 5)

theorem audited_reachable : audited.Reachable := (((Reachable.init auditedPolicy).step _).step _).step _

/-- The third source retires its report. -/
def withdrawal : RetirementRequest := { retirement 0 2 7 with source := auditor }

end Lab

/-- A repetition of that retirement is counted as accepted too, at a tick at which the first source's report has run
    out: the entry of the conflict between the other two stays. -/
theorem repeated_retirement_keeps_entry :
    let s := Lab.audited.step (.retire Lab.withdrawal 7)
    let after := (s.retire Lab.withdrawal 21).2
    s.Reachable ∧ (s.retire Lab.withdrawal 21).1.ok = true ∧
      after.counters.retirementsAccepted = s.counters.retirementsAccepted + 1 ∧
      after.conflictTable.map ConflictGroup.owner = [(Lab.device 0, .packetClassification)] ∧
      (after.derive (Lab.device 0) .packetClassification 21 0).disagrees = false := by
  refine ⟨Lab.audited_reachable.step _, ?_⟩
  decide +kernel

/-! ### Resolving what is reported -/

namespace Registry

variable {requirement : CapabilityRequirement}

section

variable (s : Registry) (requirement : CapabilityRequirement) (now : Tick)

/-- What is derived for the requirement's group. -/
abbrev derivedFor : Derivation :=
  s.derive requirement.device requirement.capability now requirement.maxEvidenceAge

/-- The entry the derivation for the requirement's group describes. -/
abbrev describedFor : ConflictGroup :=
  conflictGroupOf (s.derivedFor requirement now) requirement.device requirement.capability

/-- The conflict table has an entry of the requirement's group with the records that are live now as its members. -/
def Lists : Prop :=
  ∃ group ∈ s.conflictTable, group.owner = (requirement.device, requirement.capability) ∧
    group.members = (s.derivedFor requirement now).live.map StoredEvidence.id

end

section Resolvable

variable {s : Registry} {requirement : CapabilityRequirement} {now : Tick}

theorem conflictOf_of_evaluate (h : (s.evaluate requirement now).1.conflict = some conflict) :
    s.conflictOf requirement now = some conflict := by
  cases hentry : s.findDevice requirement.device.device with
  | none =>
    rw [evaluate] at h
    dsimp only at h
    rw [decideRequirement, hentry] at h
    cases h
  | some entry =>
    rw [evaluate_conflict hentry] at h
    exact h

/-- The id of a reported conflict is the digest of the described entry's content. -/
theorem conflictOf_digest (h : s.conflictOf requirement now = some conflict) :
    Digest256.of (s.describedFor requirement now).content = conflict := by
  have hdisagrees : (s.derivedFor requirement now).disagrees = true := by
    rw [← derive_conflict_isSome, show (s.derivedFor requirement now).conflict = some conflict from h]
    rfl
  exact Option.some_inj.mp ((derive_conflict hdisagrees).symm.trans h)

/-- Without collisions, a group whose content has the id of the reported conflict is its group and has its members. -/
theorem group_of_conflict (hinj : Set.InjOn Digest256.of offered)
    (hdescribed : (s.describedFor requirement now).content ∈ offered)
    (hconflict : s.conflictOf requirement now = some conflict) (hgroup : group.content ∈ offered)
    (hid : Digest256.of group.content = conflict) : group.owner = (requirement.device, requirement.capability) ∧
      group.members = (s.derivedFor requirement now).live.map StoredEvidence.id := by
  have hcontent := hinj hgroup hdescribed (hid.trans (conflictOf_digest hconflict).symm)
  refine ⟨(ConflictGroup.content_injective hcontent).1, ?_⟩
  rw [(ConflictGroup.content_injective hcontent).2]
  exact members_conflictGroupOf s _ _ _ _

theorem content_of_entry (howner : group.owner = (requirement.device, requirement.capability))
    (hmembers : group.members = (s.derivedFor requirement now).live.map StoredEvidence.id) :
    group.content = (s.describedFor requirement now).content := by
  rw [ConflictGroup.owner, Prod.mk.injEq] at howner
  rw [ConflictGroup.content, ConflictGroup.content, howner.1, howner.2, hmembers]
  rw [members_conflictGroupOf]
  rfl

end Resolvable

/-- A resolution by a trusted source succeeds when the conflict is in the table with the chosen member. -/
theorem resolveConflict_ok {chosen : EvidenceId} : (s.resolveConflict conflict chosen resolver now).1.ok = true ↔
      (∃ group, s.conflictTable.reverse.find? (fun group => group.id == conflict) = some group ∧
        chosen ∈ group.members) ∧ s.resolverRefusal resolver = none := by
  generalize hop : s.resolveConflict conflict chosen resolver now = result
  cases s.resolveConflict_view hop with
  | refused hrefused =>
    refine iff_of_false Bool.false_ne_true ?_
    rintro ⟨⟨group, hfind, hchosen⟩, hallowed⟩
    exact hrefused group ⟨hfind, hchosen, hallowed⟩
  | @resolved group hgroup => exact iff_of_true rfl ⟨⟨group, hgroup.1, hgroup.2.1⟩, hgroup.2.2⟩

section

variable (hinj : Set.InjOn Digest256.of offered) (hgrouped : Grouped s.conflictTable)
  (hentries : ∀ group ∈ s.conflictTable, group.content ∈ offered)
  (hdescribed : (s.describedFor requirement now).content ∈ offered)
  (hconflict : s.conflictOf requirement now = some conflict)

include hinj hgrouped hentries hdescribed hconflict

/-- What the table finds under the id of the reported conflict is an entry of its group with its members. -/
theorem entry_of_found (hfind : s.conflictTable.reverse.find? (fun group => group.id == conflict) = some group) :
    group ∈ s.conflictTable ∧ group.owner = (requirement.device, requirement.capability) ∧
      group.members = (s.derivedFor requirement now).live.map StoredEvidence.id := by
  have hgroup := mem_reverse.mp (mem_of_find?_eq_some hfind)
  have hid : group.id = conflict := by simpa using List.find?_some hfind
  rw [hgrouped.ids group hgroup] at hid
  exact ⟨hgroup, group_of_conflict hinj hdescribed hconflict (hentries group hgroup) hid⟩

/-- Where the reported conflict is listed, a live record can be chosen. -/
theorem resolves_of_lists {member : EvidenceId}
    (hmember : member ∈ (s.derivedFor requirement now).live.map StoredEvidence.id)
    (hresolver : s.resolverRefusal resolver = none) (h : s.Lists requirement now) :
    (s.resolveConflict conflict member resolver now).1.ok = true := by
  obtain ⟨group, hgroup, howner, hmembers⟩ := h
  have hid : group.id = conflict := by
    rw [hgrouped.ids group hgroup, content_of_entry howner hmembers]
    exact conflictOf_digest hconflict
  apply resolveConflict_ok.mpr
  refine ⟨?_, hresolver⟩
  cases hfind : s.conflictTable.reverse.find? (fun group => group.id == conflict) with
  | none => exact absurd (List.find?_eq_none.mp hfind group (mem_reverse.mpr hgroup)) (by simp [hid])
  | some found =>
    refine ⟨found, rfl, ?_⟩
    rw [(entry_of_found hinj hgrouped hentries hdescribed hconflict hfind).2.2]
    exact hmember

end

theorem resolverRefusal_of_trusted {entry : SourcePolicy} (hresolver : s.policy.findSource resolver = some entry)
    (htrusted : entry.trust = .trusted) : s.resolverRefusal resolver = none := by
  rw [resolverRefusal, hresolver]
  exact if_neg (not_not.mpr htrusted)

end Registry

/-- A reported conflict can be resolved in favour of a live record by a trusted configured source exactly where the
    conflict table lists it with the records that are live now. -/
theorem conflict_resolvable_iff_listed {offered : Set Bytes} (hinj : Set.InjOn Digest256.of offered) {s : Registry}
    (hs : s.Grounded) (hentries : ∀ group ∈ s.conflictTable, group.content ∈ offered)
    {requirement : CapabilityRequirement} {now : Tick}
    (hdescribed : (s.describedFor requirement now).content ∈ offered) {conflict : ConflictId}
    (hconflict : (s.evaluate requirement now).1.conflict = some conflict) {member : EvidenceId}
    (hmember : member ∈ (s.derivedFor requirement now).live.map StoredEvidence.id) {resolver : SourceId}
    {entry : SourcePolicy} (hresolver : s.policy.findSource resolver = some entry) (htrusted : entry.trust = .trusted) :
    (s.resolveConflict conflict member resolver now).1.ok = true ↔ s.Lists requirement now := by
  have hnamed := conflictOf_of_evaluate hconflict
  constructor
  · intro hok
    obtain ⟨⟨group, hfind, _⟩, _⟩ := resolveConflict_ok.mp hok
    exact ⟨group, entry_of_found hinj hs.grouped hentries hdescribed hnamed hfind⟩
  · intro hlists
    exact resolves_of_lists hinj hs.grouped hentries hdescribed hnamed hmember
      (resolverRefusal_of_trusted hresolver htrusted) hlists

namespace Lab

/-- The conflict an evaluation of the requirement reports. -/
def reportedConflict (s : Registry) (now : Tick) : ConflictId := ((s.evaluate requirement now).1.conflict).getD .zero

/-- The first live record of the requirement's group. -/
def firstLive (s : Registry) (now : Tick) : EvidenceId :=
  ((s.derivedFor requirement now).live.head?.map StoredEvidence.id).getD .zero

/-- What the two reports that differ are digested to. -/
def disputed : Set Bytes := {(disagreeing.describedFor requirement 6).content}

theorem disputed_injOn : Set.InjOn Digest256.of disputed := by
  rw [disputed]
  exact Set.injOn_singleton _ _

theorem disagreeing_described : (disagreeing.describedFor requirement 6).content ∈ disputed := by
  rw [disputed]
  exact Set.mem_singleton _

theorem disagreeing_grounded : disagreeing.Grounded := disagreeing_reach.grounded

/-- The table's entry is the conflict that an evaluation reports. -/
theorem disagreeing_facts : (disagreeing.conflictTable.all (fun group =>
        group.content == (disagreeing.describedFor requirement 6).content) = true ∧
      disagreeing.conflictTable.any (fun group =>
        group.owner == (requirement.device, requirement.capability) &&
          group.members == (disagreeing.derivedFor requirement 6).live.map StoredEvidence.id) = true) ∧
      (disagreeing.evaluate requirement 6).1.conflict = some (reportedConflict disagreeing 6) ∧
      firstLive disagreeing 6 ∈ (disagreeing.derivedFor requirement 6).live.map StoredEvidence.id ∧
      disagreeing.policy.findSource source = some { sourcePolicy with durableAcrossBoot := true } := by
  decide +kernel

theorem disagreeing_disputed : ∀ group ∈ disagreeing.conflictTable, group.content ∈ disputed := by
  intro group hgroup
  rw [disputed, Set.mem_singleton_iff]
  exact beq_iff_eq.mp (all_eq_true.mp disagreeing_facts.1.1 group hgroup)

theorem disagreeing_lists : disagreeing.Lists requirement 6 := by
  obtain ⟨group, hgroup, hboth⟩ := any_eq_true.mp disagreeing_facts.1.2
  rw [Bool.and_eq_true, beq_iff_eq, beq_iff_eq] at hboth
  exact ⟨group, hgroup, hboth⟩

end Lab

/-- The conflict of the two reports is listed, and resolved for the first. -/
theorem disagreeing_reports_resolvable :
    (disagreeing.resolveConflict (reportedConflict disagreeing 6) (firstLive disagreeing 6)
      source 6).1.ok = true := by
  obtain ⟨_, hconflict, hmember, hresolver⟩ := disagreeing_facts
  exact (conflict_resolvable_iff_listed disputed_injOn disagreeing_grounded disagreeing_disputed
    disagreeing_described hconflict hmember hresolver rfl).mpr disagreeing_lists

/-- When the auditor's report has run out, the other two are in conflict again, but no operation has entered that in the
    table: the reported conflict is not known to the resolution. -/
theorem reported_conflict_not_resolvable :
    audited.Reachable ∧ (audited.evaluate requirement 11).1.kind = .conflicted ∧
      (audited.evaluate requirement 11).1.conflict = some (reportedConflict audited 11) ∧
      firstLive audited 11 ∈ (audited.derivedFor requirement 11).live.map StoredEvidence.id ∧
      (audited.policy.findSource source).map SourcePolicy.trust = some .trusted ∧
      (audited.resolveConflict (reportedConflict audited 11) (firstLive audited 11)
        source 11).1.ok = false := by
  refine ⟨audited_reachable, ?_⟩
  decide +kernel

end Ocreg
