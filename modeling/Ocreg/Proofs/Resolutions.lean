/-
Module: Ocreg.Proofs.Resolutions
Purpose: What an operator's resolution of a conflict decides. A resolution counts only while its members are those in
  conflict, so a stale one never applies. Of several resolutions of one conflict the first in order of ids counts,
  which need not be the last one made.
-/
import Ocreg.Proofs.Conflicts

namespace Ocreg

open List Registry Lab

variable {chosen : EvidenceId} {resolver : SourceId} {conflict : ConflictId} {now : Tick}

/-! ### What a resolution selects -/

namespace Registry

variable {s t : Registry} {requirement : CapabilityRequirement}

section

variable (hs : s.Levelled) (h : s.conflictOf requirement now = some conflict)
include hs h

theorem registered_of_conflict : ∃ entry, s.findDevice requirement.device.device = some entry := by
  have hnamed : s.conflictOf requirement now ≠ none := by
    rw [h]
    exact Option.some_ne_none conflict
  obtain ⟨record, _, hleading, _⟩ := (conflictOf_ne_none hs).mp hnamed
  cases hentry : s.findDevice requirement.device.device with
  | none => exact absurd hleading.counts (not_counts_of_unknown hentry)
  | some entry => exact ⟨entry, rfl⟩

/-- In a conflict the choice of its first stored resolution is selected, if it is among the live records. -/
theorem selected_of_conflict (id : EvidenceId) : (s.evaluate requirement now).1.selected = some id ↔
      ∃ resolution, s.findResolution conflict = some resolution ∧ resolution.chosen = id ∧
        id ∈ (s.derivedFor requirement now).live.map StoredEvidence.id := by
  obtain ⟨entry, hentry⟩ := registered_of_conflict hs h
  obtain ⟨reasons, result, hverdict, _, hselected⟩ := evaluate_known now hentry
  have hjudged := s.verdict_view (s.derivedFor requirement now) requirement reasons
  rw [hverdict] at hjudged
  rw [hselected]
  unfold conflictOf at h
  cases hjudged with
  | unresolved hid hunresolved =>
    rw [h] at hid
    cases hid
    constructor
    · intro hnone
      cases hnone
    · rintro ⟨resolution, hresolution, rfl, hlive⟩
      obtain ⟨record, hrecord, hchosen⟩ := mem_map.mp hlive
      exact absurd hchosen (hunresolved resolution hresolution record hrecord)
  | resolved hid hresolution hlive hchosen =>
    rw [h] at hid
    cases hid
    rw [Option.map_some, Option.some_inj, hchosen]
    constructor
    · rintro rfl
      exact ⟨_, hresolution, rfl, mem_map.mpr ⟨_, hlive, hchosen⟩⟩
    · rintro ⟨other, hother, rfl, _⟩
      rw [hresolution] at hother
      cases hother
      rfl
  | agreed hnone _ | nothing hnone _ =>
    rw [h] at hnone
    cases hnone

end

/-! ### Storing a resolution -/

/-- Replacing under a key puts the value behind the values below it. -/
theorem exists_replaceFirst_eq {α κ : Type} [LinearOrder κ] (keyOf : α → κ) {test : α → Bool} {values : List α}
    {value : α} (htest : ∀ other, test other = true ↔ keyOf other = keyOf value)
    (hsorted : values.Pairwise (fun a b => keyOf a ≤ keyOf b)) (hthere : ∃ other ∈ values, keyOf other = keyOf value) :
    ∃ rest, replaceFirst test value values =
      values.filter (fun other => keyOf other < keyOf value) ++ value :: rest := by
  induction values with
  | nil =>
    obtain ⟨_, hmem, _⟩ := hthere
    cases hmem
  | cons first values ih =>
    obtain ⟨hfirst, hvalues⟩ := pairwise_cons.mp hsorted
    rw [replaceFirst]
    by_cases hsame : keyOf first = keyOf value
    · have hnone : ∀ other ∈ first :: values, ¬ decide (keyOf other < keyOf value) = true := by
        intro other hother
        rw [decide_eq_true_eq, not_lt, ← hsame]
        rcases mem_cons.mp hother with rfl | hother
        · exact le_rfl
        · exact hfirst other hother
      rw [if_pos ((htest first).mpr hsame), filter_eq_nil_iff.mpr hnone]
      exact ⟨values, rfl⟩
    · obtain ⟨other, hother, hkey⟩ := hthere
      have hlater : other ∈ values := by
        rcases mem_cons.mp hother with rfl | hlater
        · exact absurd hkey hsame
        · exact hlater
      have hbelow : keyOf first < keyOf value := lt_of_le_of_ne (hkey ▸ hfirst other hlater) hsame
      obtain ⟨rest, hrest⟩ := ih hvalues ⟨other, hlater, hkey⟩
      refine ⟨rest, ?_⟩
      rw [if_neg (fun h => hsame ((htest first).mp h)), hrest, filter_cons_of_pos (by simpa using hbelow), cons_append]

/-- The resolutions that stay when one of the given id is stored: at the bound the first goes, unless one of that id
    is replaced. -/
def keptResolutions (s : Registry) (id : ResolutionId) : List ConflictResolution :=
  if s.resolutionTable.any (fun entry => entry.id == id) then s.resolutionTable
  else if s.resolutionTable.length ≥ s.policy.limits.maxResolutions.toNat then s.resolutionTable.drop 1
  else s.resolutionTable

theorem keptResolutions_sublist (s : Registry) (id : ResolutionId) :
    (s.keptResolutions id).Sublist s.resolutionTable := by
  rw [keptResolutions]
  split
  · exact Sublist.refl _
  · split
    · exact drop_sublist 1 _
    · exact Sublist.refl _

/-- A stored resolution stands behind the kept ones with smaller ids. -/
theorem pushResolution_table (hsorted : s.resolutionTable.Pairwise (fun a b => a.id ≤ b.id))
    (resolution : ConflictResolution) : ∃ rest, (s.pushResolution resolution).resolutionTable =
      (s.keptResolutions resolution.id).filter (fun entry => entry.id < resolution.id) ++ resolution :: rest := by
  have hkept := hsorted.sublist (s.keptResolutions_sublist resolution.id)
  rw [pushResolution]
  dsimp only
  by_cases hthere : s.resolutionTable.any (fun entry => entry.id == resolution.id) = true
  · rw [if_pos hthere, keptResolutions, if_pos hthere]
    dsimp only
    apply exists_replaceFirst_eq ConflictResolution.id (fun entry => beq_iff_eq) hsorted
    obtain ⟨entry, hentry, hid⟩ := any_eq_true.mp hthere
    exact ⟨entry, hentry, beq_iff_eq.mp hid⟩
  · have hsame : s.keptResolutions resolution.id =
        if s.resolutionTable.length ≥ s.policy.limits.maxResolutions.toNat then s.resolutionTable.drop 1
        else s.resolutionTable := if_neg hthere
    rw [if_neg hthere]
    dsimp only
    rw [← hsame]
    apply Scan.exists_insertionSort_append ConflictResolution.id hkept
    intro entry hentry hid
    have hold := (s.keptResolutions_sublist resolution.id).subset hentry
    exact hthere (any_eq_true.mpr ⟨entry, hold, beq_iff_eq.mpr hid⟩)

theorem mem_pushResolution {resolution other : ConflictResolution}
    (h : other ∈ (s.pushResolution resolution).resolutionTable) : other = resolution ∨ other ∈ s.resolutionTable := by
  rw [pushResolution] at h
  dsimp only at h
  split at h
  · exact mem_replaceFirst h
  · have hentry := (perm_insertionSort _ _).subset h
    rcases mem_append.mp hentry with hold | hnew
    · right
      split at hold
      · exact mem_of_mem_drop hold
      · exact hold
    · exact .inl (mem_singleton.mp hnew)

/-- The resolution of its conflict that counts after it is stored: the first kept one with a smaller id, if there is
    one. -/
theorem findResolution_push (hsorted : s.resolutionTable.Pairwise (fun a b => a.id ≤ b.id))
    (resolution : ConflictResolution) : (s.pushResolution resolution).findResolution resolution.conflict =
      some ((((s.keptResolutions resolution.id).filter (fun entry => entry.id < resolution.id)).find?
        (fun entry => entry.conflict == resolution.conflict)).getD resolution) := by
  obtain ⟨rest, htable⟩ := pushResolution_table hsorted resolution
  rw [findResolution, htable, find?_append]
  cases ((s.keptResolutions resolution.id).filter (fun entry => entry.id < resolution.id)).find?
      (fun entry => entry.conflict == resolution.conflict) with
  | some earlier => rfl
  | none =>
    rw [Option.none_or, find?_cons_of_pos (by simp)]
    rfl

section

variable (s)

/-- A resolution fails and changes nothing, or is stored for the group it found. -/
theorem resolveConflict_cases (conflict : ConflictId) (chosen : EvidenceId) (resolver : SourceId) (now : Tick)
    : ((s.resolveConflict conflict chosen resolver now).1.ok = false ∧
      (s.resolveConflict conflict chosen resolver now).2 = s) ∨
    ∃ group, s.conflictTable.reverse.find? (fun group => group.id == conflict) = some group ∧ group.id = conflict ∧
      chosen ∈ group.members ∧ (s.resolveConflict conflict chosen resolver now).1.ok = true ∧
      (s.resolveConflict conflict chosen resolver now).2.resolutionTable =
        (s.pushResolution (s.resolutionOf group chosen resolver now)).resolutionTable := by
  generalize hop : s.resolveConflict conflict chosen resolver now = result
  cases s.resolveConflict_view hop with
  | refused _ => exact .inl ⟨rfl, rfl⟩
  | @resolved group hgroup => exact .inr ⟨group, hgroup.1, hgroup.id_eq, hgroup.2.1, rfl, rfl⟩

theorem adoptState_resolutions (state : RegistryState) (now : Tick) :
    (s.adoptState state now).2.resolutionTable = (adopt state).resolutionTable := by
  obtain ⟨_, _, hrefresh⟩ := (s.rebooted state now).refreshAllConflicts_frame (resumeTick state now)
  rw [adoptState]
  dsimp only
  rw [hrefresh]
  rfl

/-- How an operation leaves the resolution table. -/
inductive Resolving : Op → Registry → Prop
  | same {op : Op} {t : Registry} (hresolutions : t.resolutionTable = s.resolutionTable) : Resolving op t
  | stored {conflict : ConflictId} {chosen : EvidenceId} {resolver : SourceId} {now : Tick} {group : ConflictGroup}
      {t : Registry} (hfind : s.conflictTable.reverse.find? (fun group => group.id == conflict) = some group)
      (hid : group.id = conflict) (hchosen : chosen ∈ group.members)
      (hok : (s.resolveConflict conflict chosen resolver now).1.ok = true)
      (hresolutions : t.resolutionTable = (s.pushResolution (s.resolutionOf group chosen resolver now)).resolutionTable) :
      Resolving (.resolveConflict conflict chosen resolver now) t
  | adopted {state : RegistryState} {now : Tick} {t : Registry}
      (hresolutions : t.resolutionTable = (adopt state).resolutionTable) :
      Resolving (.adoptState state now) t

theorem step_resolving (op : Op) : Resolving s op (s.step op) := by
  rcases op.made_or .adoptState with ⟨state, now, rfl⟩ | hadopt
  · exact .adopted (s.adoptState_resolutions state now)
  · by_cases hresolve : ∃ conflict chosen resolver now, op = .resolveConflict conflict chosen resolver now
    · obtain ⟨conflict, chosen, resolver, now, rfl⟩ := hresolve
      rcases s.resolveConflict_cases conflict chosen resolver now with
        ⟨_, hsame⟩ | ⟨group, hfind, hid, hchosen, hok, htable⟩
      · rw [step, hsame]
        exact .same rfl
      · exact .stored hfind hid hchosen hok htable
    · push Not at hresolve
      exact .same ((s.step_touches hadopt).resolutions hresolve)

end

theorem Reachable.resolutions_ascend (h : s.Reachable) : s.resolutionTable.Pairwise (fun a b => a.id ≤ b.id) := by
  induction h with
  | init policy => exact Pairwise.nil
  | restore policy state => exact Scan.insertionSort_ascends ConflictResolution.id _
  | @step s _ op ih =>
    have hresolving := s.step_resolving op
    generalize s.step op = t at hresolving
    cases hresolving with
    | same hresolutions =>
      rw [hresolutions]
      exact ih
    | stored _ _ _ _ hresolutions =>
      rw [hresolutions]
      exact resolutions_ascend_push ih _
    | adopted hresolutions =>
      rw [hresolutions]
      exact Scan.insertionSort_ascends ConflictResolution.id _

theorem Grounded.reachable (h : s.Grounded) : s.Reachable := by
  induction h with
  | init policy => exact .init policy
  | restore policy _ _ => exact .restore policy _
  | step _ op ih => exact ih.step op

end Registry

/-! ### The last resolution -/

namespace Registry

/-- No resolution of the conflict that stays and comes before the new one, by its id, has another choice: the first of
    them, if there are any, has the same. -/
def Unopposed (s : Registry) (conflict : ConflictId) (chosen : EvidenceId) (resolver : SourceId) (now : Tick) : Prop :=
  ∀ group, s.conflictTable.reverse.find? (fun group => group.id == conflict) = some group →
    let id := (s.resolutionOf group chosen resolver now).id
    ∀ earlier, ((s.keptResolutions id).filter (fun entry => entry.id < id)).find?
      (fun entry => entry.conflict == conflict) = some earlier → earlier.chosen = chosen

/-- The operation is not another resolution that succeeds, and a state it adopts has the same choice for the
    conflict. -/
def KeepsChoice (conflict : ConflictId) (s : Registry) : Op → Prop
  | .resolveConflict other chosen resolver now => (s.resolveConflict other chosen resolver now).1.ok = false
  | .adoptState state _ => ((adopt state).findResolution conflict).map ConflictResolution.chosen =
      (s.findResolution conflict).map ConflictResolution.chosen
  | _ => True

theorem KeepsChoice.step {s : Registry} {op : Op} (h : KeepsChoice conflict s op) :
    ((s.step op).findResolution conflict).map ConflictResolution.chosen =
      (s.findResolution conflict).map ConflictResolution.chosen := by
  have hresolving := s.step_resolving op
  generalize s.step op = t at hresolving
  cases hresolving with
  | same hresolutions => rw [findResolution, hresolutions, findResolution]
  | stored _ _ _ hok _ =>
    rw [KeepsChoice, hok] at h
    cases h
  | adopted hresolutions =>
    rw [findResolution, hresolutions]
    exact h

/-- The choice that counts after a resolution is its own exactly where it is unopposed. -/
theorem choice_of_resolveConflict {s : Registry} (hsorted : s.resolutionTable.Pairwise (fun a b => a.id ≤ b.id))
    (hok : (s.resolveConflict conflict chosen resolver now).1.ok = true) :
    ((s.resolveConflict conflict chosen resolver now).2.findResolution conflict).map ConflictResolution.chosen =
      some chosen ↔ s.Unopposed conflict chosen resolver now := by
  rcases s.resolveConflict_cases conflict chosen resolver now with ⟨hfailed, _⟩ | ⟨group, hfind, rfl, _, _, htable⟩
  · rw [hfailed] at hok
    cases hok
  · have hfirst := (congrArg (find? fun entry : ConflictResolution => entry.conflict == group.id) htable).trans
      (findResolution_push hsorted (s.resolutionOf group chosen resolver now))
    rw [findResolution, hfirst, Unopposed, hfind, Option.map_some, Option.some_inj]
    generalize hfound : find? _ _ = found
    constructor
    · intro hchosen other hother id earlier hearlier
      cases hother
      cases hfound.symm.trans hearlier
      exact hchosen
    · intro hunopposed
      cases found with
      | none => rfl
      | some earlier => exact hunopposed group rfl earlier hfound

end Registry

/-- After a resolution an evaluation of its conflict selects its choice, until another succeeds, exactly where no
    earlier resolution opposes it. -/
theorem last_resolution_wins_iff_unopposed {offered : Set Bytes} (hinj : Set.InjOn Digest256.of offered) {s : Registry}
    (hs : s.Grounded) (hentries : ∀ group ∈ s.conflictTable, group.content ∈ offered) {conflict : ConflictId}
    {chosen : EvidenceId} {resolver : SourceId} {tick : Tick}
    (hok : (s.resolveConflict conflict chosen resolver tick).1.ok = true) {ops : List Op}
    (hkeeps : Runs.Along step (Registry.KeepsChoice conflict)
      (s.step (.resolveConflict conflict chosen resolver tick)) ops)
    {t : Registry} (hrun : t = (s.step (.resolveConflict conflict chosen resolver tick)).run ops)
    {requirement : CapabilityRequirement} {now : Tick} (hdescribed : (t.describedFor requirement now).content ∈ offered)
    (hconflict : t.conflictOf requirement now = some conflict) :
    (t.evaluate requirement now).1.selected = some chosen ↔ s.Unopposed conflict chosen resolver tick := by
  have hreachable : t.Reachable := by
    rw [hrun]
    exact (hs.reachable.step _).run ops
  -- the group of the resolution is in conflict again, so its choice is live
  have hlive : chosen ∈ (t.derivedFor requirement now).live.map StoredEvidence.id := by
    obtain ⟨⟨group, hfind, hchosen⟩, _⟩ := resolveConflict_ok.mp hok
    have hgroup : group ∈ s.conflictTable := mem_reverse.mp (mem_of_find?_eq_some hfind)
    have hid : group.id = conflict := by simpa using find?_some hfind
    rw [hs.grouped.ids group hgroup] at hid
    rw [← (group_of_conflict hinj hdescribed hconflict (hentries group hgroup) hid).2]
    exact hchosen
  have hchoice : (t.findResolution conflict).map ConflictResolution.chosen =
      ((s.step (.resolveConflict conflict chosen resolver tick)).findResolution conflict).map
        ConflictResolution.chosen := by
    rw [hrun]
    exact hkeeps.invariant
      (I := fun u => (u.findResolution conflict).map ConflictResolution.chosen =
        ((s.step (.resolveConflict conflict chosen resolver tick)).findResolution conflict).map
          ConflictResolution.chosen)
      (fun _ _ hu hop => hop.step.trans hu) rfl
  rw [selected_of_conflict (.of_reachable hreachable) hconflict,
    ← choice_of_resolveConflict hs.reachable.resolutions_ascend hok]
  rw [step] at hchoice
  rw [← hchoice, Option.map_eq_some_iff]
  constructor
  · rintro ⟨resolution, hfound, hchosen, _⟩
    exact ⟨resolution, hfound, hchosen⟩
  · rintro ⟨resolution, hfound, hchosen⟩
    exact ⟨resolution, hfound, hchosen, hlive⟩

namespace Lab

/-- The two reports that differ, resolved in favour of the first. -/
def settled : Registry :=
  disagreeing.step (.resolveConflict (reportedConflict disagreeing 6) (firstLive disagreeing 6) source 6)

theorem settled_ok : (disagreeing.resolveConflict (reportedConflict disagreeing 6) (firstLive disagreeing 6)
    source 6).1.ok = true := by
  obtain ⟨_, hconflict, hmember, hresolver⟩ := disagreeing_facts
  exact resolves_of_lists disputed_injOn disagreeing_grounded.grouped disagreeing_disputed
    disagreeing_described (conflictOf_of_evaluate hconflict) hmember (resolverRefusal_of_trusted hresolver rfl)
    disagreeing_lists

theorem settled_eq : settled = (disagreeing.resolveConflict (reportedConflict disagreeing 6)
    (firstLive disagreeing 6) source 6).2 := by
  rw [settled, step]

theorem settled_derive : settled.derive = disagreeing.derive := by
  rw [settled_eq, derive_resolveConflict]

theorem settled_conflict : settled.conflictOf requirement 6 = some (reportedConflict disagreeing 6) := by
  unfold conflictOf
  rw [settled_derive]
  exact conflictOf_of_evaluate disagreeing_facts.2.1

theorem settled_described : (settled.describedFor requirement 6).content ∈ disputed := by
  rw [describedFor, derivedFor, settled_derive]
  exact disagreeing_described

theorem settled_unopposed : disagreeing.Unopposed (reportedConflict disagreeing 6)
    (firstLive disagreeing 6) source 6 := by
  intro group _ id earlier hearlier
  have hkept := (disagreeing.keptResolutions_sublist id).subset (mem_of_mem_filter (mem_of_find?_eq_some hearlier))
  rw [disagreeing_unresolved] at hkept
  cases hkept

end Lab

/-- The only resolution of the two reports is followed. -/
theorem settled_reports_follow_choice :
    (settled.evaluate requirement 6).1.selected = some (firstLive disagreeing 6) := by
  have hkeeps : Runs.Along step (KeepsChoice
      (reportedConflict disagreeing 6)) settled [] :=
    trivial
  have hrun : settled = settled.run [] := foldl_nil.symm
  rw [settled] at hkeeps
  nth_rewrite 2 [settled] at hrun
  exact (last_resolution_wins_iff_unopposed disputed_injOn disagreeing_grounded disagreeing_disputed
    settled_ok hkeeps hrun settled_described settled_conflict).mpr settled_unopposed

/-- Resolved for the second report and then for the first, the conflict is still decided by the resolution made
    before, whose id is the smaller one. -/
theorem later_resolution_ignored :
    let s := resolvedFor disagreeing 1 6
    s.Reachable ∧ ∃ group ∈ s.conflictTable, ∃ chosen ∈ group.members.head?,
      (s.resolveConflict group.id chosen source 7).1.ok = true ∧
      ((s.resolveConflict group.id chosen source 7).2.evaluate requirement 8).1.conflict = some group.id ∧
      ((s.resolveConflict group.id chosen source 7).2.evaluate requirement 8).1.selected ≠ some chosen := by
  refine ⟨resolvedFor_reachable disagreeing_reachable 1 6, ?_⟩
  decide +kernel

/-! ### Stale resolutions -/

/-- The conflict id of the resolution is the digest of a group with exactly its chosen and its rejected members.
    `offered` holds the contents of the groups that are met. -/
def ConflictResolution.Covers (offered : Set Bytes) (resolution : ConflictResolution) : Prop :=
  ∃ group : ConflictGroup, group.content ∈ offered ∧ Digest256.of group.content = resolution.conflict ∧
    ∀ member, member ∈ group.members ↔ member = resolution.chosen ∨ member ∈ resolution.rejectedMembers

namespace Registry

variable {s : Registry} {offered : Set Bytes}

theorem covers_resolutionOf {group : ConflictGroup}
    (hgroup : group.content ∈ offered) (hid : group.id = Digest256.of group.content)
    (hchosen : chosen ∈ group.members) : (s.resolutionOf group chosen resolver now).Covers offered := by
  refine ⟨group, hgroup, hid.symm, ?_⟩
  intro member
  rw [resolutionOf, mem_filter, bne_iff_ne]
  dsimp only
  by_cases heq : member = chosen
  · rw [heq]
    exact ⟨fun _ => .inl rfl, fun _ => hchosen⟩
  · exact ⟨fun hmember => .inr ⟨hmember, heq⟩, fun hor => (hor.resolve_left heq).1⟩

/-- Registries that come about with resolutions of their own: a stored state that one is built from or that is adopted
    has only resolutions that cover their conflicts, and conflicts under their own ids. -/
inductive Attested (offered : Set Bytes) : Registry → Prop
  | init (policy : RegistryPolicy) : Attested offered (init policy)
  | restore (policy : RegistryPolicy) {state : RegistryState}
      (hconflicts : ∀ group ∈ state.conflicts, group.id = Digest256.of group.content)
      (hresolutions : ∀ resolution ∈ state.resolutions, resolution.Covers offered) :
      Attested offered (restore policy state)
  | step {s : Registry} (hs : Attested offered s) (hoffered : ∀ group ∈ s.conflictTable, group.content ∈ offered)
      {op : Op} (hadopted : ∀ state now, op = .adoptState state now →
        ∀ resolution ∈ state.resolutions, resolution.Covers offered) :
      Attested offered (s.step op)

theorem Attested.reachable (h : Attested offered s) : s.Reachable := by
  induction h with
  | init policy => exact .init policy
  | restore policy _ _ => exact .restore policy _
  | step _ _ _ ih => exact ih.step _

theorem Attested.ids (h : Attested offered s) : ∀ group ∈ s.conflictTable, group.id = Digest256.of group.content := by
  induction h with
  | init policy => exact fun group hgroup => nomatch hgroup
  | restore policy hconflicts _ =>
    intro group hgroup
    exact hconflicts group ((perm_insertionSort _ _).subset hgroup)
  | @step s _ _ op _ ih =>
    intro group hgroup
    rcases (s.step_tabulated op).mem_conflicts hgroup with hold | ⟨now, hdisagrees, hdescribes⟩
    · exact ih group hold
    · rw [hdescribes]
      exact conflictGroupOf_id hdisagrees

theorem Attested.covers (h : Attested offered s) : ∀ resolution ∈ s.resolutionTable, resolution.Covers offered := by
  induction h with
  | init policy => exact fun resolution hresolution => nomatch hresolution
  | restore policy _ hresolutions =>
    intro resolution hresolution
    exact hresolutions resolution ((perm_insertionSort _ _).subset hresolution)
  | @step s hs hoffered op hadopted ih =>
    intro resolution hresolution
    have hresolving := s.step_resolving op
    generalize s.step op = t at hresolving hresolution
    cases hresolving with
    | same hresolutions =>
      rw [hresolutions] at hresolution
      exact ih resolution hresolution
    | @stored _ _ _ _ group _ hfind _ hchosen _ hresolutions =>
      rw [hresolutions] at hresolution
      have hgroup : group ∈ s.conflictTable := mem_reverse.mp (mem_of_find?_eq_some hfind)
      rcases mem_pushResolution hresolution with rfl | hold
      · exact covers_resolutionOf (hoffered group hgroup) (hs.ids group hgroup) hchosen
      · exact ih resolution hold
    | adopted hresolutions =>
      rw [hresolutions] at hresolution
      exact hadopted _ _ rfl resolution ((perm_insertionSort _ _).subset hresolution)

end Registry

/-- Whenever an evaluation selects a record in a conflict, it follows the stored resolution of that conflict, whose
    chosen and rejected members are exactly the records that are live. -/
theorem stale_resolution_never_applies {offered : Set Bytes} (hinj : Set.InjOn Digest256.of offered) {s : Registry}
    (hs : s.Attested offered) {requirement : CapabilityRequirement} {now : Tick}
    (hdescribed : (s.describedFor requirement now).content ∈ offered) {conflict : ConflictId}
    (hconflict : (s.evaluate requirement now).1.conflict = some conflict) {id : EvidenceId}
    (hselected : (s.evaluate requirement now).1.selected = some id) :
    ∃ resolution ∈ s.resolutionTable, s.findResolution conflict = some resolution ∧ resolution.conflict = conflict ∧
      resolution.chosen = id ∧ ∀ member, member ∈ (s.derivedFor requirement now).live.map StoredEvidence.id ↔
        member = resolution.chosen ∨ member ∈ resolution.rejectedMembers := by
  have hnamed := conflictOf_of_evaluate hconflict
  obtain ⟨resolution, hfound, hchosen, _⟩ :=
    (selected_of_conflict (.of_reachable hs.reachable) hnamed id).mp hselected
  obtain ⟨hstored, hresolves⟩ := findResolution_some hfound
  obtain ⟨group, hgroup, hdigest, hmembers⟩ := hs.covers resolution hstored
  have hgroupOf := group_of_conflict hinj hdescribed hnamed hgroup (hdigest.trans hresolves)
  refine ⟨resolution, hstored, hfound, hresolves, hchosen, ?_⟩
  rw [← hgroupOf.2]
  exact hmembers

namespace Lab

theorem disagreeing_attested : disagreeing.Attested disputed := by
  have hfirst : ((init durablePolicy).step (.admitRequest (request 0 1 5) 5)).conflictTable = [] := by
    decide +kernel
  rw [disagreeing]
  apply Attested.step
  · apply Attested.step (.init durablePolicy)
    · intro group hgroup
      exact absurd hgroup not_mem_nil
    · intro state now h
      cases h
  · intro group hgroup
    rw [hfirst] at hgroup
    cases hgroup
  · intro state now h
    cases h

theorem settled_attested : settled.Attested disputed := by
  apply Attested.step disagreeing_attested disagreeing_disputed
  intro state now h
  cases h

end Lab

/-- The resolved conflict is decided by a resolution of both reports. -/
theorem settled_reports_covered :
    ∃ resolution ∈ settled.resolutionTable, resolution.chosen = firstLive disagreeing 6 ∧
      ∀ member, member ∈ (settled.derivedFor requirement 6).live.map StoredEvidence.id ↔
        member = resolution.chosen ∨ member ∈ resolution.rejectedMembers := by
  have hlevelled := Levelled.of_reachable settled_attested.reachable
  obtain ⟨entry, hentry⟩ := registered_of_conflict hlevelled settled_conflict
  have hconflict := (evaluate_conflict hentry).trans settled_conflict
  have hselected : (settled.evaluate requirement 6).1.selected = some (firstLive disagreeing 6) := by
    apply (selected_of_conflict hlevelled settled_conflict _).mpr
    have hchoice := (choice_of_resolveConflict disagreeing_reachable.resolutions_ascend settled_ok).mpr
      settled_unopposed
    rw [← settled_eq] at hchoice
    obtain ⟨resolution, hfound, hchosen⟩ := Option.map_eq_some_iff.mp hchoice
    refine ⟨resolution, hfound, hchosen, ?_⟩
    rw [derivedFor, settled_derive]
    exact disagreeing_facts.2.2.1
  obtain ⟨resolution, hstored, _, _, hchosen, hmembers⟩ := stale_resolution_never_applies
    disputed_injOn settled_attested settled_described hconflict hselected
  exact ⟨resolution, hstored, hchosen, hmembers⟩

namespace Lab

/-- A stored state with a resolution of the conflict that has lost its rejected member. -/
def lostMember : RegistryState :=
  { disagreeing.toState with
    resolutions := [⟨.zero, reportedConflict disagreeing 6, firstLive disagreeing 6, [], source, 6, 1⟩] }

end Lab

/-- Adopted, that state decides a conflict of two records by a resolution of one. -/
theorem adopted_resolution_applies :
    let s := (init durablePolicy).step (.adoptState lostMember 6)
    (s.evaluate requirement 7).1.selected = some (firstLive disagreeing 6) ∧
      (s.evaluate requirement 7).1.conflict = s.resolutionTable.head?.map ConflictResolution.conflict ∧
      s.resolutionTable.map (fun resolution => (resolution.chosen, resolution.rejectedMembers)) =
        [(firstLive disagreeing 6, [])] ∧
      ((s.derivedFor requirement 7).live.map StoredEvidence.id).length = 2 := by
  decide +kernel

end Ocreg
