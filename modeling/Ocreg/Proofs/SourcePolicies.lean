/-
Module: Ocreg.Proofs.SourcePolicies
Purpose: What changes of the source policy mean for the evidence. In a policy with one entry for a source at most, an
  operation writes one entry or none; a revoked source has no evidence that counts until it is reinstated; and a new
  authority is that of evidence to come, while stored records are ranked by the authority they were admitted under.
-/
import Ocreg.Lib.Runs
import Ocreg.Proofs.ConflictTable
import Ocreg.Proofs.Queries

namespace Ocreg

open List Registry

variable {policy : RegistryPolicy} {entry : SourcePolicy} {op : Op} {ops : List Op} {key : EvidenceKey}
  {record : StoredEvidence} {fact : DerivedFact} {source : SourceId} {override now : Tick}
  {device : DeviceIncarnationRef} {kind : CapabilityKind} {authority : AuthorityRank} {s : Registry}

/-! ### Policy entries -/

/-- One entry for a source at most. -/
def RegistryPolicy.Unique (policy : RegistryPolicy) : Prop := (policy.sources.map SourcePolicy.id).Nodup

theorem RegistryPolicy.Unique.findSource_eq (h : policy.Unique) {id : SourceId} :
    policy.findSource id = some entry ↔ entry ∈ policy.sources ∧ entry.id = id := by
  rw [RegistryPolicy.findSource]
  constructor
  · intro hfind
    exact ⟨mem_of_find?_eq_some hfind, by simpa using find?_some hfind⟩
  · rintro ⟨hmem, rfl⟩
    cases hfind : policy.sources.find? (fun source => source.id == entry.id) with
    | none => exact absurd (find?_eq_none.mp hfind entry hmem) (by simp)
    | some found =>
      have hid : found.id = entry.id := by simpa using find?_some hfind
      rw [inj_on_of_nodup_map h (mem_of_find?_eq_some hfind) hmem hid]

theorem RegistryPolicy.Unique.sorted (h : policy.Unique) : ((sortSources policy.sources).map SourcePolicy.id).Nodup :=
  (((perm_insertionSort _ policy.sources).map SourcePolicy.id).nodup_iff).mpr h

/-- The entries with one written over that of its source. -/
structure Overwrites (entry : SourcePolicy) (before after : List SourcePolicy) : Prop where
  mem : ∀ other, other ∈ after ↔ (other ∈ before ∧ other.id ≠ entry.id) ∨ other = entry
  unique : (after.map SourcePolicy.id).Nodup

theorem Overwrites.perm {before after sorted : List SourcePolicy} (h : Overwrites entry before after)
    (hperm : sorted.Perm after) : Overwrites entry before sorted := by
  constructor
  · intro other
    rw [hperm.mem_iff]
    exact h.mem other
  · exact ((hperm.map SourcePolicy.id).nodup_iff).mpr h.unique

/-- Writing over the entry that is there. -/
theorem Overwrites.replaced {sources : List SourcePolicy} (hunique : (sources.map SourcePolicy.id).Nodup)
    (hthere : ∃ old ∈ sources, old.id = entry.id) :
    Overwrites entry sources (replaceFirst (fun source => source.id == entry.id) entry sources) := by
  constructor
  · intro other
    apply mem_replaceFirst_key (fun source => beq_iff_eq) hunique
    obtain ⟨old, hold, hid⟩ := hthere
    rw [find?_isSome]
    exact ⟨old, hold, beq_iff_eq.mpr hid⟩
  · rw [map_replaceFirst SourcePolicy.id]
    · exact hunique
    · intro found hfound
      have htest := find?_some (Option.mem_def.mp hfound)
      exact beq_iff_eq.mp htest

/-- Adding the entry of a source that has none. -/
theorem Overwrites.appended {sources : List SourcePolicy} (hunique : (sources.map SourcePolicy.id).Nodup)
    (hnew : ∀ old ∈ sources, old.id ≠ entry.id) : Overwrites entry sources (sources ++ [entry]) := by
  constructor
  · intro other
    rw [mem_append, mem_singleton]
    constructor
    · rintro (hold | rfl)
      · exact .inl ⟨hold, hnew other hold⟩
      · exact .inr rfl
    · rintro (⟨hold, _⟩ | rfl)
      · exact .inl hold
      · exact .inr rfl
  · rw [map_append, nodup_append]
    refine ⟨hunique, nodup_singleton _, ?_⟩
    intro id hid other hother heq
    obtain ⟨old, hold, rfl⟩ := mem_map.mp hid
    rw [map_singleton, mem_singleton] at hother
    exact hnew old hold (heq.trans hother)

namespace Registry

variable {change : SourcePolicy → SourcePolicy}

theorem policy_refreshAll (s : Registry) (now : Tick) : (s.refreshAllConflicts now).policy = s.policy := by
  obtain ⟨_, _, hrefresh⟩ := s.refreshAllConflicts_frame now
  rw [hrefresh]

/-- The ways a change of one entry can go. -/
theorem updateSource_cases (s : Registry) (hunique : s.policy.Unique) (source : SourceId)
    (settled : SourcePolicy → Bool) (hid : ∀ entry, (change entry).id = entry.id) (now : Tick) :
    ((∀ entry ∈ s.policy.sources, entry.id ≠ source) ∧
      ∃ reason detail, s.updateSource source settled change now = (.failure reason detail, s)) ∨
    ∃ target ∈ s.policy.sources, target.id = source ∧
      ((settled target = true ∧ s.updateSource source settled change now = (.success true .alreadyPresent, s)) ∨
        ((s.updateSource source settled change now).1 = .success true .acceptedNew ∧
          (s.updateSource source settled change now).2.epoch = s.epoch + 1 ∧
          Overwrites (change target) s.policy.sources (s.updateSource source settled change now).2.policy.sources)) := by
  generalize hop : s.updateSource source settled change now = result
  have hview := s.updateSource_view hop
  have hfound : ∀ target, s.policy.sources.reverse.find? (fun entry => entry.id == source) = some target →
      target ∈ s.policy.sources ∧ target.id = source := by
    intro target hsome
    exact ⟨mem_reverse.mp (mem_of_find?_eq_some hsome), by simpa using find?_some hsome⟩
  cases hview with
  | missing hnone =>
    refine .inl ⟨?_, _, _, rfl⟩
    intro entry hentry
    simpa using find?_eq_none.mp hnone entry (mem_reverse.mpr hentry)
  | @kept target hsome hsettled =>
    obtain ⟨htarget, hsource⟩ := hfound target hsome
    exact .inr ⟨target, htarget, hsource, .inl ⟨hsettled, rfl⟩⟩
  | @changed target hsome _ =>
    obtain ⟨htarget, hsource⟩ := hfound target hsome
    refine .inr ⟨target, htarget, hsource, .inr ⟨rfl, refreshAllConflicts_epoch _ _, ?_⟩⟩
    rw [policy_refreshAll]
    have hreversed : (s.policy.sources.reverse.map SourcePolicy.id).Nodup := by
      rw [map_reverse, nodup_reverse]
      exact hunique
    have hwritten := Overwrites.replaced hreversed ⟨target, mem_reverse.mpr htarget, (hid target).symm⟩
    rw [hid target, hsource] at hwritten
    refine ⟨?_, (hwritten.perm (reverse_perm _)).unique⟩
    intro other
    refine ((hwritten.perm (reverse_perm _)).mem other).trans ?_
    rw [mem_reverse]

/-- The entry an operation writes. -/
inductive Writes (s : Registry) : Op → SourcePolicy → Prop
  | revoked {target : SourcePolicy} (htarget : target ∈ s.policy.sources) (now : Tick) :
      Writes s (.revokeSource target.id now) { target with trust := .revoked }
  | restored {target : SourcePolicy} (htarget : target ∈ s.policy.sources) (now : Tick) :
      Writes s (.restoreSource target.id now) { target with trust := .trusted }
  | ranked {target : SourcePolicy} (htarget : target ∈ s.policy.sources) (authority : AuthorityRank) (now : Tick) :
      Writes s (.setSourceAuthority target.id authority now) { target with authority }
  | upserted (policy : SourcePolicy) (now : Tick) : Writes s (.upsertSourcePolicy policy now) policy.raised

theorem updateSource_sources {settled : SourcePolicy → Bool} (hunique : s.policy.Unique)
    (hstep : s.step op = (s.updateSource source settled change now).2) (hid : ∀ entry, (change entry).id = entry.id)
    (hwrites : ∀ target ∈ s.policy.sources, target.id = source → Writes s op (change target)) :
    (s.step op).policy.sources = s.policy.sources ∨
      ∃ entry, Writes s op entry ∧ Overwrites entry s.policy.sources (s.step op).policy.sources := by
  rw [hstep]
  rcases s.updateSource_cases hunique source settled hid now with ⟨_, _, _, hsame⟩ | ⟨target, htarget, hsource, hview⟩
  · rw [hsame]
    exact .inl rfl
  · rcases hview with ⟨_, hsame⟩ | ⟨_, _, hwritten⟩
    · rw [hsame]
      exact .inl rfl
    · exact .inr ⟨_, hwrites target htarget hsource, hwritten⟩

theorem upsertSourcePolicy_sources (hunique : s.policy.Unique) (policy : SourcePolicy) (now : Tick) :
    (s.upsertSourcePolicy policy now).2.policy.sources = s.policy.sources ∨
      Overwrites policy.raised s.policy.sources (s.upsertSourcePolicy policy now).2.policy.sources := by
  generalize hop : s.upsertSourcePolicy policy now = result
  cases s.upsertSourcePolicy_view hop with
  | refused => exact .inl rfl
  | replaced hthere =>
    rw [policy_refreshAll]
    obtain ⟨old, hold, hid⟩ := any_eq_true.mp hthere
    exact .inr (.replaced hunique ⟨old, hold, beq_iff_eq.mp hid⟩)
  | added hnew _ =>
    rw [policy_refreshAll]
    refine .inr (Overwrites.perm (.appended hunique ?_) (perm_insertionSort _ _))
    intro old hold hid
    exact hnew (any_eq_true.mpr ⟨old, hold, beq_iff_eq.mpr hid⟩)

theorem Touches.sources {t : Registry} (h : Touches s op t) (hop : op.editsSources = false) :
    t.policy.sources = s.policy.sources := by
  cases h with
  | admitted hframe =>
    obtain ⟨_, _, _, _, _, _, _, rfl, _⟩ := hframe
    rfl
  | configured hedits _ _ _ _ _ => exact absurd hedits (by simp [hop])
  | _ => rfl

/-- An operation other than adoption leaves the entries alone or writes one. -/
theorem step_sources (s : Registry) (hunique : s.policy.Unique) (hadopt : op.Ordinary) :
    (s.step op).policy.sources = s.policy.sources ∨
      ∃ entry, Writes s op entry ∧ Overwrites entry s.policy.sources (s.step op).policy.sources := by
  cases hop : op.editsSources with
  | false => exact .inl ((s.step_touches hadopt).sources hop)
  | true =>
    cases op with
    | revokeSource source now =>
      refine updateSource_sources hunique rfl (fun _ => rfl) ?_
      rintro target htarget rfl
      exact .revoked htarget now
    | restoreSource source now =>
      refine updateSource_sources hunique rfl (fun _ => rfl) ?_
      rintro target htarget rfl
      exact .restored htarget now
    | setSourceAuthority source authority now =>
      refine updateSource_sources hunique rfl (fun _ => rfl) ?_
      rintro target htarget rfl
      exact .ranked htarget authority now
    | upsertSourcePolicy policy now =>
      rcases upsertSourcePolicy_sources hunique policy now with hsame | hwritten
      · exact .inl hsame
      · exact .inr ⟨_, .upserted policy now, hwritten⟩
    | _ => cases hop

/-- Registries whose policies, the configured and the adopted ones, have one entry for a source at most. -/
inductive Configured : Registry → Prop
  | init {policy : RegistryPolicy} (hpolicy : policy.Unique) : Configured (init policy)
  | restore {policy : RegistryPolicy} (hpolicy : policy.Unique) (state : RegistryState) :
      Configured (restore policy state)
  | step {s : Registry} (hs : Configured s) {op : Op}
      (hadopted : ∀ state now, op = .adoptState state now → state.policy.Unique) : Configured (s.step op)

theorem Configured.reachable (h : s.Configured) : s.Reachable := by
  induction h with
  | init _ => exact .init _
  | restore _ state => exact .restore _ state
  | step _ _ ih => exact ih.step _

theorem unique_step (h : s.policy.Unique) (hadopt : op.Ordinary) : (s.step op).policy.Unique := by
  rcases s.step_sources h hadopt with hsame | ⟨_, _, hwritten⟩
  · rw [RegistryPolicy.Unique, hsame]
    exact h
  · exact hwritten.unique

theorem Configured.unique (h : s.Configured) : s.policy.Unique := by
  induction h with
  | init hpolicy | restore hpolicy _ => exact hpolicy.sorted
  | @step s _ op hadopted ih =>
    rcases op.made_or .adoptState with ⟨state, now, rfl⟩ | hadopt
    · rw [Registry.step, adoptState]
      dsimp only
      rw [policy_refreshAll, rebooted]
      dsimp only
      split
      · exact ih
      · exact (hadopted state now rfl).sorted
    · exact unique_step ih hadopt

/-- What holds of the entry of a source, and of what is written over it, holds after the step. -/
theorem entry_step {P : SourcePolicy → Prop} (hunique : s.policy.Unique)
    (hadopt : op.Ordinary) (h : ∃ entry ∈ s.policy.sources, entry.id = source ∧ P entry)
    (hwritten : ∀ entry ∈ s.policy.sources, P entry → ∀ written, Writes s op written → entry.id = written.id →
      written.id = source → P written) : ∃ entry ∈ (s.step op).policy.sources, entry.id = source ∧ P entry := by
  obtain ⟨entry, hentry, hid, hholds⟩ := h
  rcases s.step_sources hunique hadopt with hsame | ⟨written, hwrites, hover⟩
  · rw [hsame]
    exact ⟨entry, hentry, hid, hholds⟩
  · by_cases hother : entry.id = written.id
    · have hsource := hother.symm.trans hid
      exact ⟨written, (hover.mem _).mpr (.inr rfl), hsource, hwritten entry hentry hholds written hwrites hother hsource⟩
    · exact ⟨entry, (hover.mem _).mpr (.inl ⟨hentry, hother⟩), hid, hholds⟩

end Registry

/-! ### Revocation -/

/-- The source has an entry, and it is revoked. -/
structure Barred (source : SourceId) (s : Registry) : Prop where
  unique : s.policy.Unique
  revoked : ∃ entry ∈ s.policy.sources, entry.id = source ∧ entry.trust = .revoked

/-- The operations that may let a revoked source back in. -/
def Op.Reinstates (source : SourceId) : Op → Prop
  | .restoreSource restored _ => restored = source
  | .upsertSourcePolicy policy _ => policy.id = source
  | .adoptState _ _ => True
  | _ => False

namespace Barred

theorem findSource (h : Barred source s) : ∃ entry, s.policy.findSource source = some entry ∧
    entry.trust = .revoked := by
  obtain ⟨entry, hentry, hid, htrust⟩ := h.revoked
  exact ⟨entry, h.unique.findSource_eq.mpr ⟨hentry, hid⟩, htrust⟩

theorem of_revoke (hunique : s.policy.Unique) (hok : (s.revokeSource source now).1.ok = true) :
    Barred source (s.revokeSource source now).2 := by
  have hview := s.updateSource_cases hunique source (fun entry => entry.trust = .revoked)
    (fun entry : SourcePolicy => (rfl : ({ entry with trust := .revoked } : SourcePolicy).id = entry.id)) now
  rw [revokeSource] at hok ⊢
  rcases hview with ⟨_, _, _, hfailed⟩ | ⟨target, htarget, hsource, ⟨hsettled, hsame⟩ | ⟨_, _, hwritten⟩⟩
  · rw [hfailed] at hok
    cases hok
  · rw [hsame]
    exact ⟨hunique, target, htarget, hsource, by simpa using hsettled⟩
  · exact ⟨hwritten.unique, _, (hwritten.mem _).mpr (.inr rfl), hsource, rfl⟩

section

variable (h : Barred source s)
include h

/-- Operations that do not reinstate the source keep it barred. -/
theorem step (hquiet : ¬ op.Reinstates source) : Barred source (s.step op) := by
  have hadopt : op.Ordinary := by
    rintro state now rfl
    exact hquiet trivial
  refine ⟨unique_step h.unique hadopt, entry_step h.unique hadopt h.revoked ?_⟩
  -- an entry written for the source itself does not raise its trust
  intro entry hentry htrust written hwrites hother hid
  cases hwrites with
  | revoked _ _ => rfl
  | restored _ _ => exact absurd hid hquiet
  | ranked htarget _ _ =>
    rw [← inj_on_of_nodup_map h.unique hentry htarget hother]
    exact htrust
  | upserted policy _ => exact absurd ((SourcePolicy.raised_id policy).symm.trans hid) hquiet

theorem run (hquiet : ∀ op ∈ ops, ¬ op.Reinstates source) : Barred source (s.run ops) :=
  foldlRecOn ops Registry.step h fun _ h op hop => h.step (hquiet op hop)

/-- A record that passes the tests is of another source. -/
theorem not_eligible {stream : Stream}
    (heligible : s.Eligible key stream now override record entry) : key.source ≠ source := by
  rintro rfl
  obtain ⟨revoked, hfound, htrust⟩ := h.findSource
  rw [heligible.configured] at hfound
  cases hfound
  exact heligible.unrevoked htrust

theorem refuses {request : AdmissionRequest} (hsource : request.source.source = source)
    (now : Tick) : ∃ refusal, s.admitRequest request now = s.rejectAdmission refusal := by
  obtain ⟨entry, hfound, htrust⟩ := h.findSource
  have hrefusal : s.sourceRefusal request.source.source = some ⟨.rejectedSourceRevoked, text "source is revoked"⟩ := by
    rw [sourceRefusal, hsource, hfound]
    exact if_pos htrust
  rw [admitRequest, admissionRefusal]
  cases s.windowRefusal request now with
  | some refusal => exact ⟨refusal, rfl⟩
  | none =>
    rw [hrefusal]
    exact ⟨_, rfl⟩

end

end Barred

namespace Registry

/-- An evaluation selects a live record or none. -/
theorem evaluate_selects_live {requirement : CapabilityRequirement} {id : EvidenceId}
    (h : (s.evaluate requirement now).1.selected = some id) :
    ∃ record ∈ (s.derive requirement.device requirement.capability now requirement.maxEvidenceAge).live,
      record.id = id := by
  cases hentry : s.findDevice requirement.device.device with
  | none =>
    rw [evaluate] at h
    dsimp only at h
    rw [decideRequirement, hentry] at h
    cases h
  | some entry =>
    obtain ⟨reasons, result, hverdict, _, hselected⟩ := evaluate_known now hentry
    have hjudged := s.verdict_view (s.derive requirement.device requirement.capability now
      requirement.maxEvidenceAge) requirement reasons
    rw [hverdict] at hjudged
    rw [hselected] at h
    cases hjudged with
    | resolved _ _ hlive _ | agreed _ hlive => exact ⟨_, hlive, Option.some_inj.mp h⟩
    | _ => cases h

/-- A stored record of the group that passes the tests. -/
def Passes (s : Registry) (device : DeviceIncarnationRef) (kind : CapabilityKind) (now override : Tick)
    (record : StoredEvidence) : Prop :=
  ∃ key stream entry, s.findStream key = some stream ∧ key.device = device ∧ key.kind = kind ∧
    record ∈ stream.records ∧ s.Eligible key stream now override record entry

section Passes

theorem passes_of_fact (hfact : fact ∈ (s.derive device kind now override).facts)
    (hstate : fact.state = .active ∨ fact.state = .outranked) : s.Passes device kind now override fact.record :=
  derive_facts_eligible hfact hstate

theorem passes_of_live (h : record ∈ (s.derive device kind now override).live) :
    s.Passes device kind now override record := by
  obtain ⟨raw, hraw, rfl, hactive, _⟩ := mem_derive_live.mp h
  obtain ⟨key, stream, hfind, hdevice, hkind, record, hmem, rfl⟩ := mem_rawFacts.mp hraw
  obtain ⟨entry, heligible⟩ := (s.classify_active key stream now override record).mp hactive
  exact ⟨key, stream, entry, hfind, hdevice, hkind, hmem, heligible⟩

end Passes

end Registry

/-- What a revoked source has lost: at every tick and under every age override none of its records counts, none is
    selected, and every admission is refused. -/
structure Excluded (source : SourceId) (s : Registry) : Prop where
  inactive : ∀ device kind now override, ∀ fact ∈ (s.derive device kind now override).facts,
    fact.record.evidence.key.source = source → fact.state ≠ .active ∧ fact.state ≠ .outranked
  unselected : ∀ requirement now id, (s.evaluate requirement now).1.selected = some id →
    ∃ record ∈ (s.derive requirement.device requirement.capability now requirement.maxEvidenceAge).live,
      record.id = id ∧ record.evidence.key.source ≠ source
  refused : ∀ request now, request.source.source = source →
    ∃ refusal, s.admitRequest request now = s.rejectAdmission refusal

theorem Barred.not_passes (h : Barred source s) (hreachable : s.Reachable)
    (hpasses : s.Passes device kind now override record) : record.evidence.key.source ≠ source := by
  obtain ⟨key, stream, entry, hfind, _, _, hmem, heligible⟩ := hpasses
  rw [hreachable.keyed key stream hfind record hmem]
  exact h.not_eligible heligible

theorem Barred.excluded (h : Barred source s) (hreachable : s.Reachable) : Excluded source s where
  inactive device kind now override fact hfact hsource := by
    constructor
    · intro hactive
      exact h.not_passes hreachable (passes_of_fact hfact (.inl hactive)) hsource
    · intro houtranked
      exact h.not_passes hreachable (passes_of_fact hfact (.inr houtranked)) hsource
  unselected requirement now id hselected := by
    obtain ⟨record, hlive, hid⟩ := evaluate_selects_live hselected
    exact ⟨record, hlive, hid, h.not_passes hreachable (passes_of_live hlive)⟩
  refused _ now hsource := h.refuses hsource now

/-- A revoked source stays excluded until it is restored, its entry is written anew or another state is adopted. -/
theorem revocation_is_total {s : Registry} (hs : s.Configured) (source : SourceId) (now : Tick)
    (hok : (s.revokeSource source now).1.ok = true) {ops : List Op} (hquiet : ∀ op ∈ ops, ¬ op.Reinstates source) :
    Excluded source ((s.revokeSource source now).2.run ops) := by
  have hbarred := (Barred.of_revoke hs.unique hok).run hquiet
  have hrevoked : (s.revokeSource source now).2.Reachable := hs.reachable.step (.revokeSource source now)
  exact hbarred.excluded (hrevoked.run ops)

namespace Lab

theorem durablePolicy_unique : durablePolicy.Unique := by
  rw [RegistryPolicy.Unique]
  decide

theorem disagreeing_configured : disagreeing.Configured := by
  rw [disagreeing]
  apply Configured.step
  · apply Configured.step (.init durablePolicy_unique)
    intro state now h
    cases h
  · intro state now h
    cases h

end Lab

/-- One of two disagreeing sources is revoked, and the other's authority raised. -/
theorem revoked_lab_excluded :
    (Lab.disagreeing.revokeSource Lab.source 7).1.ok = true ∧
      Excluded Lab.source ((Lab.disagreeing.revokeSource Lab.source 7).2.run
        [.setSourceAuthority Lab.peer .operator 8, .advanceEpoch]) := by
  have hok : (Lab.disagreeing.revokeSource Lab.source 7).1.ok = true := by decide +kernel
  refine ⟨hok, revocation_is_total Lab.disagreeing_configured Lab.source 7 hok ?_⟩
  simp [Op.Reinstates]

/-! ### Authority -/

/-- The operations that may change the authority of a source. -/
def Op.Reassigns (source : SourceId) : Op → Prop
  | .setSourceAuthority changed _ _ => changed = source
  | .upsertSourcePolicy policy _ => policy.id = source
  | .adoptState _ _ => True
  | _ => False

namespace Registry

/-- Evidence in a stream after an operation other than adoption was there before or is what an admission asserts. -/
theorem mem_streamAt_step (hadopt : op.Ordinary) (h : record ∈ ((s.step op).streamAt key).records) :
    (∃ old ∈ (s.streamAt key).records, record.evidence = old.evidence) ∨
      ∃ request now, op = .admitRequest request now ∧ key = request.key ∧ record.evidence = s.evidenceOf request := by
  rcases s.step_cases hadopt with ⟨request, now, rfl, hstep⟩ | ⟨retirement, now, _, hstep⟩ | hframe
  · rw [hstep] at h
    rcases mem_streamAt_admitRequest h with hold | ⟨hkey, hevidence, _⟩
    · exact .inl ⟨record, hold, rfl⟩
    · exact .inr ⟨request, now, rfl, hkey, hevidence⟩
  · rw [hstep] at h
    obtain ⟨old, hold, hevidence, _⟩ := mem_streamAt_retire h
    exact .inl ⟨old, hold, hevidence⟩
  · rw [hframe.streamAt] at h
    exact .inl ⟨record, h, rfl⟩

end Registry

/-- The source has the authority, and its records are old ones or carry it. -/
structure Assigned (source : SourceId) (authority : AuthorityRank) (before s : Registry) : Prop where
  unique : s.policy.Unique
  entry : ∃ entry ∈ s.policy.sources, entry.id = source ∧ entry.authority = authority
  records : ∀ key record, key.source = source → record ∈ (s.streamAt key).records →
    record.evidence.authority = authority ∨ ∃ old ∈ (before.streamAt key).records, record.evidence = old.evidence

namespace Assigned

variable {before : Registry}

theorem sourceAuthority (h : Assigned source authority before s) : s.sourceAuthority source = authority := by
  obtain ⟨entry, hentry, hid, hauthority⟩ := h.entry
  rw [Registry.sourceAuthority, h.unique.findSource_eq.mpr ⟨hentry, hid⟩]
  exact hauthority

theorem of_set (hunique : s.policy.Unique) (hok : (s.setSourceAuthority source authority now).1.ok = true) :
    Assigned source authority s (s.setSourceAuthority source authority now).2 := by
  have hframe : EvidenceFrame s (s.step (.setSourceAuthority source authority now)) :=
    s.step_frame (by simp) (by simp) nofun
  have hrecords : ∀ key record, key.source = source →
      record ∈ ((s.setSourceAuthority source authority now).2.streamAt key).records →
        record.evidence.authority = authority ∨ ∃ old ∈ (s.streamAt key).records, record.evidence = old.evidence := by
    intro key record _ hrecord
    rw [show (s.setSourceAuthority source authority now).2.streamAt key = s.streamAt key from hframe.streamAt key] at hrecord
    exact .inr ⟨record, hrecord, rfl⟩
  have hview := s.updateSource_cases hunique source (fun entry => entry.authority = authority)
    (fun entry : SourcePolicy => (rfl : ({ entry with authority } : SourcePolicy).id = entry.id)) now
  rw [setSourceAuthority] at hok hrecords ⊢
  rcases hview with ⟨_, _, _, hfailed⟩ | ⟨target, htarget, hsource, ⟨hsettled, hsame⟩ | ⟨_, _, hwritten⟩⟩
  · rw [hfailed] at hok
    cases hok
  · rw [hsame] at hrecords ⊢
    exact ⟨hunique, ⟨target, htarget, hsource, by simpa using hsettled⟩, hrecords⟩
  · exact ⟨hwritten.unique, ⟨_, (hwritten.mem _).mpr (.inr rfl), hsource, rfl⟩, hrecords⟩

/-- Operations that do not change the authority of the source. -/
theorem step (h : Assigned source authority before s) (hquiet : ¬ op.Reassigns source) :
    Assigned source authority before (s.step op) := by
  have hadopt : op.Ordinary := by
    rintro state now rfl
    exact hquiet trivial
  refine ⟨unique_step h.unique hadopt, entry_step h.unique hadopt h.entry ?_, ?_⟩
  · intro entry hentry hauthority written hwrites hother hid
    cases hwrites with
    | revoked htarget _ | restored htarget _ =>
      rw [← inj_on_of_nodup_map h.unique hentry htarget hother]
      exact hauthority
    | ranked _ _ _ => exact absurd hid hquiet
    | upserted policy _ => exact absurd ((SourcePolicy.raised_id policy).symm.trans hid) hquiet
  · intro key record hsource hrecord
    rcases mem_streamAt_step hadopt hrecord with ⟨old, hold, hevidence⟩ | ⟨request, _, _, rfl, hevidence⟩
    · rw [hevidence]
      exact h.records key old hsource hold
    · rw [hevidence]
      refine .inl ?_
      rw [← h.sourceAuthority, ← hsource]
      rfl

theorem run (h : Assigned source authority before s) (hquiet : ∀ op ∈ ops, ¬ op.Reassigns source) :
    Assigned source authority before (s.run ops) :=
  foldlRecOn ops Registry.step h fun _ h op hop => h.step (hquiet op hop)

end Assigned

namespace Registry

theorem passes_iff_active (hkeyed : s.AllStreams Stream.Keyed) {raw : DerivedFact}
    (hraw : raw ∈ s.rawFacts device kind now override) :
    s.Passes device kind now override raw.record ↔ raw.state = .active := by
  obtain ⟨key, stream, hfind, hdevice, hkind, record, hmem, rfl⟩ := mem_rawFacts.mp hraw
  refine Iff.trans ?_ (s.classify_active key stream now override record).symm
  constructor
  · rintro ⟨key', stream', entry, hfind', _, _, hmem', heligible⟩
    have hkey : key' = key := (hkeyed key' stream' hfind' record hmem').symm.trans (hkeyed key stream hfind record hmem)
    subst hkey
    cases hfind.symm.trans hfind'
    exact ⟨entry, heligible⟩
  · rintro ⟨entry, heligible⟩
    exact ⟨key, stream, entry, hfind, hdevice, hkind, hmem, heligible⟩

theorem active_of_passes (h : s.Passes device kind now override record) :
    ∃ raw ∈ s.rawFacts device kind now override, raw.record = record ∧ raw.state = .active := by
  obtain ⟨key, stream, entry, hfind, hdevice, hkind, hmem, heligible⟩ := h
  exact ⟨_, mem_rawFacts.mpr ⟨key, stream, hfind, hdevice, hkind, record, hmem, rfl⟩, rfl,
    (s.classify_active key stream now override record).mpr ⟨entry, heligible⟩⟩

/-- Ranking compares the authorities stored in the records that pass the tests. -/
theorem outranked_iff (hkeyed : s.AllStreams Stream.Keyed) (hfact : fact ∈ (s.derive device kind now override).facts) :
    fact.state = .outranked ↔ s.Passes device kind now override fact.record ∧
      ∃ rival, s.Passes device kind now override rival ∧
        fact.record.evidence.authority < rival.evidence.authority := by
  obtain ⟨raw, hraw, rfl⟩ := mem_derive_facts.mp hfact
  rw [DerivedFact.ranked_record, passes_iff_active hkeyed hraw, DerivedFact.ranked]
  constructor
  · intro houtranked
    split at houtranked
    next hbelow =>
      obtain ⟨hactive, hlt⟩ := hbelow
      refine ⟨hactive, ?_⟩
      rcases highestAuthority_attained (s.rawFacts device kind now override) with hnone | ⟨top, htop, hstate, hhighest⟩
      · rw [hnone] at hlt
        exact absurd hlt (by cases raw.record.evidence.authority <;> decide)
      · exact ⟨top.record, (passes_iff_active hkeyed htop).mpr hstate, hhighest ▸ hlt⟩
    next => exact absurd houtranked (rawFacts_assigned hraw).1
  · rintro ⟨hactive, rival, hrival, hlt⟩
    obtain ⟨top, htop, rfl, hstate⟩ := active_of_passes hrival
    rw [if_pos ⟨hactive, lt_of_lt_of_le hlt (le_highestAuthority htop hstate)⟩]

/-- A change of authority bumps the epoch. -/
theorem setSourceAuthority_epoch (hunique : s.policy.Unique) (hentry : s.policy.findSource source = some entry)
    (hchange : entry.authority ≠ authority) (now : Tick) :
    (s.setSourceAuthority source authority now).2.epoch = s.epoch + 1 := by
  obtain ⟨hmem, hid⟩ := hunique.findSource_eq.mp hentry
  have hview := s.updateSource_cases hunique source (fun entry => entry.authority = authority)
    (fun entry : SourcePolicy => (rfl : ({ entry with authority } : SourcePolicy).id = entry.id)) now
  rcases hview with ⟨hnone, _⟩ | ⟨target, htarget, hsource, ⟨hsettled, _⟩ | ⟨_, hepoch, _⟩⟩
  · exact absurd hid (hnone entry hmem)
  · have hsame : target = entry := inj_on_of_nodup_map hunique htarget hmem (hsource.trans hid.symm)
    subst hsame
    exact absurd (by simpa using hsettled) hchange
  · exact hepoch

end Registry

/-- A new authority of a source bumps the epoch and is carried by the evidence it sends from then on. Records stored
    before keep the authority they were admitted under, and every derivation ranks by the authority in the records. -/
theorem new_authority_ranks_new_evidence {s : Registry} (hs : s.Configured) (source : SourceId)
    (authority : AuthorityRank) (now : Tick) (hok : (s.setSourceAuthority source authority now).1.ok = true)
    {ops : List Op} (hquiet : ∀ op ∈ ops, ¬ op.Reassigns source) :
    let after := (s.setSourceAuthority source authority now).2.run ops
    (∀ entry, s.policy.findSource source = some entry → entry.authority ≠ authority →
      (s.setSourceAuthority source authority now).2.epoch = s.epoch + 1) ∧
    after.sourceAuthority source = authority ∧
    (∀ key record, key.source = source → record ∈ (after.streamAt key).records →
      record.evidence.authority = authority ∨ ∃ old ∈ (s.streamAt key).records, record.evidence = old.evidence) ∧
    ∀ device kind now override, ∀ fact ∈ (after.derive device kind now override).facts,
      (fact.state = .outranked ↔ after.Passes device kind now override fact.record ∧
        ∃ rival, after.Passes device kind now override rival ∧
          fact.record.evidence.authority < rival.evidence.authority) := by
  have hassigned := (Assigned.of_set hs.unique hok).run hquiet
  have hset : (s.setSourceAuthority source authority now).2.Reachable :=
    hs.reachable.step (.setSourceAuthority source authority now)
  refine ⟨fun _ hentry hchange => setSourceAuthority_epoch hs.unique hentry hchange now,
    hassigned.sourceAuthority, hassigned.records, ?_⟩
  intro device kind now override fact hfact
  exact outranked_iff (hset.run ops).keyed hfact

namespace Lab

theorem agreeing_configured : agreeing.Configured := by
  rw [agreeing]
  apply Configured.step
  · apply Configured.step (.init durablePolicy_unique)
    intro state now h
    cases h
  · intro state now h
    cases h

/-- A later report of the first source. -/
def demoted : List Op := [.admitRequest (request 0 2 7) 7]

end Lab

/-- Of two agreeing sources one is demoted and reports again: its new record is outranked. -/
theorem demoted_lab_ranks_new_evidence :
    let after := (Lab.agreeing.setSourceAuthority Lab.source .none 6).2.run Lab.demoted
    (after.derive (Lab.device 0) .packetClassification 7 0).facts.any (fun fact => fact.state = .outranked) = true ∧
      after.sourceAuthority Lab.source = .none := by
  have hok : (Lab.agreeing.setSourceAuthority Lab.source .none 6).1.ok = true := by decide +kernel
  have hquiet : ∀ op ∈ Lab.demoted, ¬ op.Reassigns Lab.source := by simp [Lab.demoted, Op.Reassigns]
  refine ⟨by decide +kernel, ?_⟩
  exact (new_authority_ranks_new_evidence Lab.agreeing_configured Lab.source .none 6 hok hquiet).2.1

/-- Before it reports again its record still counts, at the authority it was admitted under. -/
theorem demoted_record_still_counts :
    let after := (Lab.agreeing.setSourceAuthority Lab.source .none 6).2
    Lab.agreeing.Reachable ∧ (Lab.agreeing.setSourceAuthority Lab.source .none 6).1 = .success true .acceptedNew ∧
      (after.derive (Lab.device 0) .packetClassification 7 0).live.map (fun record => record.evidence.authority) =
        [.synthetic, .synthetic] ∧
      ((after.derive (Lab.device 0) .packetClassification 7 0).live.any
        (fun record => record.evidence.key.source = Lab.source)) = true := by
  refine ⟨Lab.agreeing_configured.reachable, ?_⟩
  decide +kernel

end Ocreg
