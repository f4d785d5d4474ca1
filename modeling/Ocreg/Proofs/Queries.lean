/-
Module: Ocreg.Proofs.Queries
Purpose: Two readers of one derivation. Live records that do not disagree compare alike with every requirement, so
  it does not matter which of them is selected; and a query answers as an evaluation does, except that it does not
  look at resolutions.
-/
import Ocreg.Proofs.Decisions

namespace Ocreg

open Registry Lab

variable {s : Registry}

/-! ### Records that agree -/

/-- A comparison reads only fields on which records can differ. -/
theorem compareRequirement_congr {a b : CapabilityEvidence} (h : recordsDiffer a b = false)
    (requirement : CapabilityRequirement) : compareRequirement requirement a = compareRequirement requirement b := by
  obtain ⟨hversion, hfeatures, hlimits, hfirmware, hfirmwareGeneration, hruntime, hruntimeGeneration⟩ :=
    recordsDiffer_eq_false.mp h
  have hlimit : compareLimit a = compareLimit b := by
    funext required
    rw [compareLimit, compareLimit, hlimits]
  have hshort : shortcomings requirement a = shortcomings requirement b := by
    rw [shortcomings, shortcomings, hversion, hfeatures, hlimit, hfirmware, hfirmwareGeneration, hruntime,
      hruntimeGeneration]
  rw [compareRequirement, compareRequirement, hshort]

/-- Where a derivation reports no disagreement, every live record gives the same kind and reasons. -/
theorem agreeing_records_compare_alike (s : Registry) (device : DeviceIncarnationRef) (kind : CapabilityKind)
    (now override : Tick) (hagree : (s.derive device kind now override).disagrees = false)
    (requirement : CapabilityRequirement) :
    ∀ a ∈ (s.derive device kind now override).live, ∀ b ∈ (s.derive device kind now override).live,
      compareRequirement requirement a.evidence = compareRequirement requirement b.evidence := by
  have hpairs : liveDisagrees (s.derive device kind now override).live = false := hagree
  intro a ha b hb
  exact compareRequirement_congr (liveDisagrees_eq_false.mp hpairs a ha b hb) requirement

namespace Lab

/-- Reports of one device by two sources of equal authority that say the same. -/
def agreeing : Registry :=
  ((init durablePolicy).step (.admitRequest (request 0 1 5) 5)).step
    (.admitRequest { request 0 1 5 with source := ⟨peer, 1⟩ } 5)

end Lab

/-- Both reports are live, and either can be selected. -/
theorem agreeing_reports_compare_alike :
    (agreeing.derive (device 0) .packetClassification 6 0).live.length = 2 ∧
      ∀ a ∈ (agreeing.derive (device 0) .packetClassification 6 0).live,
        ∀ b ∈ (agreeing.derive (device 0) .packetClassification 6 0).live,
          compareRequirement requirement a.evidence = compareRequirement requirement b.evidence := by
  constructor
  · decide +kernel
  · apply agreeing_records_compare_alike
    decide +kernel

/-! ### Queries and evaluations -/

/-- The query for what a requirement is about. -/
def CapabilityRequirement.asked (requirement : CapabilityRequirement) (includeHistory : Bool) : CapabilityQuery where
  device := requirement.device
  kind := requirement.capability
  maxEvidenceAge := requirement.maxEvidenceAge
  includeHistory

/-- An answer and a decision report the same conflict, or select the same record. -/
structure Concurs (answer : QueryResult) (decision : CompatibilityDecision) : Prop where
  conflicted : answer.kind = .conflicted ↔ decision.kind = .conflicted
  conflict : answer.kind = .conflicted → answer.conflict = decision.conflict
  selected : answer.kind ≠ .conflicted → answer.selected = decision.selected

namespace Registry

/-- The group is in a conflict whose stored resolution chooses a live record. -/
def GroupSettled (s : Registry) (requirement : CapabilityRequirement) (now : Tick) : Prop :=
  ∃ id resolution record, s.conflictOf requirement now = some id ∧ s.findResolution id = some resolution ∧
    record ∈ (s.derive requirement.device requirement.capability now requirement.maxEvidenceAge).live ∧
    record.id = resolution.chosen

variable {device : DeviceIncarnationRef} {kind : CapabilityKind} {now override : Tick}
  {requirement : CapabilityRequirement} {entry : DeviceIncarnationEntry}

theorem derive_conflict_isSome :
    (s.derive device kind now override).conflict.isSome = (s.derive device kind now override).disagrees := by
  rw [derive]
  dsimp only
  split
  next h => simp [h]
  next h => simp [h]

section

variable (hentry : s.findDevice requirement.device.device = some entry)
include hentry

/-- What a query for a known device answers. -/
theorem query_known (history : Bool) (now : Tick) :
    ∃ answer, s.query (requirement.asked history) now = .success answer .ok ∧
      answer.conflict = s.conflictOf requirement now ∧
      (answer.kind = .conflicted ↔ (s.conflictOf requirement now).isSome) ∧
      (s.conflictOf requirement now = none → answer.selected =
        (s.derive requirement.device requirement.capability now
          requirement.maxEvidenceAge).live.head?.map StoredEvidence.id) := by
  rw [query]
  dsimp only [CapabilityRequirement.asked]
  rw [hentry]
  refine ⟨_, rfl, rfl, ?_, ?_⟩
  · rw [conflictOf, derive_conflict_isSome]
    dsimp only
    split
    next h => simp [h]
    next h =>
      rw [Bool.eq_false_iff.mpr h]
      split
      · simp
      · simp
  · intro hnone
    have hagree : (s.derive requirement.device requirement.capability now
        requirement.maxEvidenceAge).disagrees = false := by
      rw [← derive_conflict_isSome, show (s.derive _ _ _ _).conflict = none from hnone]
      rfl
    dsimp only
    rw [hagree, if_neg Bool.false_ne_true]
    cases (s.derive requirement.device requirement.capability now requirement.maxEvidenceAge).live.head? <;> rfl

/-- What an evaluation of a known device reports besides its verdict. -/
theorem evaluate_conflict : (s.evaluate requirement now).1.conflict = s.conflictOf requirement now := by
  rw [evaluate]
  dsimp only
  rw [decideRequirement, hentry]
  rfl

end

/-- Without a conflict the first live record is selected. -/
theorem verdict_selected {derivation : Derivation} (hconflict : derivation.conflict = none)
    (reasons : List ReasonCode) : (s.verdict derivation requirement reasons).selected = derivation.live.head? := by
  rw [verdict, hconflict]
  cases derivation.live.head? <;> rfl

end Registry

/-- For a registered device a query and an evaluation of the same device, kind and age bound concur exactly where no
    resolution settles the group. -/
theorem query_concurs_iff_unsettled (s : Registry) (requirement : CapabilityRequirement) (includeHistory : Bool)
    (now : Tick) (hregistered : s.findDevice requirement.device.device ≠ none) :
    (∃ answer, s.query (requirement.asked includeHistory) now = .success answer .ok ∧
      Concurs answer (s.evaluate requirement now).1) ↔ ¬ s.GroupSettled requirement now := by
  obtain ⟨entry, hentry⟩ := Option.ne_none_iff_exists'.mp hregistered
  obtain ⟨answer, hanswer, hconflict, hconflicted, hselected⟩ := query_known hentry includeHistory now
  obtain ⟨reasons, result, hverdict, hkind, hrecord⟩ := evaluate_known now hentry
  have hjudged := s.verdict_view (s.derive requirement.device requirement.capability now requirement.maxEvidenceAge)
    requirement reasons
  rw [hverdict] at hjudged
  have hanswered : (∃ answer, s.query (requirement.asked includeHistory) now = .success answer .ok ∧
      Concurs answer (s.evaluate requirement now).1) ↔ Concurs answer (s.evaluate requirement now).1 := by
    rw [hanswer]
    constructor
    · rintro ⟨other, hother, hconcurs⟩
      cases hother
      exact hconcurs
    · exact fun hconcurs => ⟨answer, rfl, hconcurs⟩
  rw [hanswered]
  unfold conflictOf at hconflicted hselected
  cases hnamed : (s.derive requirement.device requirement.capability now requirement.maxEvidenceAge).conflict with
  | none =>
    -- both take the first live record
    have hopen : ¬ s.GroupSettled requirement now := by
      rintro ⟨id, _, _, hid, _⟩
      unfold conflictOf at hid
      rw [hnamed] at hid
      cases hid
    have hquery : answer.kind ≠ .conflicted := by
      intro h
      have hsome := hconflicted.mp h
      rw [hnamed] at hsome
      cases hsome
    have hdecision : (s.evaluate requirement now).1.kind ≠ .conflicted := by
      rw [hkind]
      cases hjudged with
      | unresolved hid _ | resolved hid _ _ _ =>
        rw [hnamed] at hid
        cases hid
      | agreed _ _ =>
        dsimp only
        exact compareRequirement_ne_conflicted
      | nothing _ _ => simp
    refine ⟨fun _ => hopen, fun _ => ⟨⟨fun h => absurd h hquery, fun h => absurd h hdecision⟩,
      fun h => absurd h hquery, fun _ => ?_⟩⟩
    rw [hselected hnamed, hrecord, ← hverdict, verdict_selected hnamed]
  | some id =>
    have hquery : answer.kind = .conflicted := hconflicted.mpr (by rw [hnamed]; rfl)
    have hreported := hconflict.trans (evaluate_conflict hentry).symm
    cases hjudged with
    | unresolved hid hunresolved =>
      constructor
      · rintro - ⟨other, resolution, record, hother, hresolution, hlive, hchosen⟩
        unfold conflictOf at hother
        rw [hid] at hother
        cases hother
        exact hunresolved resolution hresolution record hlive hchosen
      · intro _
        exact ⟨⟨fun _ => hkind, fun _ => hquery⟩, fun _ => hreported, fun hne => absurd hquery hne⟩
    | resolved hid hresolution hlive hchosen =>
      constructor
      · intro hconcurs
        have hdecided := hconcurs.conflicted.mp hquery
        rw [hkind] at hdecided
        dsimp only at hdecided
        exact absurd hdecided compareRequirement_ne_conflicted
      · exact fun hopen => absurd ⟨_, _, _, hid, hresolution, hlive, hchosen⟩ hopen
    | agreed hnone _ | nothing hnone _ =>
      rw [hnamed] at hnone
      cases hnone

theorem Lab.disagreeing_unresolved : disagreeing.resolutionTable = [] := by
  rw [disagreeing, (step_touches _ (by simp [Op.Ordinary])).resolutions (by simp),
    (step_touches _ (by simp [Op.Ordinary])).resolutions (by simp)]
  rfl

/-- Before the operator resolves it, both report the conflict of the two reports. -/
theorem disagreeing_reports_concur :
    disagreeing.findDevice requirement.device.device ≠ none ∧ ¬ disagreeing.GroupSettled requirement 6 ∧
      ∃ answer, disagreeing.query (requirement.asked false) 6 = .success answer .ok ∧
        Concurs answer (disagreeing.evaluate requirement 6).1 := by
  have hregistered : disagreeing.findDevice requirement.device.device ≠ none := by decide +kernel
  have hopen : ¬ disagreeing.GroupSettled requirement 6 := by
    rintro ⟨id, resolution, _, _, hfound, _⟩
    have hmem := (findResolution_some hfound).1
    rw [disagreeing_unresolved] at hmem
    cases hmem
  exact ⟨hregistered, hopen,
    (query_concurs_iff_unsettled disagreeing requirement false 6 hregistered).mpr hopen⟩

namespace Lab

/-- The operator resolves the first conflict of the table in favour of one of its members. -/
def resolvedFor (s : Registry) (choice : Nat) (now : Tick) : Registry :=
  match s.conflictTable with
  | [] => s
  | group :: _ => s.step (.resolveConflict group.id (group.members.getD choice .zero) source now)

theorem resolvedFor_reachable (h : s.Reachable) (choice : Nat) (now : Tick) : (resolvedFor s choice now).Reachable := by
  rw [resolvedFor]
  split
  · exact h
  · exact h.step _

theorem disagreeing_reachable : disagreeing.Reachable := ((Reachable.init durablePolicy).step _).step _

end Lab

/-- After that the evaluation decides while the query still reports a conflict. -/
theorem query_ignores_resolution :
    let s := resolvedFor disagreeing 0 6
    s.Reachable ∧ ((s.query (requirement.asked false) 6).value?.map QueryResult.kind) = some .conflicted ∧
      (s.evaluate requirement 6).1.kind = .compatible := by
  refine ⟨resolvedFor_reachable disagreeing_reachable 0 6, ?_⟩
  decide +kernel

end Ocreg
