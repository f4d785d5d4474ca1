/-
Module: Ocreg.Proofs.Answers
Purpose: What an answer is made of. A query and a decision see of a stream only the evidence of its records and whether
  each stands, is retired or is out of date; registries that show the same give the same answers.
-/
import Ocreg.Registry.Evaluate

namespace Ocreg

open List Registry

variable {state : EvidenceState} {xs ys : List StoredEvidence} (derivation : Derivation)
  (facts : List DerivedFact)

/-! ### What is shown of a stream -/

/-- Evidence and standing of a record; superseded and rejected records are not told apart. -/
abbrev Shown : Type := CapabilityEvidence × Option EvidenceLifecycle

def Shown.rank (shown : Shown) : RecordGeneration ×ₗ EvidenceId := toLex (shown.1.generation, shown.1.id)

/-- A record under the maximum of its stream. -/
def StoredEvidence.shown (maxGeneration : RecordGeneration) (record : StoredEvidence) : Shown :=
  (record.evidence, match record.lifecycle with
    | .rejected => none
    | .retired => some .retired
    | .admitted =>
      if maxGeneration ≠ 0 ∧ record.evidence.generation < maxGeneration then none else some .admitted)

def Stream.view (stream : Stream) : List Shown := stream.records.map (StoredEvidence.shown stream.maxGeneration)

/-! ### What is used of a fact -/

/-- Evidence and state of a fact; superseded and rejected are not told apart. -/
abbrev Outline : Type := CapabilityEvidence × Option EvidenceState

def EvidenceState.outline (state : EvidenceState) : Option EvidenceState :=
  if state = .superseded ∨ state = .rejected then none else some state

def DerivedFact.outline (fact : DerivedFact) : Outline := (fact.record.evidence, fact.state.outline)

theorem EvidenceState.outline_eq_some {other : EvidenceState} (h : other ≠ .superseded ∧ other ≠ .rejected) :
    state.outline = some other ↔ state = other := by
  rw [outline]
  split
  next hout =>
    constructor
    · exact fun hnone => nomatch hnone
    · rintro rfl
      rcases hout with hsuperseded | hrejected
      · exact absurd hsuperseded h.1
      · exact absurd hrejected h.2
  next => exact Option.some_inj

theorem EvidenceState.outline_eq_none : state.outline = none ↔ state = .superseded ∨ state = .rejected := by
  rw [outline]
  split
  next hout => exact iff_of_true rfl hout
  next hin => exact iff_of_false (fun hnone => nomatch hnone) hin

/-- Ranking, on outlines. -/
def Outline.ranked (highest : AuthorityRank) (outline : Outline) : Outline :=
  if outline.2 = some .active ∧ outline.1.authority < highest then (outline.1, some .outranked) else outline

theorem DerivedFact.outline_active {fact : DerivedFact} : fact.outline.2 = some .active ↔ fact.state = .active :=
  EvidenceState.outline_eq_some ⟨by decide, by decide⟩

theorem DerivedFact.outline_ranked (highest : AuthorityRank) (fact : DerivedFact) :
    (fact.ranked highest).outline = fact.outline.ranked highest := by
  rw [ranked, Outline.ranked]
  by_cases h : fact.state = .active ∧ fact.record.evidence.authority < highest
  · have houtline : fact.outline.2 = some .active ∧ fact.outline.1.authority < highest :=
      ⟨outline_active.mpr h.1, h.2⟩
    rw [if_pos h, if_pos houtline]
    rfl
  · have houtline : ¬ (fact.outline.2 = some .active ∧ fact.outline.1.authority < highest) :=
      fun hboth => h ⟨outline_active.mp hboth.1, hboth.2⟩
    rw [if_neg h, if_neg houtline]

theorem highestAuthority_outline :
    highestAuthority facts = (facts.map DerivedFact.outline).foldl (fun highest outline =>
      if outline.2 = some .active ∧ outline.1.authority > highest then outline.1.authority else highest) .none := by
  rw [highestAuthority, foldl_map]
  congr 1
  funext highest fact
  by_cases h : fact.state = .active ∧ fact.record.evidence.authority > highest
  · have houtline : fact.outline.2 = some .active ∧ fact.outline.1.authority > highest :=
      ⟨DerivedFact.outline_active.mpr h.1, h.2⟩
    rw [if_pos h, if_pos houtline]
    rfl
  · have houtline : ¬ (fact.outline.2 = some .active ∧ fact.outline.1.authority > highest) :=
      fun hboth => h ⟨DerivedFact.outline_active.mp hboth.1, hboth.2⟩
    rw [if_neg h, if_neg houtline]

/-- The evidence of the active facts. -/
theorem active_evidence :
    ((facts.filter (fun fact => fact.state = .active)).map DerivedFact.record).map StoredEvidence.evidence =
      ((facts.map DerivedFact.outline).filter (fun outline => outline.2 = some .active)).map Prod.fst := by
  rw [filter_map, map_map, map_map]
  congr 1
  apply filter_congr
  intro fact _
  exact decide_eq_decide.mpr DerivedFact.outline_active.symm

/-! ### Derivations -/

/-- Two derivations an answer does not tell apart. -/
structure Derivation.Like (d e : Derivation) : Prop where
  facts : d.facts.map DerivedFact.outline = e.facts.map DerivedFact.outline
  live : d.live.map StoredEvidence.evidence = e.live.map StoredEvidence.evidence
  disagrees : d.disagrees = e.disagrees
  conflict : d.conflict = e.conflict

section

variable (h : xs.map StoredEvidence.evidence = ys.map StoredEvidence.evidence)
include h

theorem liveDisagrees_evidence : liveDisagrees xs = liveDisagrees ys := by
  have hread : ∀ xs : List StoredEvidence, liveDisagrees xs =
      match xs.map StoredEvidence.evidence with
      | [] => false
      | first :: rest => rest.any (recordsDiffer first) := by
    intro xs
    cases xs with
    | nil => rfl
    | cons first rest =>
      rw [liveDisagrees, map_cons]
      dsimp only
      rw [any_map]
      rfl
  rw [hread xs, hread ys, h]

theorem map_id_of_evidence : xs.map StoredEvidence.id = ys.map StoredEvidence.id := by
  have hids := congrArg (map CapabilityEvidence.id) h
  rw [map_map, map_map] at hids
  exact hids

end

theorem map_evidence_sortById (records : List StoredEvidence) : (sortById records).map StoredEvidence.evidence =
      (records.map StoredEvidence.evidence).insertionSort (fun a b => a.id ≤ b.id) := by
  apply map_insertionSort
  exact fun _ _ _ _ => Iff.rfl

theorem map_outline_sorted : (facts.insertionSort (fun a b => a.record.id ≤ b.record.id)).map DerivedFact.outline =
      (facts.map DerivedFact.outline).insertionSort (fun a b => a.1.id ≤ b.1.id) := by
  apply map_insertionSort
  exact fun _ _ _ _ => Iff.rfl

namespace Registry

variable {s t : Registry} {device : DeviceIncarnationRef} {kind : CapabilityKind} {now override : Tick}

/-- Facts with the same outlines derive the same. -/
theorem derive_like (h : (s.rawFacts device kind now override).map DerivedFact.outline =
      (t.rawFacts device kind now override).map DerivedFact.outline) :
    (s.derive device kind now override).Like (t.derive device kind now override) := by
  have hhighest : highestAuthority (s.rawFacts device kind now override) =
      highestAuthority (t.rawFacts device kind now override) := by
    rw [highestAuthority_outline, highestAuthority_outline, h]
  have hranked : ∀ (highest : AuthorityRank) (facts : List DerivedFact),
      (facts.map (DerivedFact.ranked highest)).map DerivedFact.outline =
        (facts.map DerivedFact.outline).map (Outline.ranked highest) := by
    intro highest facts
    rw [map_map, map_map]
    exact map_congr_left fun fact _ => fact.outline_ranked highest
  have hfacts : ((s.rawFacts device kind now override).map
        (DerivedFact.ranked (highestAuthority (s.rawFacts device kind now override)))).map DerivedFact.outline =
      ((t.rawFacts device kind now override).map
        (DerivedFact.ranked (highestAuthority (t.rawFacts device kind now override)))).map DerivedFact.outline := by
    rw [hranked, hranked, hhighest, h]
  have hlive : (s.derive device kind now override).live.map StoredEvidence.evidence =
      (t.derive device kind now override).live.map StoredEvidence.evidence := by
    dsimp only [derive]
    rw [map_evidence_sortById, map_evidence_sortById, active_evidence, active_evidence, hfacts]
  have hdisagrees := liveDisagrees_evidence hlive
  constructor
  · dsimp only [derive]
    rw [map_outline_sorted, map_outline_sorted, hfacts]
  · exact hlive
  · exact hdisagrees
  · have hids := map_id_of_evidence hlive
    dsimp only [derive] at hdisagrees hids ⊢
    rw [hdisagrees, hids]

end Registry

theorem Derivation.saw_outline (state : EvidenceState) (h : state ≠ .superseded ∧ state ≠ .rejected) :
    derivation.saw state = (derivation.facts.map DerivedFact.outline).any (fun outline => outline.2 = some state) := by
  rw [saw, any_map]
  congr 1
  funext fact
  exact decide_eq_decide.mpr (EvidenceState.outline_eq_some h).symm

theorem Derivation.saw_outdated : (derivation.saw .superseded || derivation.saw .rejected) =
      (derivation.facts.map DerivedFact.outline).any (fun outline => outline.2 = none) := by
  rw [Bool.eq_iff_iff, Bool.or_eq_true, saw, saw, any_map]
  simp only [any_eq_true, Function.comp_apply, decide_eq_true_eq]
  rw [← exists_or]
  apply exists_congr
  intro fact
  rw [← and_or_left]
  exact and_congr_right fun _ => EvidenceState.outline_eq_none.symm

namespace Derivation.Like

variable {d e : Derivation}

section

variable (h : d.Like e)
include h

theorem saw (state : EvidenceState) (hstate : state ≠ .superseded ∧ state ≠ .rejected) : d.saw state = e.saw state := by
  rw [d.saw_outline state hstate, e.saw_outline state hstate, h.facts]

theorem outdated : (d.saw .superseded || d.saw .rejected) = (e.saw .superseded || e.saw .rejected) := by
  rw [d.saw_outdated, e.saw_outdated, h.facts]

theorem ids : d.facts.map (fun fact => fact.record.id) = e.facts.map (fun fact => fact.record.id) := by
  have hids := congrArg (map (fun outline : Outline => outline.1.id)) h.facts
  rw [map_map, map_map] at hids
  exact hids

theorem head : d.live.head?.map StoredEvidence.evidence = e.live.head?.map StoredEvidence.evidence := by
  rw [← head?_map, ← head?_map, h.live]

theorem chosen (id : EvidenceId) : (d.live.reverse.find? (fun record => record.id == id)).map StoredEvidence.evidence =
      (e.live.reverse.find? (fun record => record.id == id)).map StoredEvidence.evidence := by
  have hread : ∀ live : List StoredEvidence,
      (live.reverse.find? (fun record => record.id == id)).map StoredEvidence.evidence =
        (live.map StoredEvidence.evidence).reverse.find? (fun evidence => evidence.id == id) := by
    intro live
    rw [← map_reverse, find?_map]
    rfl
  rw [hread, hread, h.live]

end

end Derivation.Like

/-! ### Registries that show the same -/

/-- The state of a fact, from what is shown of its record. -/
def Registry.standing (s : Registry) (key : EvidenceKey) (now override : Tick) (shown : Shown) : Outline :=
  (shown.1, match shown.2 with
    | none => none
    | some .retired => some .retired
    | some _ =>
      -- out of its stream: a record that stands is not superseded there
      (s.classify (storedOf shown.1 .admitted .ok 0) .empty (s.policy.findSource key.source) key.device now
        override).1.outline)

namespace Registry

variable {s t : Registry} {now override : Tick}

theorem outline_factOf (s : Registry) (key : EvidenceKey) (stream : Stream) (now override : Tick)
    (record : StoredEvidence) : (s.factOf key stream now override record).outline =
      s.standing key now override (record.shown stream.maxGeneration) := by
  have hevidence : (s.factOf key stream now override record).outline.1 = record.evidence := rfl
  refine Prod.ext hevidence ?_
  rw [DerivedFact.outline, factOf, standing, StoredEvidence.shown]
  dsimp only
  cases hlifecycle : record.lifecycle with
  | rejected =>
    rw [classify.eq_def, if_pos hlifecycle]
    rfl
  | retired =>
    have hnot : ¬ record.lifecycle = .rejected := by
      rw [hlifecycle]
      decide
    rw [classify.eq_def, if_neg hnot, if_pos hlifecycle]
    rfl
  | admitted =>
    have hrejected : ¬ record.lifecycle = .rejected := by
      rw [hlifecycle]
      decide
    have hretired : ¬ record.lifecycle = .retired := by
      rw [hlifecycle]
      decide
    dsimp only
    by_cases hbelow : stream.maxGeneration ≠ 0 ∧ record.evidence.generation < stream.maxGeneration
    · rw [if_pos hbelow, classify.eq_def, if_neg hrejected, if_neg hretired, if_pos hbelow]
      rfl
    · rw [if_neg hbelow, classify.eq_def, if_neg hrejected, if_neg hretired, if_neg hbelow]
      rfl

/-- Two registries that show the same streams, and have the same of everything else an answer is made of. -/
structure Agree (s t : Registry) : Prop where
  policy : t.policy = s.policy
  epoch : t.epoch = s.epoch
  ruleGeneration : t.ruleGeneration = s.ruleGeneration
  policyRevision : t.policyRevision = s.policyRevision
  bootEpoch : t.bootEpoch = s.bootEpoch
  resolutions : t.resolutionTable = s.resolutionTable
  evictions : t.evictionTable = s.evictionTable
  current : ∀ device, (t.findDevice device).map DeviceIncarnationEntry.current =
    (s.findDevice device).map DeviceIncarnationEntry.current
  view : ∀ key, (t.streamAt key).view = (s.streamAt key).view

namespace Agree

theorem standing (h : Agree s t) : t.standing = s.standing := by
  funext key now override shown
  unfold Registry.standing classify
  rw [h.policy, h.bootEpoch, h.current]

section

variable (h : Agree s t) (device : DeviceIncarnationRef) (kind : CapabilityKind) (now override : Tick)
include h

theorem rawFacts : (t.rawFacts device kind now override).map DerivedFact.outline =
      (s.rawFacts device kind now override).map DerivedFact.outline := by
  have hread : ∀ s : Registry, (s.rawFacts device kind now override).map DerivedFact.outline =
      s.streams.entries.flatMap (fun entry =>
        if entry.1.device == device && entry.1.kind == kind then
          entry.2.view.map (s.standing entry.1 now override)
        else []) := by
    intro s
    rw [rawFacts_eq_flatMap, map_flatMap]
    apply flatMap_congr
    intro entry _
    rw [apply_ite (map DerivedFact.outline)]
    congr 1
    rw [Stream.view, map_map, map_map]
    exact map_congr_left fun record _ => s.outline_factOf entry.1 entry.2 now override record
  rw [hread t, hread s, h.standing]
  apply SortedMap.flatMap_entries_eq (d := Stream.empty)
  · intro key
    dsimp only
    split
    · rfl
    · rfl
  · intro key
    have hview : ((t.streams.find? key).getD Stream.empty).view = ((s.streams.find? key).getD Stream.empty).view :=
      h.view key
    dsimp only
    rw [hview]

theorem derive : (t.derive device kind now override).Like (s.derive device kind now override) :=
  derive_like (h.rawFacts device kind now override)

end

theorem sawEvicted (h : Agree s t) : t.sawEvicted = s.sawEvicted := by
  funext device kind
  rw [Registry.sawEvicted, h.evictions]
  rfl

theorem findResolution (h : Agree s t) : t.findResolution = s.findResolution := by
  funext id
  rw [Registry.findResolution, h.resolutions]
  rfl

/-- A device is registered in both, with the same current incarnation, or in neither. -/
theorem device_cases (h : Agree s t) (device : DeviceIdentity) :
    (t.findDevice device = none ∧ s.findDevice device = none) ∨
      ∃ entry other, t.findDevice device = some entry ∧ s.findDevice device = some other ∧
        entry.current = other.current := by
  have hcurrent := h.current device
  cases ht : t.findDevice device with
  | none =>
    rw [ht] at hcurrent
    exact .inl ⟨rfl, Option.map_eq_none_iff.mp hcurrent.symm⟩
  | some entry =>
    rw [ht] at hcurrent
    obtain ⟨other, hs, hsame⟩ := Option.map_eq_some_iff.mp hcurrent.symm
    exact .inr ⟨entry, other, rfl, hs, hsame.symm⟩

end Agree

end Registry

/-! ### Queries -/

/-- Kind, selected record and conflict of an answer. -/
def QueryResult.gist (result : QueryResult) : DecisionKind × Option EvidenceId × Option ConflictId :=
  (result.kind, result.selected, result.conflict)

namespace Registry

variable {s t : Registry}

/-- The gist of an answer about a registered device, from the derivation. -/
theorem query_gist {request : CapabilityQuery} {entry : DeviceIncarnationEntry}
    (hfind : s.findDevice request.device.device = some entry) (now : Tick) :
    (s.query request now).value?.map QueryResult.gist =
      let derivation := s.derive request.device request.kind now request.maxEvidenceAge
      if derivation.disagrees then some (.conflicted, none, derivation.conflict)
      else match derivation.live.head?.map StoredEvidence.evidence with
        | some evidence => some (.compatible, some evidence.id, derivation.conflict)
        | none => some (.unknown, none, derivation.conflict) := by
  rw [query, hfind]
  generalize s.derive request.device request.kind now request.maxEvidenceAge = derivation
  dsimp only [Outcome.value?, Option.map_some, QueryResult.gist]
  cases derivation.disagrees with
  | true => rfl
  | false =>
    cases derivation.live.head? <;> rfl

theorem Agree.query (h : Agree s t) (request : CapabilityQuery) (now : Tick) :
    (t.query request now).value?.map QueryResult.gist = (s.query request now).value?.map QueryResult.gist := by
  have hlike := h.derive request.device request.kind now request.maxEvidenceAge
  rcases h.device_cases request.device.device with ⟨ht, hs⟩ | ⟨entry, other, ht, hs, -⟩
  · rw [Registry.query, Registry.query, ht, hs]
  · rw [query_gist ht, query_gist hs]
    dsimp only
    rw [hlike.disagrees, hlike.conflict, hlike.head]

end Registry

/-! ### Decisions -/

/-- What a verdict contributes to a decision. -/
def Verdict.gist (verdict : Verdict) : DecisionKind × List ReasonCode × Option CapabilityEvidence :=
  (verdict.kind, verdict.reasons, verdict.selected.map StoredEvidence.evidence)

/-- Kind, reasons, selected record, conflict and id of a decision. -/
def CompatibilityDecision.gist (decision : CompatibilityDecision) :
    DecisionKind × List ReasonCode × Option EvidenceId × Option ConflictId × DecisionId :=
  (decision.kind, decision.reasons, decision.selected, decision.conflict, decision.id)

namespace Derivation.Like

variable {d e : Derivation}

/-- The first live record is there in both or in neither, with the same evidence. -/
theorem head_cases (h : d.Like e) : (d.live.head? = none ∧ e.live.head? = none) ∨
      ∃ record other, d.live.head? = some record ∧ e.live.head? = some other ∧ record.evidence = other.evidence := by
  have hhead := h.head
  cases hd : d.live.head? with
  | none =>
    rw [hd] at hhead
    exact .inl ⟨rfl, Option.map_eq_none_iff.mp hhead.symm⟩
  | some record =>
    rw [hd] at hhead
    obtain ⟨other, he, hsame⟩ := Option.map_eq_some_iff.mp hhead.symm
    exact .inr ⟨record, other, rfl, he, hsame.symm⟩

end Derivation.Like

namespace Registry

variable {s t : Registry} {d e : Derivation}

theorem compareSelected_gist {record other : StoredEvidence} (h : record.evidence = other.evidence)
    (requirement : CapabilityRequirement) (reasons : List ReasonCode) :
    (compareSelected requirement reasons record).gist = (compareSelected requirement reasons other).gist := by
  dsimp only [compareSelected, Verdict.gist, Option.map]
  rw [h]

section

variable (h : Agree s t) (hlike : d.Like e) (requirement : CapabilityRequirement) (reasons : List ReasonCode)
include h hlike

theorem Agree.unknownReasons : t.unknownReasons d requirement reasons = s.unknownReasons e requirement reasons := by
  have houtdated : (d.saw .superseded = true ∨ d.saw .outranked = true ∨ d.saw .rejected = true) ↔
      (e.saw .superseded = true ∨ e.saw .outranked = true ∨ e.saw .rejected = true) := by
    have hboth := hlike.outdated
    rw [Bool.eq_iff_iff, Bool.or_eq_true, Bool.or_eq_true] at hboth
    rw [hlike.saw .outranked ⟨by decide, by decide⟩]
    tauto
  have hretired := hlike.saw .retired ⟨by decide, by decide⟩
  have hstale := hlike.saw .stale ⟨by decide, by decide⟩
  have hfenced := hlike.saw .fenced ⟨by decide, by decide⟩
  simp only [Registry.unknownReasons, houtdated, hretired, hstale, hfenced, h.sawEvicted]

theorem Agree.verdict : (t.verdict d requirement reasons).gist = (s.verdict e requirement reasons).gist := by
  rw [Registry.verdict, Registry.verdict, hlike.conflict]
  cases e.conflict with
  | none =>
    dsimp only
    rcases hlike.head_cases with ⟨hd, he⟩ | ⟨record, other, hd, he, hsame⟩
    · rw [hd, he]
      dsimp only
      rw [h.unknownReasons hlike]
    · rw [hd, he]
      exact compareSelected_gist hsame requirement reasons
  | some conflict =>
    dsimp only
    rw [h.findResolution]
    cases s.findResolution conflict with
    | none => rfl
    | some resolution =>
      dsimp only
      have hchosen := hlike.chosen resolution.chosen
      cases he : e.live.reverse.find? (fun record => record.id == resolution.chosen) with
      | none =>
        rw [he] at hchosen
        rw [Option.map_eq_none_iff.mp hchosen]
      | some other =>
        rw [he] at hchosen
        obtain ⟨record, hd, hsame⟩ := Option.map_eq_some_iff.mp hchosen
        rw [hd]
        exact compareSelected_gist hsame requirement _

end

section

variable (h : Agree s t) (requirement : CapabilityRequirement) (now : Tick)
include h

/-- Stamps of verdicts and derivations that are not told apart. -/
theorem Agree.stampDecision {found other : Option Derivation} {v w : Verdict}
    (hids : ((found.map Derivation.facts).getD []).map (fun fact => fact.record.id) =
      ((other.map Derivation.facts).getD []).map (fun fact => fact.record.id))
    (hconflict : found.bind Derivation.conflict = other.bind Derivation.conflict) (hverdict : v.gist = w.gist) :
    (t.stampDecision requirement now found v).gist = (s.stampDecision requirement now other w).gist := by
  obtain ⟨hkind, hrest⟩ := Prod.ext_iff.mp hverdict
  obtain ⟨hreasons, hevidence⟩ := Prod.ext_iff.mp hrest
  have hselected : v.selected.map StoredEvidence.id = w.selected.map StoredEvidence.id := by
    have hmapped := congrArg (Option.map CapabilityEvidence.id) hevidence
    dsimp only [Verdict.gist] at hmapped
    rw [Option.map_map, Option.map_map] at hmapped
    exact hmapped
  have hauthority : v.selected.map (fun record => record.evidence.authority) =
      w.selected.map (fun record => record.evidence.authority) := by
    have hmapped := congrArg (Option.map CapabilityEvidence.authority) hevidence
    dsimp only [Verdict.gist] at hmapped
    rw [Option.map_map, Option.map_map] at hmapped
    exact hmapped
  dsimp only [Verdict.gist] at hkind hreasons
  dsimp only [Registry.stampDecision, CompatibilityDecision.gist, CompatibilityDecision.computeId,
    CompatibilityDecision.content]
  rw [hkind, hreasons, hids, hselected, hconflict, hauthority, h.epoch, h.ruleGeneration, h.policyRevision]

theorem Agree.decideRequirement :
    (t.decideRequirement requirement now).gist = (s.decideRequirement requirement now).gist := by
  have hlike := h.derive requirement.device requirement.capability now requirement.maxEvidenceAge
  rw [Registry.decideRequirement, Registry.decideRequirement]
  rcases h.device_cases requirement.device.device with ⟨ht, hs⟩ | ⟨entry, other, ht, hs, hcurrent⟩
  · rw [ht, hs]
    exact h.stampDecision requirement now rfl rfl rfl
  · rw [ht, hs]
    dsimp only
    rw [hcurrent]
    apply h.stampDecision requirement now
    · exact hlike.ids
    · exact hlike.conflict
    · exact h.verdict hlike requirement _

end

end Registry

end Ocreg
