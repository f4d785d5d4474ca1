/-
Module: Ocreg.Proofs.Decisions
Purpose: What a compatibility decision means: which records count and when they settle a decision.
-/
import Ocreg.Proofs.Comparison
import Ocreg.Registry.Step

namespace Ocreg

open List Registry Lab

/-! ### Records that count -/

namespace Registry

section

variable (s : Registry) (device : DeviceIncarnationRef) (kind : CapabilityKind) (now maxAgeOverride : Tick)
  (record : StoredEvidence)

/-- A stored record of the group that passes the tests and holds its stream's maximum. -/
def Counts : Prop :=
  ∃ key stream source, s.findStream key = some stream ∧ key.device = device ∧ key.kind = kind ∧
    record ∈ stream.records ∧ s.Eligible key stream now maxAgeOverride record source ∧
    record.evidence.generation = stream.maxGeneration

/-- A record that counts, at the highest authority among those that do. -/
structure Leading : Prop where
  counts : s.Counts device kind now maxAgeOverride record
  top : ∀ rival, s.Counts device kind now maxAgeOverride rival →
    rival.evidence.authority ≤ record.evidence.authority

end

variable {s : Registry} {device : DeviceIncarnationRef} {kind : CapabilityKind} {now override : Tick}
  {record : StoredEvidence}

/-- In a levelled registry the records that count are those with an active raw fact. -/
theorem counts_iff (hs : s.Levelled) : s.Counts device kind now override record ↔
    ∃ raw ∈ s.rawFacts device kind now override, raw.record = record ∧ raw.state = .active := by
  constructor
  · rintro ⟨key, stream, source, hfind, hdevice, hkind, hmem, heligible, _⟩
    exact ⟨_, mem_rawFacts.mpr ⟨key, stream, hfind, hdevice, hkind, record, hmem, rfl⟩, rfl,
      (s.classify_active key stream now override record).mpr ⟨source, heligible⟩⟩
  · rintro ⟨raw, hraw, rfl, hactive⟩
    obtain ⟨key, stream, hfind, hdevice, hkind, record, hmem, rfl⟩ := mem_rawFacts.mp hraw
    obtain ⟨source, heligible⟩ := (s.classify_active key stream now override record).mp hactive
    refine ⟨key, stream, source, hfind, hdevice, hkind, hmem, heligible, ?_⟩
    have hle : record.evidence.generation ≤ stream.maxGeneration := by
      rw [hs key stream hfind]
      exact le_highestGeneration hmem
    refine le_antisymm hle (not_lt.mp (fun hlt => heligible.newest ⟨?_, hlt⟩))
    intro hzero
    rw [hzero] at hlt
    exact absurd hlt UInt64.not_lt_zero

/-- The live records of a derivation are the leading ones. -/
theorem mem_live (hs : s.Levelled) :
    record ∈ (s.derive device kind now override).live ↔ s.Leading device kind now override record := by
  rw [mem_derive_live]
  constructor
  · rintro ⟨raw, hraw, hrecord, hactive, hhighest⟩
    refine ⟨(counts_iff hs).mpr ⟨raw, hraw, hrecord, hactive⟩, ?_⟩
    intro rival hrival
    obtain ⟨fact, hfact, rfl, hstate⟩ := (counts_iff hs).mp hrival
    exact (le_highestAuthority hfact hstate).trans hhighest
  · rintro ⟨hcounts, htop⟩
    obtain ⟨raw, hraw, hrecord, hactive⟩ := (counts_iff hs).mp hcounts
    refine ⟨raw, hraw, hrecord, hactive, ?_⟩
    rcases highestAuthority_attained (s.rawFacts device kind now override) with hnone | ⟨fact, hfact, hstate, hauth⟩
    · rw [hnone]
      cases record.evidence.authority <;> decide
    · rw [← hauth]
      exact htop fact.record ((counts_iff hs).mpr ⟨fact, hfact, rfl, hstate⟩)

end Registry

/-! ### Disagreement -/

theorem recordsDiffer_eq_false {a b : CapabilityEvidence} :
    recordsDiffer a b = false ↔ a.capabilityVersion = b.capabilityVersion ∧ a.features = b.features ∧
      a.limits = b.limits ∧ a.firmwareVersion = b.firmwareVersion ∧ a.firmwareGeneration = b.firmwareGeneration ∧
      a.runtimeVersion = b.runtimeVersion ∧ a.runtimeGeneration = b.runtimeGeneration := by
  simp [recordsDiffer, and_assoc]

/-- Comparing with the first record finds every disagreement. -/
theorem liveDisagrees_eq_false {records : List StoredEvidence} : liveDisagrees records = false ↔
      ∀ a ∈ records, ∀ b ∈ records, recordsDiffer a.evidence b.evidence = false := by
  cases records with
  | nil => simp [liveDisagrees]
  | cons first rest =>
    rw [liveDisagrees, any_eq_false]
    constructor
    · intro hagree
      have hfirst : ∀ record ∈ first :: rest, recordsDiffer first.evidence record.evidence = false := by
        intro record hrecord
        rcases mem_cons.mp hrecord with rfl | hrecord
        · simp [recordsDiffer]
        · exact Bool.eq_false_iff.mpr (hagree record hrecord)
      intro a ha b hb
      have hfa := recordsDiffer_eq_false.mp (hfirst a ha)
      have hfb := recordsDiffer_eq_false.mp (hfirst b hb)
      rw [recordsDiffer_eq_false]
      exact ⟨hfa.1.symm.trans hfb.1, hfa.2.1.symm.trans hfb.2.1, hfa.2.2.1.symm.trans hfb.2.2.1,
        hfa.2.2.2.1.symm.trans hfb.2.2.2.1, hfa.2.2.2.2.1.symm.trans hfb.2.2.2.2.1,
        hfa.2.2.2.2.2.1.symm.trans hfb.2.2.2.2.2.1, hfa.2.2.2.2.2.2.symm.trans hfb.2.2.2.2.2.2⟩
    · intro hagree record hrecord
      rw [hagree first mem_cons_self record (mem_cons_of_mem _ hrecord)]
      exact Bool.false_ne_true

namespace Registry

variable {s : Registry} {device : DeviceIncarnationRef} {kind : CapabilityKind} {now override : Tick}

/-- A derivation names a conflict exactly when two leading records differ. -/
theorem conflict_eq_none (hs : s.Levelled) : (s.derive device kind now override).conflict = none ↔
    ∀ a b, s.Leading device kind now override a → s.Leading device kind now override b →
      recordsDiffer a.evidence b.evidence = false := by
  have hconflict : (s.derive device kind now override).conflict = none ↔
      liveDisagrees (s.derive device kind now override).live = false := by
    rw [derive]
    dsimp only
    split
    next h => simp [h]
    next h => simp [Bool.eq_false_iff.mpr h]
  rw [hconflict, liveDisagrees_eq_false]
  simp only [mem_live hs]
  exact ⟨fun h a b ha hb => h a ha b hb, fun h a ha b hb => h a b ha hb⟩

/-- What an evaluation of a known device stamps on its decision. -/
theorem evaluate_known (now : Tick) {requirement : CapabilityRequirement} {entry : DeviceIncarnationEntry}
    (hentry : s.findDevice requirement.device.device = some entry) :
    ∃ reasons result, s.verdict (s.derive requirement.device requirement.capability now
        requirement.maxEvidenceAge) requirement reasons = result ∧
      (s.evaluate requirement now).1.kind = result.kind ∧
      (s.evaluate requirement now).1.selected = result.selected.map StoredEvidence.id := by
  rw [evaluate]
  dsimp only
  rw [decideRequirement, hentry]
  exact ⟨_, _, rfl, rfl, rfl⟩

theorem evaluate_unknown {requirement : CapabilityRequirement}
    (hentry : s.findDevice requirement.device.device = none) : (s.evaluate requirement now).1.kind = .unknown := by
  rw [evaluate]
  dsimp only
  rw [decideRequirement, hentry]
  rfl

theorem findResolution_some {id : ConflictId} {resolution : ConflictResolution}
    (h : s.findResolution id = some resolution) : resolution ∈ s.resolutionTable ∧ resolution.conflict = id := by
  rw [findResolution] at h
  have htest := List.find?_some h
  rw [beq_iff_eq] at htest
  exact ⟨mem_of_find?_eq_some h, htest⟩

/-- Nothing counts on a device that is not registered. -/
theorem not_counts_of_unknown {record : StoredEvidence} (hentry : s.findDevice device.device = none) :
    ¬ s.Counts device kind now override record := by
  rintro ⟨key, stream, source, _, rfl, _, _, heligible, _⟩
  have hcurrent := heligible.current
  rw [hentry] at hcurrent
  cases hcurrent

end Registry

section

variable (s : Registry) (derivation : Derivation) (requirement : CapabilityRequirement)

/-- The ways a verdict comes about. -/
inductive Judged : Verdict → Prop
  | unresolved {id : ConflictId} {reasons : List ReasonCode} (hconflict : derivation.conflict = some id)
      (hunresolved : ∀ resolution, s.findResolution id = some resolution →
        ∀ record ∈ derivation.live, record.id ≠ resolution.chosen) :
      Judged ⟨.conflicted, reasons, none⟩
  | resolved {id : ConflictId} {resolution : ConflictResolution} {record : StoredEvidence}
      {reasons : List ReasonCode} (hconflict : derivation.conflict = some id)
      (hresolution : s.findResolution id = some resolution) (hlive : record ∈ derivation.live)
      (hchosen : record.id = resolution.chosen) :
      Judged ⟨(compareRequirement requirement record.evidence).1, reasons, some record⟩
  | agreed {record : StoredEvidence} {reasons : List ReasonCode} (hconflict : derivation.conflict = none)
      (hlive : record ∈ derivation.live) :
      Judged ⟨(compareRequirement requirement record.evidence).1, reasons, some record⟩
  | nothing {reasons : List ReasonCode} (hconflict : derivation.conflict = none)
      (hlive : derivation.live = []) : Judged ⟨.unknown, reasons, none⟩

end

/-- Inversion of `verdict`. -/
theorem Registry.verdict_view (s : Registry) (derivation : Derivation) (requirement : CapabilityRequirement)
    (reasons : List ReasonCode) : Judged s derivation requirement (s.verdict derivation requirement reasons) := by
  rw [verdict]
  cases hconflict : derivation.conflict with
  | some id =>
    dsimp only
    cases hresolution : s.findResolution id with
    | some resolution =>
      dsimp only
      cases hchosen : derivation.live.reverse.find? (fun record => record.id == resolution.chosen) with
      | some record =>
        exact .resolved hconflict hresolution (mem_reverse.mp (mem_of_find?_eq_some hchosen))
          (by simpa using List.find?_some hchosen)
      | none =>
        refine .unresolved hconflict ?_
        intro other hother record hlive
        rw [hresolution] at hother
        cases hother
        simpa using List.find?_eq_none.mp hchosen record (mem_reverse.mpr hlive)
    | none =>
      refine .unresolved hconflict ?_
      intro resolution hresolution'
      rw [hresolution] at hresolution'
      cases hresolution'
  | none =>
    dsimp only
    cases hlive : derivation.live with
    | nil => exact .nothing hconflict hlive
    | cons record rest => exact .agreed hconflict (hlive ▸ mem_cons_self)

section

variable (s : Registry) (requirement : CapabilityRequirement) (now : Tick)

/-- A leading record of the requirement's group, under its age override. -/
abbrev Registry.LeadingFor (record : StoredEvidence) : Prop :=
  s.Leading requirement.device requirement.capability now requirement.maxEvidenceAge record

/-- The conflict the requirement's group is in. -/
abbrev Registry.conflictOf : Option ConflictId :=
  (s.derive requirement.device requirement.capability now requirement.maxEvidenceAge).conflict

/-- What a decision of some kind on some selected record says. -/
structure Registry.Justified (kind : DecisionKind) (selected : Option EvidenceId) : Prop where
  /-- A leading record was selected that meets the requirement, and the leading records agree or a stored
      resolution of the current conflict chose it. -/
  compatible : kind = .compatible → ∃ record, s.LeadingFor requirement now record ∧ selected = some record.id ∧
    Meets requirement record.evidence ∧
    ((∀ a b, s.LeadingFor requirement now a → s.LeadingFor requirement now b →
      recordsDiffer a.evidence b.evidence = false) ∨
      ∃ resolution ∈ s.resolutionTable, s.conflictOf requirement now = some resolution.conflict ∧
        resolution.chosen = record.id)
  /-- Leading records differ, and the first stored resolution of their conflict, if there is one, chooses no
      leading record. -/
  conflicted : kind = .conflicted ↔
    (∃ a b, s.LeadingFor requirement now a ∧ s.LeadingFor requirement now b ∧
      recordsDiffer a.evidence b.evidence = true) ∧
    ¬ ∃ id resolution record, s.conflictOf requirement now = some id ∧ s.findResolution id = some resolution ∧
      s.LeadingFor requirement now record ∧ record.id = resolution.chosen
  /-- A leading record was selected that fails a part. -/
  incompatible : kind = .incompatible → ∃ record, s.LeadingFor requirement now record ∧
    selected = some record.id ∧ Fails requirement record.evidence
  /-- The answer where no record counts. -/
  unknown : (¬ ∃ record, s.Counts requirement.device requirement.capability now requirement.maxEvidenceAge record) →
    kind = .unknown

end

section Justified

variable {s : Registry} {requirement : CapabilityRequirement} {now : Tick}

theorem Registry.conflictOf_ne_none (hs : s.Levelled) : s.conflictOf requirement now ≠ none ↔
    ∃ a b, s.LeadingFor requirement now a ∧ s.LeadingFor requirement now b ∧
      recordsDiffer a.evidence b.evidence = true := by
  rw [ne_eq, conflict_eq_none hs]
  push Not
  simp only [Bool.not_eq_false]

theorem Registry.Justified.of_unregistered (hentry : s.findDevice requirement.device.device = none)
    (selected : Option EvidenceId) : s.Justified requirement now .unknown selected where
  compatible h := by cases h
  conflicted := by
    refine ⟨fun h => (by cases h), ?_⟩
    rintro ⟨⟨a, _, ha, _⟩, _⟩
    exact absurd ha.counts (not_counts_of_unknown hentry)
  incompatible h := by cases h
  unknown _ := rfl

/-- A verdict on the requirement's group is justified. -/
theorem Registry.Justified.of_judged (hs : s.Levelled) {result : Verdict}
    (h : Judged s (s.derive requirement.device requirement.capability now requirement.maxEvidenceAge) requirement
      result) : s.Justified requirement now result.kind (result.selected.map StoredEvidence.id) := by
  cases h with
  | @unresolved id _ hconflict hunresolved =>
    have hnamed : s.conflictOf requirement now = some id := hconflict
    have hdiffer := (conflictOf_ne_none hs).mp (hnamed ▸ Option.some_ne_none id)
    refine ⟨fun h => (by cases h), ⟨fun _ => ⟨hdiffer, ?_⟩, fun _ => rfl⟩, fun h => (by cases h), fun hnone => ?_⟩
    · rintro ⟨other, resolution, record, hother, hresolution, hleading, hchosen⟩
      rw [hnamed] at hother
      cases hother
      exact hunresolved resolution hresolution record ((mem_live hs).mpr hleading) hchosen
    · obtain ⟨a, _, ha, _⟩ := hdiffer
      exact absurd ⟨a, ha.counts⟩ hnone
  | @resolved id resolution record _ hconflict hresolution hlive hchosen =>
    dsimp only [Option.map_some]
    have hleading := (mem_live hs).mp hlive
    obtain ⟨hstored, hid⟩ := findResolution_some hresolution
    refine ⟨fun h => ⟨record, hleading, rfl, compareRequirement_compatible.mp h, .inr ?_⟩,
      ⟨fun h => absurd h compareRequirement_ne_conflicted, fun h => ?_⟩,
      fun h => ⟨record, hleading, rfl, compareRequirement_incompatible h⟩,
      fun hnone => absurd ⟨record, hleading.counts⟩ hnone⟩
    · exact ⟨resolution, hstored, hconflict.trans (congrArg some hid.symm), hchosen.symm⟩
    · exact absurd ⟨id, resolution, record, hconflict, hresolution, hleading, hchosen⟩ h.2
  | @agreed record _ hconflict hlive =>
    dsimp only [Option.map_some]
    have hleading := (mem_live hs).mp hlive
    refine ⟨fun h => ⟨record, hleading, rfl, compareRequirement_compatible.mp h, .inl ?_⟩,
      ⟨fun h => absurd h compareRequirement_ne_conflicted, fun h => ?_⟩,
      fun h => ⟨record, hleading, rfl, compareRequirement_incompatible h⟩,
      fun hnone => absurd ⟨record, hleading.counts⟩ hnone⟩
    · exact (conflict_eq_none hs).mp hconflict
    · exact absurd hconflict ((conflictOf_ne_none hs).mpr h.1)
  | nothing hconflict _ =>
    refine ⟨fun h => (by cases h), ⟨fun h => (by cases h), fun h => ?_⟩, fun h => (by cases h), fun _ => rfl⟩
    exact absurd hconflict ((conflictOf_ne_none hs).mpr h.1)

end Justified

/-- Every decision of a reachable registry is justified. -/
theorem evaluate_decides {s : Registry} (hs : s.Reachable) (requirement : CapabilityRequirement) (now : Tick) :
    s.Justified requirement now (s.evaluate requirement now).1.kind (s.evaluate requirement now).1.selected := by
  cases hentry : s.findDevice requirement.device.device with
  | none =>
    rw [evaluate_unknown hentry]
    exact .of_unregistered hentry _
  | some entry =>
    obtain ⟨reasons, result, rfl, hkind, hselected⟩ := evaluate_known now hentry
    rw [hkind, hselected]
    exact .of_judged (Levelled.of_reachable hs) (s.verdict_view _ requirement reasons)

namespace Lab

/-- Asks for any version on the first device, with nothing else required. -/
def requirement : CapabilityRequirement where
  device := device 0
  capability := .packetClassification
  version := ⟨.mk3 1 0 0, none⟩
  requiredFeatures := .empty
  requiredLimits := []
  minimumFirmwareVersion := none
  minimumFirmwareGeneration := none
  minimumRuntimeVersion := none
  minimumRuntimeGeneration := none
  maxEvidenceAge := 0

end Lab

/-- One report of the device decides the requirement. -/
theorem evaluate_decides_one_report :
    let s := oneReport
    (s.evaluate requirement 6).1.kind = .compatible ∧
      s.Justified requirement 6 (s.evaluate requirement 6).1.kind
        (s.evaluate requirement 6).1.selected :=
  ⟨by decide +kernel, evaluate_decides (.step (.init policy) _) requirement 6⟩

namespace Lab

def peer : SourceId := ⟨text "peer", Or.inr (by decide)⟩

/-- Two durable sources of equal authority. -/
def durablePolicy : RegistryPolicy :=
  { sources := [{ sourcePolicy with durableAcrossBoot := true },
      { sourcePolicy with id := peer, durableAcrossBoot := true }] }

/-- Their reports of one device differ. -/
def disagreeing : Registry :=
  ((init durablePolicy).step (.admitRequest (request 0 1 5) 5)).step
    (.admitRequest { request 0 1 5 with source := ⟨peer, 1⟩, capabilityVersion := .mk3 2 0 0 } 5)

/-- A stored state with a resolution of that conflict in favour of a record that does not exist. -/
def strayResolution : RegistryState :=
  { disagreeing.toState with
    resolutions := [⟨.zero, (disagreeing.conflictOf requirement 6).getD .zero, .zero, [], source, 6, 1⟩] }

end Lab

/-- Adopted, that state answers with a conflict although a stored resolution names it. -/
theorem conflicted_despite_resolution :
    let s := (init durablePolicy).step (.adoptState strayResolution 6)
    RegistryState.decode.run strayResolution.encode = .ok (strayResolution, []) ∧
      (s.evaluate requirement 6).1.kind = .conflicted ∧
      (s.resolutionTable.map (fun resolution => some resolution.conflict)) = [s.conflictOf requirement 6] := by
  decide +kernel

end Ocreg
