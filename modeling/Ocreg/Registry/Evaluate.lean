/-
Module: Ocreg.Registry.Evaluate
Purpose: The registry's answers: comparison of a requirement with one record, compatibility decisions and
  their explanation store, capability queries, conflicts and statistics.
-/
import Ocreg.Registry.Ops

namespace Ocreg

/-! ### Requirement against one record -/

/-- What one required limit finds wrong, if anything. -/
def compareLimit (evidence : CapabilityEvidence) (required : LimitRequirement) : Option ReasonCode :=
  match evidence.limits.find? required.code with
  | none => some .unknownLimitNotReported
  | some reported =>
    if dimensionOf reported.unit.code ≠ dimensionOf required.unit.code then some .unknownUnitMismatch
    else match compareExact reported.value reported.unit required.minimum required.unit with
      | none => some .unknownInexactUnitConversion
      | some .lt => some .incompatibleLimitBelowRequirement
      | some _ => none

/-- A required minimum version: an unreported one is unknown, a lower one too low. -/
def compareVersion (minimum reported : Option SemVer) (absent tooLow : ReasonCode) : Option ReasonCode :=
  match minimum, reported with
  | none, _ => none
  | some _, none => some absent
  | some minimum, some reported => if reported.precedenceCompare minimum = .lt then some tooLow else none

/-- A required minimum generation; zero counts as unreported. -/
def compareGeneration (minimum : Option UInt64) (reported : UInt64) (absent tooLow : ReasonCode) : Option ReasonCode :=
  match minimum with
  | none => none
  | some minimum =>
    if reported = 0 then some absent else if reported < minimum then some tooLow else none

/-- Everything a requirement finds wrong with a record, in the order it is looked at. -/
def shortcomings (requirement : CapabilityRequirement) (evidence : CapabilityEvidence) : List ReasonCode :=
  (if requirement.version.satisfiedBy evidence.capabilityVersion then [] else [.incompatibleVersionTooLow])
    ++ (requirement.requiredFeatures.codes.filter (fun code => !evidence.features.contains code)).map
      (fun _ => .incompatibleFeatureAbsent)
    ++ requirement.requiredLimits.filterMap (compareLimit evidence)
    ++ (compareVersion requirement.minimumFirmwareVersion evidence.firmwareVersion
      .unknownFirmwareGenerationAbsent .incompatibleFirmwareGenerationTooLow).toList
    ++ (compareGeneration requirement.minimumFirmwareGeneration evidence.firmwareGeneration
      .unknownFirmwareGenerationAbsent .incompatibleFirmwareGenerationTooLow).toList
    ++ (compareVersion requirement.minimumRuntimeVersion evidence.runtimeVersion
      .unknownRuntimeGenerationAbsent .incompatibleRuntimeGenerationTooLow).toList
    ++ (compareGeneration requirement.minimumRuntimeGeneration evidence.runtimeGeneration
      .unknownRuntimeGenerationAbsent .incompatibleRuntimeGenerationTooLow).toList

/-- A positive failure decides before an unknown. -/
def comparisonKind (reasons : List ReasonCode) : DecisionKind :=
  if reasons.any (fun reason => reason.category == .incompatible) then .incompatible
  else if reasons.any (fun reason => reason.category == .unknown) then .unknown
  else .compatible

/-- `compare_requirement`. -/
def compareRequirement (requirement : CapabilityRequirement) (evidence : CapabilityEvidence) :
    DecisionKind × List ReasonCode :=
  let reasons := canonicalReasons (shortcomings requirement evidence)
  (comparisonKind reasons, reasons)

/-! ### Decisions -/

/-- The reported form of a derived fact. -/
def DerivedFact.report (fact : DerivedFact) : EvidenceStateFact where
  id := fact.record.id
  lifecycle := fact.record.lifecycle
  state := fact.state
  reason := fact.reason
  observedAt := fact.record.evidence.observedAt
  age := fact.age
  authority := fact.record.evidence.authority
  generation := fact.record.evidence.generation
  sourceIncarnation := fact.record.evidence.sourceIncarnation
  capabilityVersion := fact.record.evidence.capabilityVersion
  features := fact.record.evidence.features
  limits := fact.record.evidence.limits
  firmwareVersion := fact.record.evidence.firmwareVersion
  runtimeVersion := fact.record.evidence.runtimeVersion

def Derivation.saw (derivation : Derivation) (state : EvidenceState) : Bool :=
  derivation.facts.any (fun fact => fact.state = state)

/-- Outcome of an evaluation before it is stamped: what was decided, why, and on which record. -/
structure Verdict where
  kind : DecisionKind
  reasons : List ReasonCode
  selected : Option StoredEvidence
deriving DecidableEq

/-- The bytes under the id of a decision. -/
def CompatibilityDecision.content (d : CompatibilityDecision) : Bytes :=
  Writer.u16 kApiGeneration.toUInt16 ++ (d.requirement.encode ++ (Writer.u16 d.kind.numeric ++
    (Writer.u64 d.ruleGeneration ++ (Writer.u64 d.registryEpoch ++ (Writer.u64 d.policyRevision ++
    (Writer.u64 d.evaluatedAt ++ (Writer.collection Writer.reason d.reasons ++
    (Writer.collection Writer.digest d.evidence ++ (Writer.optional Writer.digest d.selected ++
    (Writer.optional Writer.digest d.conflict ++ Writer.u16 d.selectedAuthority.numeric))))))))))

/-- The id a decision is retained under. -/
def CompatibilityDecision.computeId (d : CompatibilityDecision) : DecisionId := Digest256.of d.content

namespace Registry

/-- Some record of the group is in the eviction ledger. -/
def sawEvicted (s : Registry) (device : DeviceIncarnationRef) (kind : CapabilityKind) : Bool :=
  s.evictionTable.any (fun entry => entry.key.device == device && entry.key.kind == kind)

/-- Why no record could be selected. -/
def unknownReasons (s : Registry) (derivation : Derivation) (requirement : CapabilityRequirement)
    (reasons : List ReasonCode) : List ReasonCode :=
  let reasons := reasons
    ++ (if derivation.saw .retired then [.unknownCapabilityRetired] else [])
    ++ (if derivation.saw .superseded ∨ derivation.saw .outranked ∨ derivation.saw .rejected then
      [.unknownStaleEvidence] else [])
    ++ (if derivation.saw .stale then [.unknownStaleEvidence] else [])
    ++ (if derivation.saw .fenced then [.unknownFencedEvidence] else [])
  if reasons ≠ [] then reasons
  else if s.sawEvicted requirement.device requirement.capability then [.unknownEvidenceEvicted]
  else [.unknownNoEvidence]

/-- Compare the requirement with the selected record. -/
def compareSelected (requirement : CapabilityRequirement) (reasons : List ReasonCode)
    (record : StoredEvidence) : Verdict :=
  let comparison := compareRequirement requirement record.evidence
  ⟨comparison.1, reasons ++ comparison.2, some record⟩

/-- The decision on a derivation. A disagreement is settled only by a stored resolution of exactly that
    conflict whose choice is live; otherwise any live record will do, and they all agree. -/
def verdict (s : Registry) (derivation : Derivation) (requirement : CapabilityRequirement)
    (reasons : List ReasonCode) : Verdict :=
  match derivation.conflict with
  | some conflict =>
    match s.findResolution conflict with
    | some resolution =>
      match derivation.live.reverse.find? (fun record => record.id == resolution.chosen) with
      | some record => compareSelected requirement (reasons ++ [.conflictResolvedByResolution]) record
      | none => ⟨.conflicted, reasons ++ [.conflictResolvedByResolution, .conflictEqualAuthority], none⟩
    | none => ⟨.conflicted, reasons ++ [.conflictEqualAuthority], none⟩
  | none =>
    match derivation.live.head? with
    | some record => compareSelected requirement reasons record
    | none => ⟨.unknown, s.unknownReasons derivation requirement reasons, none⟩

/-- Drop the oldest decisions while the store is at its bound. -/
def dropDecisions (s : Registry) : Nat → Registry
  | 0 => s
  | fuel + 1 =>
    if s.decisions.size ≥ s.policy.limits.maxDecisions.toNat then
      match s.decisionOrder with
      | [] => s
      | oldest :: order =>
        dropDecisions
          { s with
            decisionOrder := order
            decisions := s.decisions.erase oldest
            counters := { s.counters with
              decisionsEvicted := if (s.decisions.find? oldest).isSome then s.counters.decisionsEvicted + 1
                else s.counters.decisionsEvicted } } fuel
    else s

/-- Retain a decision, in place of one with the same id. -/
def pushDecision (s : Registry) (decision : CompatibilityDecision) : Registry :=
  if (s.decisions.find? decision.id).isSome then
    { s with decisions := s.decisions.insert decision.id decision }
  else
    -- each round takes one id off the order, so its length bounds the rounds
    let dropped := s.dropDecisions s.decisionOrder.length
    { dropped with
      decisions := dropped.decisions.insert decision.id decision
      decisionOrder := dropped.decisionOrder ++ [decision.id] }

section

variable (s : Registry) (requirement : CapabilityRequirement) (now : Tick)

/-- Stamp a verdict with the registry's generations; `derivation` is none for an unknown device. -/
def stampDecision (derivation : Option Derivation) (verdict : Verdict) : CompatibilityDecision :=
  let facts := (derivation.map Derivation.facts).getD []
  let unsigned : CompatibilityDecision :=
    { id := .zero
      kind := verdict.kind
      device := requirement.device
      capability := requirement.capability
      requirement
      reasons := canonicalReasons verdict.reasons
      evidence := (facts.map (fun fact => fact.record.id)).insertionSort (· ≤ ·)
      evidenceFacts := facts.map DerivedFact.report
      selected := verdict.selected.map StoredEvidence.id
      conflict := derivation.bind Derivation.conflict
      selectedAuthority := (verdict.selected.map (fun record => record.evidence.authority)).getD .none
      ruleGeneration := s.ruleGeneration
      registryEpoch := s.epoch
      policyRevision := s.policyRevision
      evaluatedAt := now }
  { unsigned with id := unsigned.computeId }

/-- The decision `evaluate` makes, before it is retained. -/
def decideRequirement : CompatibilityDecision :=
  match s.findDevice requirement.device.device with
  | none => s.stampDecision requirement now none ⟨.unknown, [.unknownDeviceNotRegistered], none⟩
  | some entry =>
    let derivation := s.derive requirement.device requirement.capability now requirement.maxEvidenceAge
    let reasons := if entry.current ≠ requirement.device.incarnation then [.unknownIncarnationNotCurrent]
      else []
    s.stampDecision requirement now (some derivation) (s.verdict derivation requirement reasons)

/-- `Registry::evaluate`. -/
def evaluate : CompatibilityDecision × Registry :=
  let decision := s.decideRequirement requirement now
  let pushed := s.pushDecision decision
  (decision, { pushed with counters := { pushed.counters with
    decisionsEmitted := pushed.counters.decisionsEmitted + 1 } })

end

/-! ### Queries -/

/-- Facts a query reports: history only on demand. -/
def reportedFacts (derivation : Derivation) (includeHistory : Bool) : List DerivedFact :=
  derivation.facts.filter (fun fact => includeHistory || !(fact.state = .superseded ∨ fact.state = .rejected))

section

variable (s : Registry)

/-- Why a query finds nothing. -/
def queryUnknownReasons (derivation : Derivation) (request : CapabilityQuery) (reasons : List ReasonCode)
    : List ReasonCode :=
  let reasons := reasons
    ++ (if derivation.saw .retired then [.unknownCapabilityRetired] else [])
    ++ (if derivation.saw .superseded ∨ derivation.saw .stale then [.unknownStaleEvidence] else [])
    ++ (if derivation.saw .fenced then [.unknownFencedEvidence] else [])
    ++ (if derivation.saw .outranked then [.unknownConflictingEvidence] else [])
  if reasons ≠ [] then reasons
  else if derivation.saw .rejected then [.rejectedSupersededGeneration]
  else if s.sawEvicted request.device request.kind then [.unknownEvidenceEvicted]
  else [.unknownNoEvidence]

/-- `Registry::query`. -/
def query (request : CapabilityQuery) (now : Tick) : Outcome QueryResult :=
  match s.findDevice request.device.device with
  | none => .failure .unknownDeviceNotRegistered (text "device incarnation is not registered")
  | some entry =>
    let derivation := s.derive request.device request.kind now request.maxEvidenceAge
    let reasons : List ReasonCode :=
      if entry.current ≠ request.device.incarnation then [.unknownIncarnationNotCurrent] else []
    let answer : DecisionKind × List ReasonCode × Option EvidenceId :=
      if derivation.disagrees then (.conflicted, reasons ++ [.conflictEqualAuthority], none)
      else match derivation.live.head? with
        | some record => (.compatible, reasons ++ [.acceptedNew], some record.id)
        | none => (.unknown, s.queryUnknownReasons derivation request reasons, none)
    .success
      { kind := answer.1
        device := request.device
        kindRequested := request.kind
        reasons := canonicalReasons answer.2.1
        facts := (reportedFacts derivation request.includeHistory).map DerivedFact.report
        selected := answer.2.2
        conflict := derivation.conflict
        ruleGeneration := s.ruleGeneration
        registryEpoch := s.epoch
        policyRevision := s.policyRevision
        evaluatedAt := now } .ok

/-- `Registry::explain`: the retained decision with the sources, conflict and resolution it involves. -/
def explain (id : DecisionId) : Outcome Explanation :=
  match s.decisions.find? id with
  | none => .failure .unknownNoEvidence (text "decision is not retained in the bounded explanation store")
  | some decision =>
    let sources := Scan.sortUniqueBy (fun source : SourceId => source)
      (decision.evidenceFacts.map (fun fact => fact.sourceIncarnation.source))
    .success
      { decision
        involvedSources := sources.filterMap s.policy.findSource
        conflict := decision.conflict.bind (fun conflict =>
          s.conflictTable.reverse.find? (fun group => group.id == conflict))
        resolution := decision.conflict.bind s.findResolution
        decisionAvailable := true
        reason := .ok } .ok

/-- `Registry::stats`. -/
def stats (now : Tick) : RegistryStats :=
  let bucket := fun state => UInt64.ofNat ((s.allFactStates now).countP (· = state))
  { devices := UInt64.ofNat s.incarnationTable.size
    incarnations := UInt64.ofNat (s.incarnationTable.values.map (fun entry => entry.history.length)).sum
    streams := UInt64.ofNat s.countStreams
    recordsTotal := UInt64.ofNat s.totalRecords
    recordsActive := bucket .active
    recordsSuperseded := bucket .superseded
    recordsRetired := bucket .retired
    recordsRejected := bucket .rejected
    recordsFenced := bucket .fenced
    recordsStale := bucket .stale
    recordsOutranked := bucket .outranked
    recordsEvicted := s.counters.evictionsTotal + bucket .evicted
    conflictsOpen := UInt64.ofNat s.conflictTable.length
    conflictsResolved := s.counters.conflictsResolved
    tombstones := UInt64.ofNat s.flattenTombstones.length
    resolutions := UInt64.ofNat s.resolutionTable.length
    evictionLedgerDropped := s.counters.evictionLedgerDropped
    conflictsDropped := s.counters.conflictsDropped
    resolutionsDropped := s.counters.resolutionsDropped
    tombstonesDropped := s.counters.tombstonesDropped
    decisionsEmitted := s.counters.decisionsEmitted
    decisionsEvicted := s.counters.decisionsEvicted
    admissionsAccepted := s.counters.admissionsAccepted
    admissionsIdempotent := s.counters.admissionsIdempotent
    admissionsRejected := s.counters.admissionsRejected
    retirementsAccepted := s.counters.retirementsAccepted
    retirementsRejected := s.counters.retirementsRejected
    registryEpoch := s.epoch
    ruleGeneration := s.ruleGeneration
    policyRevision := s.policyRevision
    bootEpoch := s.bootEpoch
    logicalTick := s.logicalTick }

end

end Registry

end Ocreg
