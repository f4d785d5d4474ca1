/-
Module: Ocreg.Proofs.Comparison
Purpose: What a requirement finds in one record: the parts the record answers with too little, the parts it
  leaves open, and the three-valued conjunction of all of them.
-/
import Ocreg.Registry.Evaluate

namespace Ocreg

open List

variable {limit : LimitRequirement} {code : ReasonCode} {minimum : Option UInt64} {reported : UInt64}
  {reasons : List ReasonCode}

/-! ### Parts of a requirement -/

section

variable (requirement : CapabilityRequirement) (evidence : CapabilityEvidence)

/-- The evidence meets every part of the requirement. -/
structure Meets : Prop where
  version : requirement.version.satisfiedBy evidence.capabilityVersion = true
  features : ∀ code ∈ requirement.requiredFeatures.codes, evidence.features.contains code = true
  limits : ∀ limit ∈ requirement.requiredLimits, ∃ reported, evidence.limits.find? limit.code = some reported ∧
    dimensionOf reported.unit.code = dimensionOf limit.unit.code ∧
    ∃ order, compareExact reported.value reported.unit limit.minimum limit.unit = some order ∧ order ≠ .lt
  firmwareVersion : ∀ minimum ∈ requirement.minimumFirmwareVersion, ∃ reported ∈ evidence.firmwareVersion,
    reported.precedenceCompare minimum ≠ .lt
  firmwareGeneration : ∀ minimum ∈ requirement.minimumFirmwareGeneration, evidence.firmwareGeneration ≠ 0 ∧
    minimum ≤ evidence.firmwareGeneration
  runtimeVersion : ∀ minimum ∈ requirement.minimumRuntimeVersion, ∃ reported ∈ evidence.runtimeVersion,
    reported.precedenceCompare minimum ≠ .lt
  runtimeGeneration : ∀ minimum ∈ requirement.minimumRuntimeGeneration, evidence.runtimeGeneration ≠ 0 ∧
    minimum ≤ evidence.runtimeGeneration

/-- The evidence reports something that falls short of a part of the requirement. -/
inductive Fails : Prop
  | version (h : requirement.version.satisfiedBy evidence.capabilityVersion = false)
  | feature (code : FeatureCode) (hrequired : code ∈ requirement.requiredFeatures.codes)
      (h : evidence.features.contains code = false)
  | limit (limit : LimitRequirement) (reported : LimitValue) (hrequired : limit ∈ requirement.requiredLimits)
      (hreported : evidence.limits.find? limit.code = some reported)
      (h : compareExact reported.value reported.unit limit.minimum limit.unit = some .lt)
  | firmwareVersion (minimum reported : SemVer) (hrequired : minimum ∈ requirement.minimumFirmwareVersion)
      (hreported : reported ∈ evidence.firmwareVersion) (h : reported.precedenceCompare minimum = .lt)
  | firmwareGeneration (minimum : UInt64) (hrequired : minimum ∈ requirement.minimumFirmwareGeneration)
      (hreported : evidence.firmwareGeneration ≠ 0) (h : evidence.firmwareGeneration < minimum)
  | runtimeVersion (minimum reported : SemVer) (hrequired : minimum ∈ requirement.minimumRuntimeVersion)
      (hreported : reported ∈ evidence.runtimeVersion) (h : reported.precedenceCompare minimum = .lt)
  | runtimeGeneration (minimum : UInt64) (hrequired : minimum ∈ requirement.minimumRuntimeGeneration)
      (hreported : evidence.runtimeGeneration ≠ 0) (h : evidence.runtimeGeneration < minimum)

/-- A part of the requirement for which the record reports too little, under the code it is told with. -/
inductive Unmet : ReasonCode → Prop
  | belowVersion (h : evidence.capabilityVersion.precedenceCompare requirement.version.minimum = .lt) :
      Unmet .incompatibleVersionTooLow
  | aboveVersion (bound : SemVer) (hbound : bound ∈ requirement.version.maximumExclusive)
      (h : evidence.capabilityVersion.precedenceCompare bound ≠ .lt) :
      Unmet .incompatibleVersionTooLow
  | feature (code : FeatureCode) (hrequired : code ∈ requirement.requiredFeatures.codes)
      (h : code ∉ evidence.features.codes) : Unmet .incompatibleFeatureAbsent
  | limit (limit : LimitRequirement) (reported : LimitValue) (hrequired : limit ∈ requirement.requiredLimits)
      (hreported : evidence.limits.find? limit.code = some reported)
      (h : compareExact reported.value reported.unit limit.minimum limit.unit = some .lt) :
      Unmet .incompatibleLimitBelowRequirement
  | firmwareVersion (minimum reported : SemVer) (hrequired : minimum ∈ requirement.minimumFirmwareVersion)
      (hreported : reported ∈ evidence.firmwareVersion) (h : reported.precedenceCompare minimum = .lt) :
      Unmet .incompatibleFirmwareGenerationTooLow
  | firmwareGeneration (minimum : UInt64) (hrequired : minimum ∈ requirement.minimumFirmwareGeneration)
      (hreported : evidence.firmwareGeneration ≠ 0) (h : evidence.firmwareGeneration < minimum) :
      Unmet .incompatibleFirmwareGenerationTooLow
  | runtimeVersion (minimum reported : SemVer) (hrequired : minimum ∈ requirement.minimumRuntimeVersion)
      (hreported : reported ∈ evidence.runtimeVersion) (h : reported.precedenceCompare minimum = .lt) :
      Unmet .incompatibleRuntimeGenerationTooLow
  | runtimeGeneration (minimum : UInt64) (hrequired : minimum ∈ requirement.minimumRuntimeGeneration)
      (hreported : evidence.runtimeGeneration ≠ 0) (h : evidence.runtimeGeneration < minimum) :
      Unmet .incompatibleRuntimeGenerationTooLow

/-- A part of the requirement that the record does not decide, under the code it is told with. -/
inductive Undecided : ReasonCode → Prop
  | limitAbsent (limit : LimitRequirement) (hrequired : limit ∈ requirement.requiredLimits)
      (h : evidence.limits.find? limit.code = none) : Undecided .unknownLimitNotReported
  | limitDimension (limit : LimitRequirement) (reported : LimitValue)
      (hrequired : limit ∈ requirement.requiredLimits)
      (hreported : evidence.limits.find? limit.code = some reported)
      (h : dimensionOf reported.unit.code ≠ dimensionOf limit.unit.code) :
      Undecided .unknownUnitMismatch
  | limitInexact (limit : LimitRequirement) (reported : LimitValue)
      (hrequired : limit ∈ requirement.requiredLimits)
      (hreported : evidence.limits.find? limit.code = some reported)
      (hdimension : dimensionOf reported.unit.code = dimensionOf limit.unit.code)
      (h : compareExact reported.value reported.unit limit.minimum limit.unit = none) :
      Undecided .unknownInexactUnitConversion
  | firmwareVersion (minimum : SemVer) (hrequired : minimum ∈ requirement.minimumFirmwareVersion)
      (h : evidence.firmwareVersion = none) : Undecided .unknownFirmwareGenerationAbsent
  | firmwareGeneration (minimum : UInt64) (hrequired : minimum ∈ requirement.minimumFirmwareGeneration)
      (h : evidence.firmwareGeneration = 0) : Undecided .unknownFirmwareGenerationAbsent
  | runtimeVersion (minimum : SemVer) (hrequired : minimum ∈ requirement.minimumRuntimeVersion)
      (h : evidence.runtimeVersion = none) : Undecided .unknownRuntimeGenerationAbsent
  | runtimeGeneration (minimum : UInt64) (hrequired : minimum ∈ requirement.minimumRuntimeGeneration)
      (h : evidence.runtimeGeneration = 0) : Undecided .unknownRuntimeGenerationAbsent

end

section Parts

variable {evidence : CapabilityEvidence} {absent tooLow : ReasonCode}

theorem compareLimit_eq_none :
    compareLimit evidence limit = none ↔ ∃ reported, evidence.limits.find? limit.code = some reported ∧
      dimensionOf reported.unit.code = dimensionOf limit.unit.code ∧
      ∃ order, compareExact reported.value reported.unit limit.minimum limit.unit = some order ∧ order ≠ .lt := by
  rw [compareLimit]
  cases evidence.limits.find? limit.code with
  | none => simp
  | some reported =>
    dsimp only
    split
    next hdimension => simp [hdimension]
    next hdimension =>
      rw [not_not] at hdimension
      cases hcompare : compareExact reported.value reported.unit limit.minimum limit.unit with
      | none => simp [hcompare]
      | some order => cases order <;> simp [hdimension, hcompare]

/-- Quantities of different dimensions are never compared. -/
theorem dimension_of_compareExact {lhs rhs : Int64} {lhsUnit rhsUnit : PhysicalUnit} {order : Ordering}
    (h : compareExact lhs lhsUnit rhs rhsUnit = some order) : dimensionOf lhsUnit.code = dimensionOf rhsUnit.code := by
  have hconvert : ∀ {value : Int64} {source target : PhysicalUnit} {result : Int64},
      convertExact value source target = some result → dimensionOf source.code = dimensionOf target.code := by
    intro value source target result hresult
    rw [convertExact] at hresult
    split at hresult
    · cases hresult
    · split at hresult
      · cases hresult
      next hdimension => exact not_not.mp hdimension
  rw [compareExact] at h
  split at h
  next hunit => rw [hunit]
  next =>
    split at h
    next hforward => exact hconvert hforward
    next =>
      obtain ⟨result, hbackward, _⟩ := Option.map_eq_some_iff.mp h
      exact (hconvert hbackward).symm

/-- The four ways in which a required limit is found wanting. -/
theorem compareLimit_eq_some : compareLimit evidence limit = some code ↔
      evidence.limits.find? limit.code = none ∧ code = .unknownLimitNotReported ∨
      ∃ reported, evidence.limits.find? limit.code = some reported ∧
        (dimensionOf reported.unit.code ≠ dimensionOf limit.unit.code ∧ code = .unknownUnitMismatch ∨
        dimensionOf reported.unit.code = dimensionOf limit.unit.code ∧
          compareExact reported.value reported.unit limit.minimum limit.unit = none ∧
          code = .unknownInexactUnitConversion ∨
        compareExact reported.value reported.unit limit.minimum limit.unit = some .lt ∧
          code = .incompatibleLimitBelowRequirement) := by
  rw [compareLimit]
  cases evidence.limits.find? limit.code with
  | none => simp [eq_comm]
  | some reported =>
    dsimp only
    split
    next hdimension =>
      have hless : compareExact reported.value reported.unit limit.minimum limit.unit ≠ some .lt :=
        fun h => hdimension (dimension_of_compareExact h)
      simp [hdimension, hless, @eq_comm _ code]
    next hdimension =>
      rw [not_not] at hdimension
      cases hcompare : compareExact reported.value reported.unit limit.minimum limit.unit with
      | none => simp [hdimension, hcompare, eq_comm]
      | some order => cases order <;> simp [hdimension, hcompare, eq_comm]

theorem compareVersion_eq_none {minimum reported : Option SemVer} :
    compareVersion minimum reported absent tooLow = none ↔
      ∀ bound ∈ minimum, ∃ version ∈ reported, version.precedenceCompare bound ≠ .lt := by
  cases minimum with
  | none => simp [compareVersion]
  | some bound =>
    cases reported <;> simp [compareVersion]

theorem compareVersion_eq_some {minimum reported : Option SemVer} :
    compareVersion minimum reported absent tooLow = some code ↔
      (∃ bound ∈ minimum, reported = none ∧ code = absent) ∨
      ∃ bound ∈ minimum, ∃ version ∈ reported, version.precedenceCompare bound = .lt ∧ code = tooLow := by
  cases minimum with
  | none => simp [compareVersion]
  | some bound =>
    cases reported <;> simp [compareVersion, eq_comm]

theorem compareGeneration_eq_none : compareGeneration minimum reported absent tooLow = none ↔
      ∀ bound ∈ minimum, reported ≠ 0 ∧ bound ≤ reported := by
  cases minimum with
  | none => simp [compareGeneration]
  | some bound =>
    rw [compareGeneration]
    by_cases hzero : reported = 0
    · simp [hzero]
    · by_cases hless : reported < bound
      · simp [hzero, hless, not_le.mpr hless]
      · simp [hzero, hless, not_lt.mp hless]

theorem compareGeneration_eq_some : compareGeneration minimum reported absent tooLow = some code ↔
      (∃ bound ∈ minimum, reported = 0 ∧ code = absent) ∨
      ∃ bound ∈ minimum, reported ≠ 0 ∧ reported < bound ∧ code = tooLow := by
  cases minimum with
  | none => simp [compareGeneration]
  | some bound =>
    rw [compareGeneration]
    by_cases hzero : reported = 0
    · simp [hzero, eq_comm]
    · simp [hzero, eq_comm]

theorem satisfiedBy_eq_false {interval : VersionRequirement} {version : SemVer} :
    interval.satisfiedBy version = false ↔ version.precedenceCompare interval.minimum = .lt ∨
      ∃ bound ∈ interval.maximumExclusive, version.precedenceCompare bound ≠ .lt := by
  rw [VersionRequirement.satisfiedBy]
  split
  next hbelow => simp [hbelow]
  next hreached =>
    cases interval.maximumExclusive <;> simp [hreached]

end Parts

section Requirement

variable {requirement : CapabilityRequirement} {evidence : CapabilityEvidence}

theorem shortcomings_eq_nil : shortcomings requirement evidence = [] ↔ Meets requirement evidence := by
  simp only [shortcomings, append_eq_nil_iff, map_eq_nil_iff, filter_eq_nil_iff,
    filterMap_eq_nil_iff, Option.toList_eq_nil_iff, compareLimit_eq_none, compareVersion_eq_none,
    compareGeneration_eq_none, ite_eq_left_iff, reduceCtorEq, imp_false, not_not, Bool.not_eq_true',
    Bool.not_eq_false]
  constructor
  · rintro ⟨⟨⟨⟨⟨⟨hversion, hfeatures⟩, hlimits⟩, hfirmware⟩, hfirmwareGen⟩, hruntime⟩, hruntimeGen⟩
    exact ⟨hversion, hfeatures, hlimits, hfirmware, hfirmwareGen, hruntime, hruntimeGen⟩
  · intro h
    exact ⟨⟨⟨⟨⟨⟨h.version, h.features⟩, h.limits⟩, h.firmwareVersion⟩, h.firmwareGeneration⟩, h.runtimeVersion⟩,
      h.runtimeGeneration⟩

theorem Unmet.category (h : Unmet requirement evidence code) : code.category = .incompatible := by
  cases h <;> rfl

theorem Undecided.category (h : Undecided requirement evidence code) : code.category = .unknown := by
  cases h <;> rfl

theorem Unmet.fails (h : Unmet requirement evidence code) : Fails requirement evidence := by
  cases h with
  | belowVersion h => exact .version (satisfiedBy_eq_false.mpr (.inl h))
  | aboveVersion bound hbound h => exact .version (satisfiedBy_eq_false.mpr (.inr ⟨bound, hbound, h⟩))
  | feature code hrequired h => exact .feature code hrequired (by simpa [FeatureSet.contains] using h)
  | limit limit reported hrequired hreported h => exact .limit limit reported hrequired hreported h
  | firmwareVersion minimum reported hrequired hreported h =>
    exact .firmwareVersion minimum reported hrequired hreported h
  | firmwareGeneration minimum hrequired hreported h => exact .firmwareGeneration minimum hrequired hreported h
  | runtimeVersion minimum reported hrequired hreported h =>
    exact .runtimeVersion minimum reported hrequired hreported h
  | runtimeGeneration minimum hrequired hreported h => exact .runtimeGeneration minimum hrequired hreported h

/-- The parts looked at, one after the other. -/
theorem mem_shortcomings_parts : code ∈ shortcomings requirement evidence ↔
    requirement.version.satisfiedBy evidence.capabilityVersion = false ∧ code = .incompatibleVersionTooLow ∨
    (∃ feature ∈ requirement.requiredFeatures.codes, feature ∉ evidence.features.codes ∧
      code = .incompatibleFeatureAbsent) ∨
    (∃ limit ∈ requirement.requiredLimits, compareLimit evidence limit = some code) ∨
    compareVersion requirement.minimumFirmwareVersion evidence.firmwareVersion
      .unknownFirmwareGenerationAbsent .incompatibleFirmwareGenerationTooLow = some code ∨
    compareGeneration requirement.minimumFirmwareGeneration evidence.firmwareGeneration
      .unknownFirmwareGenerationAbsent .incompatibleFirmwareGenerationTooLow = some code ∨
    compareVersion requirement.minimumRuntimeVersion evidence.runtimeVersion
      .unknownRuntimeGenerationAbsent .incompatibleRuntimeGenerationTooLow = some code ∨
    compareGeneration requirement.minimumRuntimeGeneration evidence.runtimeGeneration
      .unknownRuntimeGenerationAbsent .incompatibleRuntimeGenerationTooLow = some code := by
  have hversion : code ∈ (if requirement.version.satisfiedBy evidence.capabilityVersion then []
      else [ReasonCode.incompatibleVersionTooLow]) ↔
      requirement.version.satisfiedBy evidence.capabilityVersion = false ∧ code = .incompatibleVersionTooLow := by
    cases requirement.version.satisfiedBy evidence.capabilityVersion <;> simp
  have hfeature : code ∈ (requirement.requiredFeatures.codes.filter
      (fun feature => !evidence.features.contains feature)).map (fun _ => ReasonCode.incompatibleFeatureAbsent) ↔
      ∃ feature ∈ requirement.requiredFeatures.codes, feature ∉ evidence.features.codes ∧
        code = .incompatibleFeatureAbsent := by
    simp only [mem_map, mem_filter, FeatureSet.contains, contains_eq_mem, Bool.not_eq_true',
      decide_eq_false_iff_not, and_assoc, @eq_comm _ code]
  rw [shortcomings]
  simp only [mem_append, hversion, hfeature, mem_filterMap, Option.mem_toList, or_assoc]

/-- What a comparison finds are the codes of the unmet and the undecided parts. -/
theorem mem_shortcomings : code ∈ shortcomings requirement evidence ↔
    Unmet requirement evidence code ∨ Undecided requirement evidence code := by
  simp only [mem_shortcomings_parts, satisfiedBy_eq_false, compareLimit_eq_some, compareVersion_eq_some,
    compareGeneration_eq_some]
  constructor
  · rintro (⟨hbelow | ⟨bound, hbound, habove⟩, rfl⟩ | ⟨feature, hrequired, habsent, rfl⟩ |
      ⟨limit, hrequired, hlimit⟩ | hfirmware | hfirmwareGeneration | hruntime | hruntimeGeneration)
    · exact .inl (.belowVersion hbelow)
    · exact .inl (.aboveVersion bound hbound habove)
    · exact .inl (.feature feature hrequired habsent)
    · rcases hlimit with ⟨habsent, rfl⟩ | ⟨reported, hreported, ⟨hdimension, rfl⟩ | ⟨hdimension, hinexact, rfl⟩ |
        ⟨hless, rfl⟩⟩
      · exact .inr (.limitAbsent limit hrequired habsent)
      · exact .inr (.limitDimension limit reported hrequired hreported hdimension)
      · exact .inr (.limitInexact limit reported hrequired hreported hdimension hinexact)
      · exact .inl (.limit limit reported hrequired hreported hless)
    · rcases hfirmware with ⟨bound, hbound, habsent, rfl⟩ | ⟨bound, hbound, version, hversion, hless, rfl⟩
      · exact .inr (.firmwareVersion bound hbound habsent)
      · exact .inl (.firmwareVersion bound version hbound hversion hless)
    · rcases hfirmwareGeneration with ⟨bound, hbound, habsent, rfl⟩ | ⟨bound, hbound, hreported, hless, rfl⟩
      · exact .inr (.firmwareGeneration bound hbound habsent)
      · exact .inl (.firmwareGeneration bound hbound hreported hless)
    · rcases hruntime with ⟨bound, hbound, habsent, rfl⟩ | ⟨bound, hbound, version, hversion, hless, rfl⟩
      · exact .inr (.runtimeVersion bound hbound habsent)
      · exact .inl (.runtimeVersion bound version hbound hversion hless)
    · rcases hruntimeGeneration with ⟨bound, hbound, habsent, rfl⟩ | ⟨bound, hbound, hreported, hless, rfl⟩
      · exact .inr (.runtimeGeneration bound hbound habsent)
      · exact .inl (.runtimeGeneration bound hbound hreported hless)
  · rintro (hunmet | hundecided)
    · cases hunmet <;> grind
    · cases hundecided <;> grind

theorem mem_canonicalReasons {reason : ReasonCode} : reason ∈ canonicalReasons reasons ↔ reason ∈ reasons :=
  Scan.mem_sortUniqueBy Function.injective_id

theorem mem_compareRequirement : code ∈ (compareRequirement requirement evidence).2 ↔
    Unmet requirement evidence code ∨ Undecided requirement evidence code :=
  mem_canonicalReasons.trans mem_shortcomings

/-- Some code of a category is among the reasons. -/
theorem any_category {category : ReasonCategory} : reasons.any (fun reason => reason.category == category) = true ↔
      ∃ code ∈ reasons, ReasonCode.category code = category := by
  simp only [any_eq_true, beq_iff_eq]

/-- The categories of the reasons tell which kinds of parts there are. -/
theorem any_incompatible : (compareRequirement requirement evidence).2.any
    (fun reason => reason.category == .incompatible) = true ↔ ∃ code, Unmet requirement evidence code := by
  rw [any_category]
  constructor
  · rintro ⟨code, hmem, hcategory⟩
    rcases mem_compareRequirement.mp hmem with hunmet | hundecided
    · exact ⟨code, hunmet⟩
    · rw [hundecided.category] at hcategory
      cases hcategory
  · rintro ⟨code, hunmet⟩
    exact ⟨code, mem_compareRequirement.mpr (.inl hunmet), hunmet.category⟩

theorem any_unknown : (compareRequirement requirement evidence).2.any
    (fun reason => reason.category == .unknown) = true ↔ ∃ code, Undecided requirement evidence code := by
  rw [any_category]
  constructor
  · rintro ⟨code, hmem, hcategory⟩
    rcases mem_compareRequirement.mp hmem with hunmet | hundecided
    · rw [hunmet.category] at hcategory
      cases hcategory
    · exact ⟨code, hundecided⟩
  · rintro ⟨code, hundecided⟩
    exact ⟨code, mem_compareRequirement.mpr (.inr hundecided), hundecided.category⟩

/-- The kind, from the parts: an unmet one decides, then an undecided one. -/
theorem compareRequirement_kind : (compareRequirement requirement evidence).1 =
    comparisonKind (compareRequirement requirement evidence).2 := rfl

theorem compareRequirement_incompatible_iff : (compareRequirement requirement evidence).1 = .incompatible ↔
    ∃ code, Unmet requirement evidence code := by
  rw [compareRequirement_kind, comparisonKind, ← any_incompatible]
  split
  next hunmet => simp [hunmet]
  next hmet =>
    rw [iff_false_right hmet]
    split <;> decide

theorem compareRequirement_unknown_iff : (compareRequirement requirement evidence).1 = .unknown ↔
    (¬ ∃ code, Unmet requirement evidence code) ∧ ∃ code, Undecided requirement evidence code := by
  rw [compareRequirement_kind, comparisonKind, ← any_incompatible, ← any_unknown]
  split_ifs <;> simp [*]

theorem compareRequirement_compatible_iff : (compareRequirement requirement evidence).1 = .compatible ↔
    (¬ ∃ code, Unmet requirement evidence code) ∧ ¬ ∃ code, Undecided requirement evidence code := by
  rw [compareRequirement_kind, comparisonKind, ← any_incompatible, ← any_unknown]
  split_ifs <;> simp [*]

/-- A comparison is compatible exactly when every part is met. -/
theorem compareRequirement_compatible :
    (compareRequirement requirement evidence).1 = .compatible ↔ Meets requirement evidence := by
  rw [← shortcomings_eq_nil, compareRequirement_compatible_iff, ← not_or, ← exists_or,
    eq_nil_iff_forall_not_mem, not_exists]
  simp only [mem_shortcomings]

/-- A comparison is incompatible only when a part fails. -/
theorem compareRequirement_incompatible (h : (compareRequirement requirement evidence).1 = .incompatible) :
    Fails requirement evidence := by
  obtain ⟨code, hunmet⟩ := compareRequirement_incompatible_iff.mp h
  exact hunmet.fails

theorem compareRequirement_ne_conflicted : (compareRequirement requirement evidence).1 ≠ .conflicted := by
  rw [compareRequirement]
  dsimp only
  rw [comparisonKind]
  split
  · decide
  · split <;> decide

/-- The comparison is a three-valued conjunction of the parts, told with exactly their codes. -/
theorem comparison_is_conjunction (requirement : CapabilityRequirement) (evidence : CapabilityEvidence) :
    ((compareRequirement requirement evidence).1 = .incompatible ↔ ∃ code, Unmet requirement evidence code) ∧
    ((compareRequirement requirement evidence).1 = .unknown ↔
      (¬ ∃ code, Unmet requirement evidence code) ∧ ∃ code, Undecided requirement evidence code) ∧
    ((compareRequirement requirement evidence).1 = .compatible ↔
      (¬ ∃ code, Unmet requirement evidence code) ∧ ¬ ∃ code, Undecided requirement evidence code) ∧
    (∀ code, code ∈ (compareRequirement requirement evidence).2 ↔
      Unmet requirement evidence code ∨ Undecided requirement evidence code) ∧
    (compareRequirement requirement evidence).2.Pairwise (· < ·) :=
  ⟨compareRequirement_incompatible_iff, compareRequirement_unknown_iff, compareRequirement_compatible_iff,
    fun _ => mem_compareRequirement, Scan.sortUniqueBy_sorted id _⟩

end Requirement

end Ocreg
