/-
Module: Ocreg.Proofs.Weakening
Purpose: A requirement that asks for less never turns a yes into a no; at worst a unit stops converting exactly.
-/
import Ocreg.Proofs.Conversions
import Ocreg.Proofs.Decisions
import Ocreg.Proofs.Versions

namespace Ocreg

open Lab

variable {order : Ordering}

/-- The first requirement asks for at least as much as the second in every part. -/
structure CapabilityRequirement.Strengthens (strong weak : CapabilityRequirement) : Prop where
  version : ∀ v, strong.version.satisfiedBy v = true → weak.version.satisfiedBy v = true
  features : weak.requiredFeatures.codes ⊆ strong.requiredFeatures.codes
  limits : ∀ limit ∈ weak.requiredLimits, ∃ bound ∈ strong.requiredLimits,
    bound.code = limit.code ∧ bound.unit = limit.unit ∧ limit.minimum ≤ bound.minimum
  firmwareVersion : ∀ minimum ∈ weak.minimumFirmwareVersion, ∃ bound ∈ strong.minimumFirmwareVersion,
    minimum.precedenceCompare bound ≠ .gt
  firmwareGeneration : ∀ minimum ∈ weak.minimumFirmwareGeneration, ∃ bound ∈ strong.minimumFirmwareGeneration,
    minimum ≤ bound
  runtimeVersion : ∀ minimum ∈ weak.minimumRuntimeVersion, ∃ bound ∈ strong.minimumRuntimeVersion,
    minimum.precedenceCompare bound ≠ .gt
  runtimeGeneration : ∀ minimum ∈ weak.minimumRuntimeGeneration, ∃ bound ∈ strong.minimumRuntimeGeneration,
    minimum ≤ bound

/-- Units that were not found equal were checked on the way. -/
theorem compareExact_eq_trueOrder {lhs rhs : Int64} {lhsUnit rhsUnit : PhysicalUnit}
    (h : compareExact lhs lhsUnit rhs rhsUnit = some order) : order = trueOrder lhs lhsUnit rhs rhsUnit := by
  by_cases hunits : lhsUnit = rhsUnit
  · subst hunits
    rw [compareExact, if_pos rfl] at h
    cases h
    rw [trueOrder, compare_mul _ _ (factor_pos lhsUnit), compare_toInt]
  · have hformed : unitIsWellFormed lhsUnit = true ∧ unitIsWellFormed rhsUnit = true := by
      by_contra hbad
      rw [← Bool.and_eq_true, Bool.not_eq_true, Bool.and_eq_false_iff] at hbad
      rw [compareExact, if_neg hunits] at h
      rcases hbad with hbad | hbad <;> simp [convertExact, hbad] at h
    exact compareExact_sound lhs rhs hformed.1 hformed.2 (dimension_of_compareExact h) h

/-- What reaches a minimum reaches every lower one in the same unit. -/
theorem not_below_of_le {value low high : Int64} {reported unit : PhysicalUnit}
    (hle : low ≤ high) (hhigh : compareExact value reported high unit = some order) (hmet : order ≠ .lt) :
    compareExact value reported low unit ≠ some .lt := by
  intro hlow
  have hbelow := compare_lt_iff_lt.mp (compareExact_eq_trueOrder hlow).symm
  rw [compareExact_eq_trueOrder hhigh] at hmet
  refine hmet (compare_lt_iff_lt.mpr (hbelow.trans_le ?_))
  exact mul_le_mul_of_nonneg_right (Int64.le_iff_toInt_le.mp hle) (Int.natCast_nonneg _)

section Weaker

variable {strong weak : CapabilityRequirement} {evidence : CapabilityEvidence} {code : ReasonCode}

theorem version_reached {low high reported : Option SemVer}
    (hle : ∀ minimum ∈ low, ∃ bound ∈ high, minimum.precedenceCompare bound ≠ .gt)
    (h : ∀ bound ∈ high, ∃ version ∈ reported, version.precedenceCompare bound ≠ .lt) :
    ∀ minimum ∈ low, ∃ version ∈ reported, version.precedenceCompare minimum ≠ .lt := by
  intro minimum hminimum
  obtain ⟨bound, hbound, hless⟩ := hle minimum hminimum
  obtain ⟨version, hversion, hmet⟩ := h bound hbound
  exact ⟨version, hversion, (SemVer.compares_precedence _ _).ne_lt.mpr
    (((SemVer.compares_precedence _ _).ne_gt.mp hless).trans ((SemVer.compares_precedence _ _).ne_lt.mp hmet))⟩

theorem generation_reached {low high : Option UInt64} {reported : UInt64}
    (hle : ∀ minimum ∈ low, ∃ bound ∈ high, minimum ≤ bound)
    (h : ∀ bound ∈ high, reported ≠ 0 ∧ bound ≤ reported) : ∀ minimum ∈ low, reported ≠ 0 ∧ minimum ≤ reported := by
  intro minimum hminimum
  obtain ⟨bound, hbound, hless⟩ := hle minimum hminimum
  exact (h bound hbound).imp_right hless.trans

/-- All that evidence which meets a requirement can fall short of in a weaker one is an exact conversion. -/
theorem Meets.shortcoming (h : Meets strong evidence) (hweaker : strong.Strengthens weak)
    (hcode : code ∈ shortcomings weak evidence) : code = .unknownInexactUnitConversion := by
  rcases mem_shortcomings_parts.mp hcode with ⟨hversion, _⟩ | ⟨feature, hrequired, habsent, _⟩ |
    ⟨limit, hrequired, hlimit⟩ | hpart | hpart | hpart | hpart
  · rw [hweaker.version _ h.version] at hversion
    cases hversion
  · have hpresent := h.features feature (hweaker.features hrequired)
    exact absurd (by simpa [FeatureSet.contains] using hpresent) habsent
  · obtain ⟨bound, hbound, hsame, hunit, hle⟩ := hweaker.limits limit hrequired
    obtain ⟨found, hfound, hdimension, order, horder, hmet⟩ := h.limits bound hbound
    rw [hsame] at hfound
    rw [hunit] at hdimension horder
    rcases compareLimit_eq_some.mp hlimit with ⟨habsent, _⟩ | ⟨reported, hreported, hshort⟩
    · cases habsent.symm.trans hfound
    · cases hreported.symm.trans hfound
      rcases hshort with ⟨hother, _⟩ | ⟨_, _, hinexact⟩ | ⟨hless, _⟩
      · exact absurd hdimension hother
      · exact hinexact
      · exact absurd hless (not_below_of_le hle horder hmet)
  · rw [compareVersion_eq_none.mpr (version_reached hweaker.firmwareVersion h.firmwareVersion)] at hpart
    cases hpart
  · rw [compareGeneration_eq_none.mpr (generation_reached hweaker.firmwareGeneration h.firmwareGeneration)] at hpart
    cases hpart
  · rw [compareVersion_eq_none.mpr (version_reached hweaker.runtimeVersion h.runtimeVersion)] at hpart
    cases hpart
  · rw [compareGeneration_eq_none.mpr (generation_reached hweaker.runtimeGeneration h.runtimeGeneration)] at hpart
    cases hpart

/-- Weakening a requirement that is met never makes it incompatible, and leaves it open for one reason only. -/
theorem weaker_never_incompatible (hweaker : strong.Strengthens weak)
    (h : (compareRequirement strong evidence).1 = .compatible) :
    (compareRequirement weak evidence).1 ≠ .incompatible ∧
    ((compareRequirement weak evidence).1 = .unknown →
      ∀ reason, reason ∈ (compareRequirement weak evidence).2 ↔ reason = .unknownInexactUnitConversion) := by
  have honly : ∀ reason ∈ (compareRequirement weak evidence).2, reason = .unknownInexactUnitConversion :=
    fun _ hreason =>
    (compareRequirement_compatible.mp h).shortcoming hweaker (mem_canonicalReasons.mp hreason)
  refine ⟨?_, ?_⟩
  · intro hno
    obtain ⟨code, hunmet⟩ := compareRequirement_incompatible_iff.mp hno
    have hcategory := hunmet.category
    rw [honly code (mem_compareRequirement.mpr (.inl hunmet))] at hcategory
    cases hcategory
  · intro hunknown
    obtain ⟨_, code, hopen⟩ := compareRequirement_unknown_iff.mp hunknown
    have hmem := mem_compareRequirement.mpr (.inr hopen)
    exact fun reason => ⟨honly reason, fun hreason => hreason ▸ honly code hmem ▸ hmem⟩

end Weaker

/-- A report of a third firmware generation, asked for the third and then for the second. -/
theorem weaker_never_incompatible_firmware :
    (compareRequirement { requirement with minimumFirmwareGeneration := some 2 }
      { (Registry.init policy).evidenceOf (request 0 1 5) with firmwareGeneration := 3 }).1 ≠ .incompatible :=
  (@weaker_never_incompatible { requirement with minimumFirmwareGeneration := some 3 } _ _
    ⟨fun _ h => h, fun _ h => h, by simp [requirement], by simp [requirement], by simp,
      by simp [requirement], by simp [requirement]⟩ (by decide +kernel)).1

end Ocreg
