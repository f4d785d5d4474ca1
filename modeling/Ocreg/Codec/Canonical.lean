/-
Module: Ocreg.Codec.Canonical
Purpose: What the readers leave open: every reader accepts only the encoding of the value it returns, except
  the version reader, which parses its fields again through the text form and so lets a plus sign move from
  the pre-release into the build metadata.
-/
import Ocreg.Codec.State

namespace Ocreg

open Decoder (Consumes ensure)
open List Reader

variable {α : Type} {version : Reader SemVer}

/-! ### Primitives -/

namespace Reader

theorem u8_canonical : Canonical Writer.u8 u8 := by
  refine Consumes.bind (takeBE_consumes _ 1) ?_
  rintro value _ ⟨rfl, hlt⟩
  refine .pure ?_
  simp [Writer.u8, putBE]

theorem u16_canonical : Canonical Writer.u16 u16 := by
  refine Consumes.bind (takeBE_consumes _ 2) ?_
  rintro value _ ⟨rfl, hlt⟩
  refine .pure ?_
  rw [append_nil, Writer.u16, UInt16.toNat_ofNat_of_lt' hlt]

theorem u32_canonical : Canonical Writer.u32 u32 := by
  refine Consumes.bind (takeBE_consumes _ 4) ?_
  rintro value _ ⟨rfl, hlt⟩
  refine .pure ?_
  rw [append_nil, Writer.u32, UInt32.toNat_ofNat_of_lt' hlt]

theorem u64_canonical : Canonical Writer.u64 u64 := by
  refine Consumes.bind (takeBE_consumes _ 8) ?_
  rintro value _ ⟨rfl, hlt⟩
  refine .pure ?_
  rw [append_nil, Writer.u64, UInt64.toNat_ofNat_of_lt' hlt]

theorem i64_canonical : Canonical Writer.i64 i64 :=
  u64_canonical.bind (fun raw => .pure (by simp [Writer.i64]))

theorem boolean_canonical : Canonical Writer.boolean boolean := by
  refine u8_canonical.bind fun raw => .ensure fun hle => .pure ?_
  have hcases : raw = 0 ∨ raw = 1 := by
    rw [UInt8.le_iff_toNat_le] at hle
    rcases Nat.le_one_iff_eq_zero_or_eq_one.mp hle with h | h
    · exact .inl (UInt8.toNat_inj.mp h)
    · exact .inr (UInt8.toNat_inj.mp h)
  rcases hcases with rfl | rfl <;> rfl

theorem str_canonical : Canonical Writer.str str := by
  refine u32_canonical.bind fun length => ?_
  refine (takeBytes_consumes _ _).mono ?_
  rintro bytes _ ⟨rfl, hlength⟩
  rw [Writer.str, hlength, UInt32.ofNat_toNat]

theorem name_canonical : Canonical Writer.name name := by
  refine u8_canonical.bind fun length => .ensure fun _ => ?_
  refine Consumes.bind (takeBytes_consumes _ _) ?_
  rintro view _ ⟨rfl, hlength⟩
  refine .expect fun parsed hparsed => ?_
  have hchars : parsed.chars = view := by
    rw [Option.mem_def, Name.parse?] at hparsed
    split at hparsed
    next =>
      cases hparsed
      rfl
    next => cases hparsed
  rw [Writer.name, hchars, hlength, UInt8.ofNat_toNat, append_nil]
  rfl

theorem digest_canonical : Canonical Writer.digest digest := by
  refine Consumes.bind (takeBytes_consumes _ _) ?_
  rintro bytes _ ⟨rfl, hlength⟩
  rw [dif_pos hlength]
  exact .pure (append_nil bytes)

/-- An enumeration whose values are looked up by their numbers. -/
theorem listed_canonical {values : List α} {failure : ReasonCode} (numeric : α → UInt16) :
    Canonical (fun value => Writer.u16 (numeric value))
      (enum (fun raw => values.find? (fun value => numeric value == raw)) failure) := by
  refine u16_canonical.bind fun raw => .expect fun value hvalue => ?_
  simp only [append_nil, Scan.key_of_find? numeric hvalue]

theorem reason_canonical : Canonical Writer.reason reason :=
  listed_canonical ReasonCode.numeric

theorem optional_canonical {enc : α → Bytes} {dec : Reader α} (h : Canonical enc dec) :
    Canonical (Writer.optional enc) (optional dec) := by
  refine u8_canonical.bind fun flag => ?_
  split
  next hzero => exact .pure (by rw [hzero]; rfl)
  next =>
    refine .ensure fun hone => h.bind fun a => .pure ?_
    rw [hone, append_nil]
    rfl

theorem collection_canonical {enc : α → Bytes} {dec : Reader α} (h : Canonical enc dec) (bound : Nat)
    (oversized : ReasonCode) : Canonical (Writer.collection enc) (collection dec bound oversized) := by
  refine u32_canonical.bind fun count => .ensure fun _ => ?_
  have hany : dec.Yields (fun _ => True) := fun _ _ _ _ => trivial
  refine ((repeatN_canonical h count.toNat).and (repeatN_yields hany count.toNat)).mono ?_
  rintro as _ ⟨rfl, hlength, _⟩
  rw [Writer.collection, hlength, UInt32.ofNat_toNat]

end Reader

/-! ### Versions -/

namespace SemVer

/-- The version reader with one more check: the pre-release as spelled holds no plus sign. -/
def decodeStrict : Reader SemVer := do
  let major ← Reader.u32
  let minor ← Reader.u32
  let patch ← Reader.u32
  let prerelease ← Reader.str
  let build ← Reader.str
  ensure (prerelease.length ≤ kMaxSemVerQualifierLength ∧ build.length ≤ kMaxSemVerQualifierLength)
    .rejectedOversizedInput
  ensure (43 ∉ prerelease) .rejectedMalformedVersion
  Decoder.expect .rejectedMalformedVersion (parse? (textOf major minor patch prerelease build))

theorem decodeStrict_roundTrip (value : SemVer) : RoundTrip encode decodeStrict value := by
  intro rest
  have hpre := qualifier_length_le value.prerelease_ok
  have hbuild := qualifier_length_le value.build_ok
  have hplus := notMem_qualifier value.prerelease_ok
  simp [encode, decodeStrict, Decoder.run_bind, qualifier_put value.prerelease_ok, qualifier_put value.build_ok,
    hpre, hbuild, hplus, parse?_textOf]

theorem decodeStrict_canonical : Canonical encode decodeStrict := by
  refine u32_canonical.bind fun major => u32_canonical.bind fun minor => ?_
  refine u32_canonical.bind fun patch => str_canonical.bind fun prerelease => ?_
  refine str_canonical.bind fun build => .ensure fun _ => .ensure fun hplus => ?_
  refine .expect fun version hversion => ?_
  obtain ⟨hmajor, hminor, hpatch, hprerelease, hbuild⟩ := parts_of_parse? hversion hplus
  rw [encode, hmajor, hminor, hpatch, hprerelease, hbuild, append_nil]

end SemVer

/-! ### Units, features and limits -/

theorem PhysicalUnit.decode_canonical : Canonical encode decode := by
  refine u16_canonical.bind fun code => u8_canonical.bind fun scale => ?_
  refine u8_canonical.bind fun exponent => ?_
  have hscale : (Decoder.expect .rejectedLimitUnitScaleInvalid (UnitScale.ofNumeric? scale) :
      Reader UnitScale).Consumes (fun parsed used => used = [] ∧ parsed.numeric = scale) :=
    .expect (fun parsed hparsed => ⟨rfl, Scan.key_of_find? UnitScale.numeric hparsed⟩)
  have hcode : (Decoder.expect .rejectedLimitUnitInvalid (UnitCode.ofNumeric? code) :
      Reader UnitCode).Consumes (fun parsed used => used = [] ∧ parsed.info.numeric = code) :=
    .expect (fun parsed hparsed => ⟨rfl, Scan.key_of_find? (fun unit => UnitCode.info unit |>.numeric) hparsed⟩)
  refine Consumes.bind hscale ?_
  rintro parsedScale _ ⟨rfl, rfl⟩
  refine Consumes.bind hcode ?_
  rintro parsedCode _ ⟨rfl, rfl⟩
  exact .ensure fun _ => .pure (by simp [encode])

theorem decodeKind_canonical : Canonical (fun kind => Writer.u16 kind.code) decodeKind :=
  listed_canonical CapabilityKind.code

theorem decodeFeatureCode_canonical : Canonical Writer.u32 decodeFeatureCode :=
  u32_canonical.bind (fun _ => .ensure (fun _ => .pure (append_nil _)))

theorem decodeLimitCode_canonical : Canonical Writer.u32 decodeLimitCode :=
  u32_canonical.bind (fun _ => .ensure (fun _ => .pure (append_nil _)))

section Ascending

variable {enc : α → Bytes} {dec : Reader α} {key : α → UInt32}

/-- A counted ascending list spells its count and its elements, and comes back sorted. -/
theorem repeatAscending_counted (h : Canonical enc dec) (disorder : ReasonCode) (count : UInt32) :
    (repeatAscending dec key disorder count.toNat none).Consumes (fun as used =>
      Writer.u32 count ++ used = Writer.collection enc as ∧ Scan.SortedBy key as) := by
  have hany : dec.Yields (fun _ => True) := fun _ _ _ _ => trivial
  refine ((repeatAscending_canonical key disorder h count.toNat none).and
    (repeatAscending_yields hany count.toNat none)).mono ?_
  rintro as _ ⟨rfl, hlength, _, hsorted, _⟩
  rw [Writer.collection, hlength, UInt32.ofNat_toNat]
  exact ⟨rfl, hsorted⟩

end Ascending

theorem FeatureSet.decode_canonical : Canonical encode decode := by
  refine u32_canonical.bind fun count => .ensure fun _ => ?_
  refine Consumes.bind (repeatAscending_counted decodeFeatureCode_canonical _ count) ?_
  rintro codes used ⟨hused, hsorted⟩
  refine .pure ?_
  have hcodes : (fromValidated codes).codes = codes := Scan.sortUniqueBy_of_sorted hsorted
  rw [append_nil, hused, encode, hcodes]

/-- The three fields of a limit value or limit requirement. -/
def limitParts (parts : LimitCode × PhysicalUnit × Int64) : Bytes :=
  Writer.u32 parts.1 ++ (parts.2.1.encode ++ Writer.i64 parts.2.2)

theorem decodeLimitParts_canonical : Canonical limitParts decodeLimitParts := by
  refine decodeLimitCode_canonical.bind fun code => PhysicalUnit.decode_canonical.bind fun unit => ?_
  refine i64_canonical.bind fun value => .ensure fun _ => .ensure fun _ => ?_
  refine .ensure fun _ => .ensure fun _ => .pure ?_
  simp [limitParts]

theorem LimitValue.decode_canonical : Canonical encode decode :=
  decodeLimitParts_canonical.bind (fun _ => .pure (append_nil _))

theorem LimitSet.decode_canonical : Canonical encode decode := by
  refine u32_canonical.bind fun count => .ensure fun _ => ?_
  refine Consumes.bind (repeatAscending_counted LimitValue.decode_canonical _ count) ?_
  rintro values used ⟨hused, hsorted⟩
  refine .pure ?_
  have hvalues : (fromValidated values).values = values := Scan.sortUniqueBy_of_sorted hsorted
  rw [append_nil, hused, encode, hvalues]

theorem LimitRequirement.decode_canonical : Canonical encode decode :=
  decodeLimitParts_canonical.bind (fun _ => .pure (append_nil _))

/-! ### Identities, records and tables -/

theorem DeviceIdentity.decode_canonical : Canonical encode decode := by
  refine name_canonical.bind fun provider => name_canonical.bind fun model => ?_
  refine u32_canonical.bind fun unitIndex => .ensure fun _ => ?_
  exact (optional_canonical name_canonical).bind fun serial => .pure (by simp [encode])

theorem DeviceIncarnationRef.decode_canonical : Canonical encode decode := by
  refine DeviceIdentity.decode_canonical.bind fun device => u64_canonical.bind fun incarnation => ?_
  exact .ensure fun _ => .pure (by simp [encode])

theorem SourceIncarnation.decode_canonical : Canonical encode decode :=
  name_canonical.bind (fun _ => u64_canonical.bind (fun _ => .pure (by simp [encode])))

theorem EvidenceKey.decode_canonical : Canonical encode decode := by
  refine DeviceIncarnationRef.decode_canonical.bind fun device => decodeKind_canonical.bind fun kind => ?_
  exact name_canonical.bind fun source => .pure (by simp [encode])

theorem authority_canonical : Canonical (fun rank => Writer.u16 (AuthorityRank.numeric rank))
    (enum AuthorityRank.ofNumeric? .rejectedMalformedDocument) :=
  listed_canonical AuthorityRank.numeric

section Versions

section

variable (hversion : Canonical SemVer.encode version)

include hversion

theorem CapabilityEvidence.decodeWith_canonical : Canonical encode (decodeWith version) := by
  have hoptional := optional_canonical hversion
  have hu64 := u64_canonical
  refine EvidenceKey.decode_canonical.bind fun key => SourceIncarnation.decode_canonical.bind fun source => ?_
  refine hversion.bind fun capabilityVersion => FeatureSet.decode_canonical.bind fun features => ?_
  refine LimitSet.decode_canonical.bind fun limits => hoptional.bind fun firmwareVersion => ?_
  refine hu64.bind fun firmwareGeneration => hoptional.bind fun runtimeVersion => ?_
  refine hu64.bind fun runtimeGeneration => hu64.bind fun observedAt => ?_
  refine (optional_canonical hu64).bind fun validUntil => hu64.bind fun generation => ?_
  refine authority_canonical.bind fun authority => hu64.bind fun epochAtIngest => ?_
  refine hu64.bind fun bootAtIngest => hu64.bind fun policyRevision => ?_
  refine .ensure fun _ => .ensure fun _ => .ensure fun _ => ?_
  refine .ensure fun _ => .pure ?_
  rw [append_nil]
  rfl

theorem StoredEvidence.decodeWith_canonical : Canonical encode (decodeWith version) := by
  refine (CapabilityEvidence.decodeWith_canonical hversion).bind fun evidence => ?_
  refine (listed_canonical EvidenceLifecycle.numeric).bind fun _ => ?_
  refine reason_canonical.bind fun _ => u64_canonical.bind fun admittedAt => ?_
  refine (optional_canonical u64_canonical).bind fun retiredAt => ?_
  refine reason_canonical.bind fun _ => .ensure fun _ => .pure ?_
  simp [encode]

theorem AdmissionRequest.decodeWith_canonical : Canonical encode (decodeWith version) := by
  have hoptional := optional_canonical hversion
  have hu64 := u64_canonical
  refine DeviceIncarnationRef.decode_canonical.bind fun device => decodeKind_canonical.bind fun kind => ?_
  refine SourceIncarnation.decode_canonical.bind fun source => hversion.bind fun capabilityVersion => ?_
  refine FeatureSet.decode_canonical.bind fun features => LimitSet.decode_canonical.bind fun limits => ?_
  refine hoptional.bind fun firmwareVersion => hu64.bind fun firmwareGeneration => ?_
  refine hoptional.bind fun runtimeVersion => hu64.bind fun runtimeGeneration => ?_
  refine hu64.bind fun observedAt => (optional_canonical hu64).bind fun validUntil => ?_
  refine hu64.bind fun generation => .ensure fun _ => .ensure fun _ => .pure ?_
  rw [append_nil]
  rfl

theorem CapabilityRequirement.decodeWith_canonical : Canonical encode (decodeWith version) := by
  have hoptional := optional_canonical hversion
  have hoptionalU64 := optional_canonical u64_canonical
  refine DeviceIncarnationRef.decode_canonical.bind fun device => decodeKind_canonical.bind fun kind => ?_
  refine hversion.bind fun minimum => hoptional.bind fun maximumExclusive => ?_
  refine FeatureSet.decode_canonical.bind fun features => ?_
  refine u32_canonical.bind fun count => .ensure fun _ => ?_
  refine Consumes.bind (repeatAscending_counted LimitRequirement.decode_canonical _ count) ?_
  rintro limits used ⟨hused, _⟩
  refine hoptional.bind fun firmwareVersion => hoptionalU64.bind fun firmwareGeneration => ?_
  refine hoptional.bind fun runtimeVersion => hoptionalU64.bind fun runtimeGeneration => ?_
  refine u64_canonical.bind fun maxAge => .ensure fun _ => .ensure fun _ => ?_
  refine .pure ?_
  rw [encode, ← hused]
  simp only [append_assoc, append_nil]

end

end Versions

theorem RetirementRecord.decode_canonical : Canonical encode decode := by
  refine EvidenceKey.decode_canonical.bind fun key => u64_canonical.bind fun generation => ?_
  refine u64_canonical.bind fun retiredAt => reason_canonical.bind fun reason => ?_
  refine u64_canonical.bind fun epoch => u64_canonical.bind fun policyRevision => ?_
  exact authority_canonical.bind fun authority => .ensure fun _ => .pure (by simp [encode])

theorem bounded_canonical {enc : α → Bytes} {dec : Reader α} (h : Canonical enc dec) :
    Canonical (Writer.collection enc) (bounded dec) := collection_canonical h _ _

theorem ConflictGroup.decode_canonical : Canonical encode decode := by
  have hany : u64.Yields (fun _ => True) := fun _ _ _ _ => trivial
  refine digest_canonical.bind fun id => DeviceIncarnationRef.decode_canonical.bind fun device => ?_
  refine decodeKind_canonical.bind fun kind => authority_canonical.bind fun authority => ?_
  refine (bounded_canonical digest_canonical).bind fun members => ?_
  refine u32_canonical.bind fun count => .ensure fun _ => ?_
  refine Consumes.bind ((repeatN_canonical u64_canonical count.toNat).and (repeatN_yields hany count.toNat)) ?_
  rintro generations _ ⟨rfl, hlength, _⟩
  refine u64_canonical.bind fun observedFirst => u64_canonical.bind fun observedLast => ?_
  refine .pure ?_
  have hgenerations : Writer.collection Writer.u64 generations
      = Writer.u32 count ++ generations.flatMap Writer.u64 := by
    rw [Writer.collection, hlength, UInt32.ofNat_toNat]
  rw [encode, hgenerations]
  simp only [append_assoc, append_nil]

theorem ConflictResolution.decode_canonical : Canonical encode decode := by
  refine digest_canonical.bind fun id => digest_canonical.bind fun conflict => ?_
  refine digest_canonical.bind fun chosen => ?_
  refine (bounded_canonical digest_canonical).bind fun members => name_canonical.bind fun _ => ?_
  refine u64_canonical.bind fun resolvedAt => u64_canonical.bind fun epoch => .pure ?_
  simp [encode]

theorem EvictionEntry.decode_canonical : Canonical encode decode := by
  refine digest_canonical.bind fun id => EvidenceKey.decode_canonical.bind fun key => ?_
  refine u64_canonical.bind fun generation => (listed_canonical EvidenceState.numeric).bind fun state => ?_
  exact reason_canonical.bind (fun reason => u64_canonical.bind (fun evictedAt =>
    .pure (by simp [encode])))

/-! ### Policy and state -/

theorem SourcePolicy.decode_canonical : Canonical encode decode := by
  refine name_canonical.bind fun id => (listed_canonical SourceKind.numeric).bind fun kind => ?_
  refine authority_canonical.bind fun _ => (listed_canonical SourceTrustState.numeric).bind fun trust => ?_
  refine u64_canonical.bind fun maxAge => ?_
  exact boolean_canonical.bind fun durable => .pure (by simp [encode])

theorem RegistryLimits.decode_canonical : Canonical encode decode := by
  iterate 15 refine u64_canonical.bind fun _ => ?_
  exact .pure (by simp [encode])

theorem RegistryPolicy.decode_canonical : Canonical encode decode := by
  have hu64 := u64_canonical
  refine (bounded_canonical SourcePolicy.decode_canonical).bind fun sources => ?_
  refine boolean_canonical.bind fun require => boolean_canonical.bind fun refuse => ?_
  refine (listed_canonical BootPolicy.numeric).bind fun boot => ?_
  refine (listed_canonical ClockMode.numeric).bind fun clock => hu64.bind fun horizon => ?_
  refine hu64.bind fun skew => hu64.bind fun maxAge => RegistryLimits.decode_canonical.bind fun limits => ?_
  refine hu64.bind fun rule => str_canonical.bind fun policyName => .ensure fun _ => ?_
  exact .pure (by simp [encode])

theorem RegistryCounters.decode_canonical : Canonical encode decode := by
  iterate 13 refine u64_canonical.bind fun _ => ?_
  exact .pure (by simp [encode])

theorem DeviceIncarnationEntry.decode_canonical : Canonical encode decode := by
  refine DeviceIdentity.decode_canonical.bind fun device => u64_canonical.bind fun current => ?_
  exact (bounded_canonical u64_canonical).bind fun history => .pure (by simp [encode])

theorem RegistryState.decodeWith_canonical (hversion : Canonical SemVer.encode version) :
    Canonical encode (decodeWith version) := by
  have hu64 := u64_canonical
  refine u32_canonical.bind fun format => .ensure ?_
  rintro rfl
  refine RegistryPolicy.decode_canonical.bind fun policy => hu64.bind fun epoch => hu64.bind fun rule => ?_
  refine hu64.bind fun policyRevision => hu64.bind fun bootEpoch => hu64.bind fun storeGeneration => ?_
  refine hu64.bind fun logicalTick => hu64.bind fun nextIncarnation => .ensure fun _ => ?_
  refine (bounded_canonical DeviceIncarnationEntry.decode_canonical).bind fun incarnations => ?_
  refine (bounded_canonical (StoredEvidence.decodeWith_canonical hversion)).bind fun records => ?_
  refine (bounded_canonical RetirementRecord.decode_canonical).bind fun tombstones => ?_
  refine (bounded_canonical ConflictGroup.decode_canonical).bind fun conflicts => ?_
  refine (bounded_canonical ConflictResolution.decode_canonical).bind fun resolutions => ?_
  refine (bounded_canonical EvictionEntry.decode_canonical).bind fun evictions => ?_
  refine RegistryCounters.decode_canonical.bind fun counters => .ensure fun _ => ?_
  refine .ensure fun _ => .ensure fun _ => .pure ?_
  rw [append_nil]
  rfl

end Ocreg
