/-
Module: Ocreg.Codec.Values
Purpose: Canonical encodings of versions, units, feature and limit sets. For each type: the values its decoder accepts
  (`WF`), the round trip on them, and that decoding yields nothing else.
-/
import Ocreg.Codec.Primitives

namespace Ocreg

open Decoder Reader

/-! ### Versions and units -/

namespace SemVer

def encode (value : SemVer) : Bytes :=
  Writer.u32 value.major ++ (Writer.u32 value.minor ++ (Writer.u32 value.patch ++
    (Writer.str value.prerelease ++ Writer.str value.build)))

/-- The decoded parts are parsed again through the canonical text form. -/
def decode : Reader SemVer := do
  let major ← Reader.u32
  let minor ← Reader.u32
  let patch ← Reader.u32
  let prerelease ← Reader.str
  let build ← Reader.str
  ensure (prerelease.length ≤ kMaxSemVerQualifierLength ∧ build.length ≤ kMaxSemVerQualifierLength)
    .rejectedOversizedInput
  Decoder.expect .rejectedMalformedVersion (parse? (textOf major minor patch prerelease build))

theorem qualifier_put {qualifier rest : Bytes} {enforce : Bool}
    (h : qualifier = [] ∨ parseIdentifiers qualifier enforce = true) :
    Reader.str.run (Writer.str qualifier ++ rest) = .ok (qualifier, rest) := by
  have hlength := qualifier_length_le h
  simp only [kMaxSemVerQualifierLength] at hlength
  apply str_put
  omega

theorem parse?_textOf (value : SemVer) :
    parse? (textOf value.major value.minor value.patch value.prerelease value.build) = some value :=
  parse?_str value

theorem roundTrip (value : SemVer) : RoundTrip encode decode value := by
  intro rest
  have hpre := qualifier_length_le value.prerelease_ok
  have hbuild := qualifier_length_le value.build_ok
  simp [encode, decode, run_bind, qualifier_put value.prerelease_ok, qualifier_put value.build_ok, hpre, hbuild,
    parse?_textOf]

end SemVer

namespace PhysicalUnit

def encode (value : PhysicalUnit) : Bytes :=
  Writer.u16 value.code.info.numeric ++ (Writer.u8 value.scale.numeric ++ Writer.u8 value.exponent)

def decode : Reader PhysicalUnit := do
  let code ← u16
  let scale ← u8
  let exponent ← u8
  let scale ← Decoder.expect .rejectedLimitUnitScaleInvalid (UnitScale.ofNumeric? scale)
  let code ← Decoder.expect .rejectedLimitUnitInvalid (UnitCode.ofNumeric? code)
  ensure (unitIsWellFormed ⟨code, scale, exponent⟩) .rejectedLimitUnitInvalid
  pure ⟨code, scale, exponent⟩

theorem roundTrip {value : PhysicalUnit} (h : unitIsWellFormed value = true) : RoundTrip encode decode value := by
  intro rest
  simp [encode, decode, run_bind, h]

end PhysicalUnit

/-! ### Feature and limit sets -/

def decodeKind : Reader CapabilityKind := enum CapabilityKind.ofCode? .rejectedUnknownCapabilityKind

@[simp] theorem decodeKind_put (kind : CapabilityKind) (rest : Bytes) :
    decodeKind.run (Writer.u16 kind.code ++ rest) = .ok (kind, rest) :=
  enum_put _ (CapabilityKind.ofCode?_code kind) rest

def decodeFeatureCode : Reader FeatureCode := do
  let raw ← u32
  ensure ((featureInfo raw).isSome) .rejectedUnknownFeatureCode
  pure raw

def decodeLimitCode : Reader LimitCode := do
  let raw ← u32
  ensure ((limitInfo raw).isSome) .rejectedUnknownLimitCode
  pure raw

/-- Bounded, with known codes. -/
structure FeatureSet.WF (set : FeatureSet) : Prop where
  size_le : set.codes.length ≤ kMaxFeaturesPerRecord
  known : ∀ code ∈ set.codes, (featureInfo code).isSome

def FeatureSet.encode (set : FeatureSet) : Bytes := Writer.collection Writer.u32 set.codes

def FeatureSet.decode : Reader FeatureSet := do
  let count ← u32
  ensure (count.toNat ≤ kMaxFeaturesPerRecord) .rejectedFeatureBudgetExceeded
  let codes ← repeatAscending decodeFeatureCode id .rejectedDuplicateKey count.toNat none
  pure (FeatureSet.fromValidated codes)

theorem FeatureSet.roundTrip {set : FeatureSet} (h : set.WF) : RoundTrip encode decode set := by
  intro rest
  have hcount : (UInt32.ofNat set.codes.length).toNat = set.codes.length :=
    UInt32.toNat_ofNat_of_lt' (h.size_le.trans_lt (by decide))
  have helem : ∀ code ∈ set.codes, RoundTrip Writer.u32 decodeFeatureCode code := by
    intro code hcode tail
    simp [decodeFeatureCode, run_bind, h.known code hcode]
  have hcodes := repeatAscending_roundTrip ReasonCode.rejectedDuplicateKey none helem set.sorted (by simp) rest
  simp [encode, decode, Writer.collection, run_bind, hcount, h.size_le, hcodes, fromValidated_codes]

theorem FeatureSet.decode_yields : FeatureSet.decode.Yields FeatureSet.WF := by
  have hcode : decodeFeatureCode.Yields (fun code => (featureInfo code).isSome = true) := by
    refine .bind_any fun raw => ?_
    exact .ensure fun h => .pure h
  refine .bind_any fun count => ?_
  refine .ensure fun hcount => ?_
  refine .bind (repeatAscending_yields hcode _ _) fun codes h => .pure ?_
  obtain ⟨hlen, hknown, hsorted, -⟩ := h
  have hcodes : (FeatureSet.fromValidated codes).codes = codes := Scan.sortUniqueBy_of_sorted hsorted
  exact ⟨by rw [hcodes, hlen]; exact hcount, by rw [hcodes]; exact hknown⟩

/-- A known, non-negative limit in a unit its code permits. -/
structure LimitValue.WF (limit : LimitValue) : Prop where
  nonneg : 0 ≤ limit.value
  unit_valid : unitValidForLimit limit.code limit.unit = true

def LimitValue.encode (limit : LimitValue) : Bytes :=
  Writer.u32 limit.code ++ (limit.unit.encode ++ Writer.i64 limit.value)

/-- Shared body of the limit value and limit requirement decoders. -/
def decodeLimitParts : Reader (LimitCode × PhysicalUnit × Int64) := do
  let code ← decodeLimitCode
  let unit ← PhysicalUnit.decode
  let value ← i64
  ensure (0 ≤ value) .rejectedNegativeLimit
  ensure ((limitInfo code).isSome) .rejectedUnknownLimitCode
  ensure ((limitInfo code).map LimitInfo.unit = some unit.code) .rejectedLimitUnitInvalid
  ensure (unitValidForLimit code unit) .rejectedLimitScaleNotPermitted
  pure (code, unit, value)

def LimitValue.decode : Reader LimitValue := do
  let (code, unit, value) ← decodeLimitParts
  pure ⟨code, unit, value⟩

theorem decodeLimitParts_put {code : LimitCode} {unit : PhysicalUnit} {value : Int64}
    (hvalue : 0 ≤ value) (hunit : unitValidForLimit code unit = true) (rest : Bytes) :
    decodeLimitParts.run (Writer.u32 code ++ (unit.encode ++ (Writer.i64 value ++ rest)))
      = .ok ((code, unit, value), rest) := by
  obtain ⟨info, hinfo, hcode, hform⟩ := unitValidForLimit_spec hunit
  simp [decodeLimitParts, decodeLimitCode, run_bind, hinfo, hvalue, hunit, hcode, (PhysicalUnit.roundTrip hform).apply]

theorem decodeLimitParts_yields :
    decodeLimitParts.Yields (fun p => 0 ≤ p.2.2 ∧ unitValidForLimit p.1 p.2.1 = true) := by
  refine .bind_any (fun code => .bind_any (fun unit =>
    .bind_any (fun value => ?_)))
  refine .ensure fun hvalue => ?_
  refine .bind_any fun _ => .bind_any fun _ => ?_
  exact .ensure fun hunit => .pure ⟨hvalue, hunit⟩

theorem LimitValue.roundTrip {limit : LimitValue} (h : limit.WF) : RoundTrip encode decode limit := by
  intro rest
  simp [encode, decode, run_bind, decodeLimitParts_put h.nonneg h.unit_valid]

theorem LimitValue.decode_yields : LimitValue.decode.Yields LimitValue.WF :=
  .bind decodeLimitParts_yields (fun _ h => .pure ⟨h.1, h.2⟩)

/-- Bounded, with well-formed entries. -/
structure LimitSet.WF (set : LimitSet) : Prop where
  size_le : set.values.length ≤ kMaxLimitsPerRecord
  entries : ∀ limit ∈ set.values, limit.WF

def LimitSet.encode (set : LimitSet) : Bytes := Writer.collection LimitValue.encode set.values

def LimitSet.decode : Reader LimitSet := do
  let count ← u32
  ensure (count.toNat ≤ kMaxLimitsPerRecord) .rejectedLimitBudgetExceeded
  let values ← repeatAscending LimitValue.decode LimitValue.code .rejectedDuplicateKey count.toNat none
  pure (LimitSet.fromValidated values)

theorem LimitSet.roundTrip {set : LimitSet} (h : set.WF) : RoundTrip encode decode set := by
  intro rest
  have hcount : (UInt32.ofNat set.values.length).toNat = set.values.length :=
    UInt32.toNat_ofNat_of_lt' (h.size_le.trans_lt (by decide))
  have helem : ∀ limit ∈ set.values, RoundTrip LimitValue.encode LimitValue.decode limit :=
    fun limit hlimit => LimitValue.roundTrip (h.entries limit hlimit)
  have hvalues := repeatAscending_roundTrip ReasonCode.rejectedDuplicateKey none helem set.sorted (by simp) rest
  simp [encode, decode, Writer.collection, run_bind, hcount, h.size_le, hvalues, fromValidated_values]

theorem LimitSet.decode_yields : LimitSet.decode.Yields LimitSet.WF := by
  refine .bind_any fun count => ?_
  refine .ensure fun hcount => ?_
  refine .bind (repeatAscending_yields LimitValue.decode_yields _ _) (fun values h => .pure ?_)
  obtain ⟨hlen, hentries, hsorted, -⟩ := h
  have hvalues : (LimitSet.fromValidated values).values = values := Scan.sortUniqueBy_of_sorted hsorted
  exact ⟨by rw [hvalues, hlen]; exact hcount, by rw [hvalues]; exact hentries⟩

end Ocreg
