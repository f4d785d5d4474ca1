/-
Module: Ocreg.Proofs.StateCodec
Purpose: The state codec in both directions: every well-formed state is read back from its encoding, and the
  bytes the decoders accept are the encoding of what they return unless a version is spelled with a plus sign
  inside its pre-release.
-/
import Ocreg.Codec.Canonical
import Ocreg.Registry.Step

namespace Ocreg

open List Lab

variable {kind : CapabilityKind}

/-! ### The catalog bounds a record's sets -/

/-- The codes of the features of a kind. -/
def allowedFeatures (kind : CapabilityKind) : List FeatureCode :=
  (kFeatures.filter (fun info => info.kindMask &&& kind.bit != 0)).map FeatureInfo.code

def allowedLimits (kind : CapabilityKind) : List LimitCode :=
  (kLimits.filter (fun info => info.kindMask &&& kind.bit != 0)).map LimitInfo.code

theorem mem_allowedFeatures {code : FeatureCode}
    (h : featureAllowedFor code kind = true) : code ∈ allowedFeatures kind := by
  rw [featureAllowedFor] at h
  cases hinfo : featureInfo code with
  | none => simp [hinfo] at h
  | some info =>
    rw [hinfo] at h
    have hcode : info.code = code := Scan.key_of_find? FeatureInfo.code hinfo
    exact mem_map.mpr ⟨info, mem_filter.mpr ⟨mem_of_find?_eq_some hinfo, h⟩, hcode⟩

theorem mem_allowedLimits {code : LimitCode} (h : limitAllowedFor code kind = true) : code ∈ allowedLimits kind := by
  rw [limitAllowedFor] at h
  cases hinfo : limitInfo code with
  | none => simp [hinfo] at h
  | some info =>
    rw [hinfo] at h
    have hcode : info.code = code := Scan.key_of_find? LimitInfo.code hinfo
    exact mem_map.mpr ⟨info, mem_filter.mpr ⟨mem_of_find?_eq_some hinfo, h⟩, hcode⟩

theorem allowedFeatures_length_le (kind : CapabilityKind) : (allowedFeatures kind).length ≤ kMaxFeaturesPerRecord := by
  cases kind <;> decide

theorem allowedLimits_length_le (kind : CapabilityKind) : (allowedLimits kind).length ≤ kMaxLimitsPerRecord := by
  cases kind <;> decide

/-- Codes that strictly increase and all come from a list are no more than the list has. -/
theorem length_le_of_sorted {codes allowed : List UInt32} (hsorted : codes.Pairwise (· < ·))
    (h : ∀ code ∈ codes, code ∈ allowed) : codes.length ≤ allowed.length :=
  (subperm_of_subset (hsorted.imp ne_of_lt) h).length_le

theorem FeatureSet.wf_of_allowed {set : FeatureSet} (h : ∀ code ∈ set.codes, featureAllowedFor code kind = true) :
    set.WF where
  size_le := (length_le_of_sorted set.sorted (fun code hcode => mem_allowedFeatures (h code hcode))).trans
    (allowedFeatures_length_le kind)
  known code hcode := by
    obtain ⟨info, hinfo⟩ := featureInfo_of_allowed (h code hcode)
    rw [hinfo]
    rfl

theorem LimitSet.wf_of_allowed {set : LimitSet} (hentries : ∀ limit ∈ set.values, limit.WF)
    (h : ∀ limit ∈ set.values, limitAllowedFor limit.code kind = true) : set.WF where
  size_le := by
    have hsorted : (set.values.map LimitValue.code).Pairwise (· < ·) := pairwise_map.mpr set.sorted
    have hallowed : ∀ code ∈ set.values.map LimitValue.code, code ∈ allowedLimits kind := by
      intro code hcode
      obtain ⟨limit, hlimit, rfl⟩ := mem_map.mp hcode
      exact mem_allowedLimits (h limit hlimit)
    have hle := length_le_of_sorted hsorted hallowed
    rw [length_map] at hle
    exact hle.trans (allowedLimits_length_le kind)
  entries := hentries

/-! ### Well-formed states -/

/-- Evidence as admission builds it: valid identities, canonical limits, sets allowed for the kind, a generation
    and an upright window. The sizes of the sets follow from the catalog. -/
structure CapabilityEvidence.WellFormed (e : CapabilityEvidence) : Prop where
  key : e.key.WF
  source : e.sourceIncarnation.source.chars ≠ []
  limits : ∀ limit ∈ e.limits.values, limit.WF
  generation : e.generation ≠ 0
  window : ∀ tick ∈ e.validUntil, ¬ tick < e.observedAt
  features_allowed : ∀ code ∈ e.features.codes, featureAllowedFor code e.key.kind = true
  limits_allowed : ∀ limit ∈ e.limits.values, limitAllowedFor limit.code e.key.kind = true

theorem CapabilityEvidence.WellFormed.wf {e : CapabilityEvidence} (h : e.WellFormed) : e.WF :=
  { h with
    features := FeatureSet.wf_of_allowed h.features_allowed
    limits := LimitSet.wf_of_allowed h.limits h.limits_allowed }

structure StoredEvidence.WellFormed (r : StoredEvidence) : Prop where
  evidence : r.evidence.WellFormed
  retired : r.lifecycle = .retired → r.retiredAt.isSome

structure RegistryState.WellFormed (s : RegistryState) : Prop where
  policy : s.policy.WF
  sources : s.policy.sources.Pairwise (fun a b => a.id < b.id)
  next_incarnation : s.nextIncarnation ≠ 0
  incarnations : s.incarnations.length ≤ kMaxCollectionEntries ∧ ∀ entry ∈ s.incarnations, entry.WF
  records : s.records.length ≤ kMaxCollectionEntries ∧ ∀ record ∈ s.records, record.WellFormed
  tombstones : s.tombstones.length ≤ kMaxCollectionEntries ∧ ∀ tombstone ∈ s.tombstones, tombstone.WF
  conflicts : s.conflicts.length ≤ kMaxCollectionEntries ∧ ∀ group ∈ s.conflicts, group.WF
  resolutions : s.resolutions.length ≤ kMaxCollectionEntries ∧ ∀ resolution ∈ s.resolutions, resolution.WF
  evictions : s.evictions.length ≤ kMaxCollectionEntries ∧ ∀ entry ∈ s.evictions, entry.key.WF
  records_bound : s.records.length ≤ s.policy.limits.maxRecords.toNat
  tombstones_bound : s.tombstones.length ≤ s.policy.limits.maxTombstones.toNat

theorem RegistryState.WellFormed.wf {s : RegistryState} (h : s.WellFormed) : s.WF where
  policy := h.policy
  next_incarnation := h.next_incarnation
  incarnations_le := h.incarnations.1
  incarnations := h.incarnations.2
  records_le := h.records.1
  records record hrecord := ⟨(h.records.2 record hrecord).evidence.wf, (h.records.2 record hrecord).retired⟩
  tombstones_le := h.tombstones.1
  tombstones := h.tombstones.2
  conflicts_le := h.conflicts.1
  conflicts := h.conflicts.2
  resolutions_le := h.resolutions.1
  resolutions := h.resolutions.2
  evictions_le := h.evictions.1
  evictions := h.evictions.2
  records_bound := h.records_bound
  tombstones_bound := h.tombstones_bound
  sources := isChain_iff_pairwise.mpr h.sources

/-- Every well-formed state is read back from its encoding, to the last byte. -/
theorem state_read_back {s : RegistryState} (h : s.WellFormed) : RegistryState.decode.run s.encode = .ok (s, []) := by
  have hread := RegistryState.roundTrip h.wf []
  rwa [append_nil] at hread

namespace Lab

/-- The registry's record of a report. -/
def stored : StoredEvidence where
  evidence := (Registry.init policy).evidenceOf (request 0 1 5)
  lifecycle := .admitted
  admissionReason := .acceptedNew
  admittedAt := 5
  retiredAt := none
  retirementReason := .ok

def storedState : RegistryState :=
  { (Registry.init policy).toState with
    incarnations := [⟨(device 0).device, 1, [1]⟩], records := [stored] }

theorem device_wf : (device 0).WF :=
  ⟨⟨by decide, by decide, by decide, (fun _ h => nomatch h)⟩, by decide⟩

theorem storedState_wellFormed : storedState.WellFormed where
  policy := ⟨by decide, by decide, by decide⟩
  sources := by decide
  next_incarnation := by decide
  incarnations := by
    refine ⟨by decide, ?_⟩
    intro entry hentry
    cases mem_singleton.mp hentry
    exact ⟨device_wf.device, by decide⟩
  records := by
    refine ⟨by decide, ?_⟩
    intro record hrecord
    cases mem_singleton.mp hrecord
    exact ⟨⟨⟨device_wf, by decide⟩, by decide, (fun _ h => nomatch h), by decide,
      (fun _ h => nomatch h), (fun _ h => nomatch h), (fun _ h => nomatch h)⟩, by decide⟩
  tombstones := ⟨by decide, fun _ h => nomatch h⟩
  conflicts := ⟨by decide, fun _ h => nomatch h⟩
  resolutions := ⟨by decide, fun _ h => nomatch h⟩
  evictions := ⟨by decide, fun _ h => nomatch h⟩
  records_bound := by decide
  tombstones_bound := by decide

end Lab

theorem state_read_back_one_record :
    storedState.records.length = 1 ∧
      RegistryState.decode.run storedState.encode = .ok (storedState, []) :=
  ⟨rfl, state_read_back storedState_wellFormed⟩

/-! ### What the decoders accept -/

/-- A decoder against its encoder, on one input: the input is the encoding of what the decoder returns exactly
    under the condition, and no other input under the condition gives the same value. -/
structure CanonicalWhere {α : Type} (enc : α → Bytes) (dec : Reader α) (cond : Bytes → Prop) (input : Bytes) :
    Prop where
  encode_iff : ∀ value, dec.run input = .ok (value, []) → (enc value = input ↔ cond input)
  unique : ∀ other value, dec.run input = .ok (value, []) → dec.run other = .ok (value, []) →
    cond input → cond other → input = other

/-- Every version in the input is spelled without a plus sign in its pre-release: a reader with this one check
    added accepts the input as well. -/
def VersionsPlain {α : Type} (decodeWith : Reader SemVer → Reader α) (input : Bytes) : Prop :=
  ∃ value, (decodeWith SemVer.decodeStrict).run input = .ok (value, [])

theorem CanonicalWhere.of_strict {α : Type} {enc : α → Bytes} {decodeWith : Reader SemVer → Reader α} {P : α → Prop}
    (hcanonical : Canonical enc (decodeWith SemVer.decodeStrict)) (hyields : ∀ version, (decodeWith version).Yields P)
    (hround : ∀ version, (∀ v, RoundTrip SemVer.encode version v) → ∀ a, P a → RoundTrip enc (decodeWith version) a)
    (input : Bytes) : CanonicalWhere enc (decodeWith SemVer.decode) (VersionsPlain decodeWith) input := by
  have hiff : ∀ input value, (decodeWith SemVer.decode).run input = .ok (value, []) →
      (enc value = input ↔ VersionsPlain decodeWith input) := fun input value hrun =>
    hcanonical.eq_encode_iff (hyields _) (hyields _) (hround _ SemVer.decodeStrict_roundTrip)
      (hround _ SemVer.roundTrip) hrun
  refine ⟨hiff input, ?_⟩
  intro other value hinput hother hplain hplainOther
  rw [← (hiff input value hinput).mpr hplain, ← (hiff other value hother).mpr hplainOther]

/-- The state, admission and requirement decoders accept only encodings, but for versions with a plus sign inside
    their pre-release. -/
theorem canonical_unless_plus (input : Bytes) :
    CanonicalWhere RegistryState.encode RegistryState.decode (VersionsPlain RegistryState.decodeWith) input ∧
    CanonicalWhere AdmissionRequest.encode AdmissionRequest.decode (VersionsPlain AdmissionRequest.decodeWith)
      input ∧
    CanonicalWhere CapabilityRequirement.encode CapabilityRequirement.decode
      (VersionsPlain CapabilityRequirement.decodeWith) input := by
  have hstrict := SemVer.decodeStrict_canonical
  refine ⟨?_, ?_, ?_⟩
  · exact .of_strict (RegistryState.decodeWith_canonical hstrict) RegistryState.decodeWith_yields
      (fun _ hversion _ => RegistryState.decodeWith_roundTrip hversion) input
  · exact .of_strict (AdmissionRequest.decodeWith_canonical hstrict) AdmissionRequest.decodeWith_yields
      (fun _ hversion _ => AdmissionRequest.decodeWith_roundTrip hversion) input
  · exact .of_strict (CapabilityRequirement.decodeWith_canonical hstrict) CapabilityRequirement.decodeWith_yields
      (fun _ hversion _ => CapabilityRequirement.decodeWith_roundTrip hversion) input

namespace Lab

def qualified : SemVer := ⟨1, 0, 0, text "a", text "b", Or.inr (by decide), Or.inr (by decide)⟩

/-- The request of a qualified version, over the bytes that spell the version. -/
def requestSpelling (version : Bytes) : Bytes :=
  (device 0).encode ++ (Writer.u16 CapabilityKind.packetClassification.code ++
    (SourceIncarnation.encode ⟨source, 1⟩ ++ (version ++ (FeatureSet.empty.encode ++ (LimitSet.empty.encode ++
    (Writer.optional SemVer.encode none ++ (Writer.u64 0 ++ (Writer.optional SemVer.encode none ++
    (Writer.u64 0 ++ (Writer.u64 5 ++ (Writer.optional Writer.u64 none ++ Writer.u64 1)))))))))))

/-- Version 1.0.0 with pre-release "a+b" and no build metadata. -/
def plusInside : Bytes :=
  Writer.u32 1 ++ (Writer.u32 0 ++ (Writer.u32 0 ++ (Writer.str (text "a+b") ++ Writer.str [])))

end Lab

/-- Two spellings of one request, only one of them its encoding. -/
theorem two_spellings_accepted :
    let request := { request 0 1 5 with capabilityVersion := qualified }
    AdmissionRequest.decode.run (requestSpelling qualified.encode) = .ok (request, []) ∧
      AdmissionRequest.decode.run (requestSpelling plusInside) = .ok (request, []) ∧
      request.encode = requestSpelling qualified.encode ∧
      request.encode ≠ requestSpelling plusInside := by
  decide +kernel

end Ocreg
