/-
Module: Ocreg.Codec.Evidence
Purpose: Canonical encodings of identities, evidence, tombstones, conflicts, resolutions and evictions, and
  the content-derived identity of a record.
-/
import Ocreg.Codec.Values

namespace Ocreg

open List Decoder Reader

variable {r : StoredEvidence} {version : Reader SemVer} {e a b : CapabilityEvidence} {α : Type}

/-! ### Identities -/

namespace DeviceIdentity

/-- Non-empty names and a bounded unit index. -/
structure WF (d : DeviceIdentity) : Prop where
  provider : d.provider.chars ≠ []
  model : d.model.chars ≠ []
  unit_le : d.unitIndex ≤ kMaxDeviceUnitIndex
  serial : ∀ s ∈ d.serial, s.chars ≠ []

def encode (d : DeviceIdentity) : Bytes :=
  Writer.name d.provider ++ (Writer.name d.model ++ (Writer.u32 d.unitIndex ++
    Writer.optional Writer.name d.serial))

def decode : Reader DeviceIdentity := do
  let provider ← name
  let model ← name
  let unitIndex ← u32
  ensure (unitIndex ≤ kMaxDeviceUnitIndex) .rejectedMalformedDocument
  let serial ← optional name
  pure ⟨provider, model, unitIndex, serial⟩

theorem roundTrip {d : DeviceIdentity} (h : d.WF) : RoundTrip encode decode d := by
  intro rest
  have hserial : ∀ s ∈ d.serial, RoundTrip Writer.name name s := fun s hs => name_put (h.serial s hs)
  simp [encode, decode, run_bind, name_put h.provider, name_put h.model, h.unit_le, optional_put hserial]

theorem decode_yields : decode.Yields WF := by
  refine .bind name_yields fun provider hprovider => ?_
  refine .bind name_yields fun model hmodel => ?_
  refine .bind_any fun unitIndex => .ensure fun hunit => ?_
  refine .bind (optional_yields name_yields) fun serial hserial => .pure ?_
  exact ⟨hprovider, hmodel, hunit, hserial⟩

end DeviceIdentity

namespace DeviceIncarnationRef

structure WF (r : DeviceIncarnationRef) : Prop where
  device : r.device.WF
  incarnation : r.incarnation ≠ 0

def encode (r : DeviceIncarnationRef) : Bytes := r.device.encode ++ Writer.u64 r.incarnation

def decode : Reader DeviceIncarnationRef := do
  let device ← DeviceIdentity.decode
  let incarnation ← u64
  ensure (incarnation ≠ 0) .rejectedZeroIncarnation
  pure ⟨device, incarnation⟩

theorem roundTrip {r : DeviceIncarnationRef} (h : r.WF) : RoundTrip encode decode r := by
  intro rest
  simp [encode, decode, run_bind, (DeviceIdentity.roundTrip h.device).apply, h.incarnation]

theorem decode_yields : decode.Yields WF := by
  refine .bind DeviceIdentity.decode_yields fun device hdevice => .bind_any fun incarnation => ?_
  exact .ensure fun hinc => .pure ⟨hdevice, hinc⟩

end DeviceIncarnationRef

namespace SourceIncarnation

def encode (s : SourceIncarnation) : Bytes := Writer.name s.source ++ Writer.u64 s.counter

def decode : Reader SourceIncarnation := do
  let source ← name
  let counter ← u64
  pure ⟨source, counter⟩

theorem roundTrip {s : SourceIncarnation} (h : s.source.chars ≠ []) : RoundTrip encode decode s := by
  intro rest
  simp [encode, decode, run_bind, name_put h]

theorem decode_yields : decode.Yields (fun s => s.source.chars ≠ []) :=
  .bind name_yields (fun _ h => .bind_any (fun _ => .pure h))

end SourceIncarnation

namespace EvidenceKey

structure WF (k : EvidenceKey) : Prop where
  device : k.device.WF
  source : k.source.chars ≠ []

def encode (k : EvidenceKey) : Bytes :=
  k.device.encode ++ (Writer.u16 k.kind.code ++ Writer.name k.source)

def decode : Reader EvidenceKey := do
  let device ← DeviceIncarnationRef.decode
  let kind ← decodeKind
  let source ← name
  pure ⟨device, kind, source⟩

theorem roundTrip {k : EvidenceKey} (h : k.WF) : RoundTrip encode decode k := by
  intro rest
  simp [encode, decode, run_bind, (DeviceIncarnationRef.roundTrip h.device).apply, name_put h.source]

theorem decode_yields : decode.Yields WF := by
  refine .bind DeviceIncarnationRef.decode_yields fun device hdevice => .bind_any fun kind => ?_
  exact .bind name_yields fun _ hsource => .pure ⟨hdevice, hsource⟩

end EvidenceKey

/-! ### Evidence -/

namespace CapabilityEvidence

/-- The evidence its decoder accepts. -/
structure WF (e : CapabilityEvidence) : Prop where
  key : e.key.WF
  source : e.sourceIncarnation.source.chars ≠ []
  features : e.features.WF
  limits : e.limits.WF
  generation : e.generation ≠ 0
  window : ∀ tick ∈ e.validUntil, ¬ tick < e.observedAt
  features_allowed : ∀ code ∈ e.features.codes, featureAllowedFor code e.key.kind = true
  limits_allowed : ∀ limit ∈ e.limits.values, limitAllowedFor limit.code e.key.kind = true

def encode (e : CapabilityEvidence) : Bytes :=
  e.key.encode ++ (e.sourceIncarnation.encode ++ (e.capabilityVersion.encode ++ (e.features.encode ++
    (e.limits.encode ++ (Writer.optional SemVer.encode e.firmwareVersion ++ (Writer.u64 e.firmwareGeneration ++
    (Writer.optional SemVer.encode e.runtimeVersion ++ (Writer.u64 e.runtimeGeneration ++
    (Writer.u64 e.observedAt ++ (Writer.optional Writer.u64 e.validUntil ++ (Writer.u64 e.generation ++
    (Writer.u16 e.authority.numeric ++ (Writer.u64 e.epochAtIngest ++ (Writer.u64 e.bootAtIngest ++
    Writer.u64 e.policyRevision))))))))))))))

/-- The evidence decoder, over the reader it uses for versions. -/
def decodeWith (version : Reader SemVer) : Reader CapabilityEvidence := do
  let key ← EvidenceKey.decode
  let sourceIncarnation ← SourceIncarnation.decode
  let capabilityVersion ← version
  let features ← FeatureSet.decode
  let limits ← LimitSet.decode
  let firmwareVersion ← optional version
  let firmwareGeneration ← u64
  let runtimeVersion ← optional version
  let runtimeGeneration ← u64
  let observedAt ← u64
  let validUntil ← optional u64
  let generation ← u64
  let authority ← enum AuthorityRank.ofNumeric? .rejectedMalformedDocument
  let epochAtIngest ← u64
  let bootAtIngest ← u64
  let policyRevision ← u64
  ensure (generation ≠ 0) .rejectedGenerationRegression
  ensure (∀ tick ∈ validUntil, ¬ tick < observedAt) .rejectedValidityWindowInverted
  ensure (∀ code ∈ features.codes, featureAllowedFor code key.kind = true) .rejectedFeatureNotInKind
  ensure (∀ limit ∈ limits.values, limitAllowedFor limit.code key.kind = true) .rejectedLimitNotInKind
  pure { key, sourceIncarnation, capabilityVersion, features, limits, firmwareVersion, firmwareGeneration,
         runtimeVersion, runtimeGeneration, observedAt, validUntil, generation, authority, epochAtIngest,
         bootAtIngest, policyRevision }

def decode : Reader CapabilityEvidence := decodeWith SemVer.decode

/-- Content-derived identity: byte-identical assertions have the same id. -/
def id (e : CapabilityEvidence) : EvidenceId := Digest256.of e.encode

end CapabilityEvidence

theorem optionalVersion_put (hversion : ∀ v, RoundTrip SemVer.encode version v) (value : Option SemVer)
    (rest : Bytes) : (optional version).run (Writer.optional SemVer.encode value ++ rest) = .ok (value, rest) :=
  optional_put (fun v _ => hversion v) rest

theorem optionalU64_put (value : Option UInt64) (rest : Bytes) :
    (optional u64).run (Writer.optional Writer.u64 value ++ rest) = .ok (value, rest) :=
  optional_put (fun v _ => u64_put v) rest

theorem authority_put (rank : AuthorityRank) (rest : Bytes) :
    (enum AuthorityRank.ofNumeric? .rejectedMalformedDocument).run (Writer.u16 rank.numeric ++ rest)
      = .ok (rank, rest) := enum_put _ (AuthorityRank.ofNumeric?_numeric rank) rest

theorem CapabilityEvidence.decodeWith_roundTrip (hversion : ∀ v, RoundTrip SemVer.encode version v) (h : e.WF) :
    RoundTrip encode (decodeWith version) e := by
  intro rest
  have hfeatures : ∀ code ∈ e.features.codes, featureAllowedFor code e.key.kind = true := h.features_allowed
  have hlimits : ∀ limit ∈ e.limits.values, limitAllowedFor limit.code e.key.kind = true := h.limits_allowed
  simp only [encode, append_assoc, decodeWith, run_bind, (EvidenceKey.roundTrip h.key).apply,
    (SourceIncarnation.roundTrip h.source).apply, (hversion _).apply, (FeatureSet.roundTrip h.features).apply,
    (LimitSet.roundTrip h.limits).apply, optionalVersion_put hversion, u64_put, optionalU64_put,
    authority_put, ensure_of _ _ h.generation, ensure_of _ _ h.window,
    ensure_of _ _ hfeatures, ensure_of _ _ hlimits, run_pure]

theorem CapabilityEvidence.decodeWith_yields (version : Reader SemVer) : (decodeWith version).Yields WF := by
  refine .bind EvidenceKey.decode_yields fun key hkey => ?_
  refine .bind SourceIncarnation.decode_yields fun source hsource => .bind_any fun _ => ?_
  refine .bind FeatureSet.decode_yields fun features hfeatures => ?_
  refine .bind LimitSet.decode_yields fun limits hlimits => ?_
  iterate 11 refine .bind_any fun _ => ?_
  refine .ensure fun hgeneration => ?_
  refine .ensure fun hwindow => ?_
  refine .ensure fun hfeaturesAllowed => ?_
  refine .ensure fun hlimitsAllowed => .pure ?_
  exact ⟨hkey, hsource, hfeatures, hlimits, hgeneration, hwindow, hfeaturesAllowed, hlimitsAllowed⟩

namespace StoredEvidence

def id (r : StoredEvidence) : EvidenceId := r.evidence.id

/-- The record its decoder accepts: a retired record has a retirement tick. -/
structure WF (r : StoredEvidence) : Prop where
  evidence : r.evidence.WF
  retired : r.lifecycle = .retired → r.retiredAt.isSome

def encode (r : StoredEvidence) : Bytes :=
  r.evidence.encode ++ (Writer.u16 r.lifecycle.numeric ++ (Writer.reason r.admissionReason ++
    (Writer.u64 r.admittedAt ++ (Writer.optional Writer.u64 r.retiredAt ++ Writer.reason r.retirementReason))))

def decodeWith (version : Reader SemVer) : Reader StoredEvidence := do
  let evidence ← CapabilityEvidence.decodeWith version
  let lifecycle ← enum EvidenceLifecycle.ofNumeric? .rejectedMalformedDocument
  let admissionReason ← reason
  let admittedAt ← u64
  let retiredAt ← optional u64
  let retirementReason ← reason
  ensure (lifecycle = .retired → retiredAt.isSome) .rejectedMalformedDocument
  pure { evidence, lifecycle, admissionReason, admittedAt, retiredAt, retirementReason }

def decode : Reader StoredEvidence := decodeWith SemVer.decode

theorem decodeWith_roundTrip (hversion : ∀ v, RoundTrip SemVer.encode version v) (h : r.WF) :
    RoundTrip encode (decodeWith version) r := by
  intro rest
  simp only [encode, append_assoc, decodeWith, run_bind,
    (CapabilityEvidence.decodeWith_roundTrip hversion h.evidence).apply,
    enum_put _ (EvidenceLifecycle.ofNumeric?_numeric _), reason_put, u64_put, optionalU64_put,
    ensure_of _ _ h.retired, run_pure]

theorem decodeWith_yields (version : Reader SemVer) : (decodeWith version).Yields WF := by
  refine .bind (CapabilityEvidence.decodeWith_yields version) fun evidence hevidence => ?_
  iterate 5 refine .bind_any fun _ => ?_
  exact .ensure fun hretired => .pure ⟨hevidence, hretired⟩

end StoredEvidence

/-! ### Tombstones, conflicts, resolutions, evictions -/

namespace RetirementRecord

structure WF (r : RetirementRecord) : Prop where
  key : r.key.WF
  generation : r.generation ≠ 0

def encode (r : RetirementRecord) : Bytes :=
  r.key.encode ++ (Writer.u64 r.generation ++ (Writer.u64 r.retiredAt ++ (Writer.reason r.reason ++
    (Writer.u64 r.epoch ++ (Writer.u64 r.policyRevision ++ Writer.u16 r.authority.numeric)))))

def decode : Reader RetirementRecord := do
  let key ← EvidenceKey.decode
  let generation ← u64
  let retiredAt ← u64
  let reason ← Reader.reason
  let epoch ← u64
  let policyRevision ← u64
  let authority ← enum AuthorityRank.ofNumeric? .rejectedMalformedDocument
  ensure (generation ≠ 0) .rejectedGenerationRegression
  pure { key, generation, retiredAt, reason, epoch, policyRevision, authority }

theorem roundTrip {r : RetirementRecord} (h : r.WF) : RoundTrip encode decode r := by
  intro rest
  simp [encode, decode, run_bind, (EvidenceKey.roundTrip h.key).apply, authority_put, h.generation]

theorem decode_yields : decode.Yields WF := by
  refine .bind EvidenceKey.decode_yields fun key hkey => .bind_any fun generation => ?_
  iterate 5 refine .bind_any fun _ => ?_
  exact .ensure fun hgeneration => .pure ⟨hkey, hgeneration⟩

end RetirementRecord

/-- A counted collection under the common bound. -/
abbrev Reader.bounded {α : Type} (dec : Reader α) : Reader (List α) :=
  collection dec kMaxCollectionEntries .rejectedOversizedInput

theorem bounded_put {enc : α → Bytes} {dec : Reader α} {as : List α}
    (h : ∀ a ∈ as, RoundTrip enc dec a) (hlen : as.length ≤ kMaxCollectionEntries) (rest : Bytes) :
    (bounded dec).run (Writer.collection enc as ++ rest) = .ok (as, rest) :=
  collection_put _ h hlen (by decide) rest

theorem digests_put {as : List Digest256} (hlen : as.length ≤ kMaxCollectionEntries) (rest : Bytes) :
    (bounded digest).run (Writer.collection Writer.digest as ++ rest) = .ok (as, rest) :=
  bounded_put (fun a _ => digest_put a) hlen rest

namespace ConflictGroup

/-- Bounded membership with one generation per member. -/
structure WF (g : ConflictGroup) : Prop where
  device : g.device.WF
  members_le : g.members.length ≤ kMaxCollectionEntries
  generations_length : g.generations.length = g.members.length

def encode (g : ConflictGroup) : Bytes :=
  Writer.digest g.id ++ (g.device.encode ++ (Writer.u16 g.kind.code ++ (Writer.u16 g.authority.numeric ++
    (Writer.collection Writer.digest g.members ++ (Writer.collection Writer.u64 g.generations ++
    (Writer.u64 g.observedFirst ++ Writer.u64 g.observedLast))))))

def decode : Reader ConflictGroup := do
  let id ← digest
  let device ← DeviceIncarnationRef.decode
  let kind ← decodeKind
  let authority ← enum AuthorityRank.ofNumeric? .rejectedMalformedDocument
  let members ← bounded digest
  let generationCount ← u32
  ensure (generationCount.toNat ≤ kMaxCollectionEntries ∧ generationCount.toNat = members.length)
    .rejectedMalformedDocument
  let generations ← repeatN u64 generationCount.toNat
  let observedFirst ← u64
  let observedLast ← u64
  pure { id, device, kind, authority, members, generations, observedFirst, observedLast }

theorem roundTrip {g : ConflictGroup} (h : g.WF) : RoundTrip encode decode g := by
  intro rest
  have hmembers := h.members_le
  have hcount : (UInt32.ofNat g.generations.length).toNat = g.generations.length := by
    have hlength := h.generations_length
    rw [kMaxCollectionEntries] at hmembers
    rw [UInt32.toNat_ofNat']
    omega
  have hbound : (UInt32.ofNat g.generations.length).toNat ≤ kMaxCollectionEntries ∧
      (UInt32.ofNat g.generations.length).toNat = g.members.length := by
    rw [hcount, h.generations_length]
    exact ⟨h.members_le, rfl⟩
  have hgenerations := repeatN_roundTrip (fun (v : UInt64) (_ : v ∈ g.generations) => u64_put v)
  simp only [encode, Writer.collection, append_assoc]
  rw [decode, bind_of_ok _ (digest_put _ _), bind_of_ok _ ((DeviceIncarnationRef.roundTrip h.device).apply _),
    bind_of_ok _ (decodeKind_put _ _), bind_of_ok _ (authority_put _ _)]
  have hdigests := digests_put h.members_le
  simp only [Writer.collection, append_assoc] at hdigests
  rw [bind_of_ok _ (hdigests _), bind_of_ok _ (u32_put _ _),
    bind_of_ok _ (ensure_of _ _ hbound), hcount, bind_of_ok _ (hgenerations _),
    bind_of_ok _ (u64_put _ _), bind_of_ok _ (u64_put _ _)]
  rfl

theorem decode_yields : decode.Yields WF := by
  refine .bind_any fun _ => .bind DeviceIncarnationRef.decode_yields fun device hdevice => ?_
  refine .bind_any fun _ => .bind_any fun _ => ?_
  refine .bind (collection_yields (P := fun _ => True) (fun _ _ _ _ => trivial) _ _)
    (fun members hmembers => .bind_any fun count => ?_)
  refine .ensure fun hcount => ?_
  refine .bind (repeatN_yields (P := fun _ => True) (fun _ _ _ _ => trivial) _) (fun generations hgenerations => ?_)
  refine .bind_any fun _ => .bind_any fun _ => .pure ?_
  exact ⟨hdevice, hmembers.1, hgenerations.1.trans hcount.2⟩

end ConflictGroup

namespace ConflictResolution

structure WF (r : ConflictResolution) : Prop where
  rejected_le : r.rejectedMembers.length ≤ kMaxCollectionEntries
  resolver : r.resolver.chars ≠ []

def encode (r : ConflictResolution) : Bytes :=
  Writer.digest r.id ++ (Writer.digest r.conflict ++ (Writer.digest r.chosen ++
    (Writer.collection Writer.digest r.rejectedMembers ++ (Writer.name r.resolver ++
    (Writer.u64 r.resolvedAt ++ Writer.u64 r.epoch)))))

def decode : Reader ConflictResolution := do
  let id ← digest
  let conflict ← digest
  let chosen ← digest
  let rejectedMembers ← bounded digest
  let resolver ← name
  let resolvedAt ← u64
  let epoch ← u64
  pure { id, conflict, chosen, rejectedMembers, resolver, resolvedAt, epoch }

theorem roundTrip {r : ConflictResolution} (h : r.WF) : RoundTrip encode decode r := by
  intro rest
  simp [encode, decode, run_bind, digests_put h.rejected_le, name_put h.resolver]

theorem decode_yields : decode.Yields WF := by
  iterate 3 refine .bind_any fun _ => ?_
  refine .bind (collection_yields (P := fun _ => True) (fun _ _ _ _ => trivial) _ _)
    (fun members hmembers => .bind name_yields (fun resolver hresolver => ?_))
  exact .bind_any fun _ => .bind_any fun _ => .pure ⟨hmembers.1, hresolver⟩

end ConflictResolution

namespace EvictionEntry

def encode (e : EvictionEntry) : Bytes :=
  Writer.digest e.id ++ (e.key.encode ++ (Writer.u64 e.generation ++ (Writer.u16 e.stateAtEviction.numeric ++
    (Writer.reason e.reason ++ Writer.u64 e.evictedAt))))

def decode : Reader EvictionEntry := do
  let id ← Reader.digest
  let key ← EvidenceKey.decode
  let generation ← u64
  let stateAtEviction ← enum EvidenceState.ofNumeric? .rejectedMalformedDocument
  let reason ← Reader.reason
  let evictedAt ← u64
  pure { id, key, generation, stateAtEviction, reason, evictedAt }

theorem evidenceState_put (state : EvidenceState) (rest : Bytes) :
    (enum EvidenceState.ofNumeric? .rejectedMalformedDocument).run (Writer.u16 state.numeric ++ rest)
      = .ok (state, rest) := enum_put _ (EvidenceState.ofNumeric?_numeric state) rest

theorem roundTrip {e : EvictionEntry} (h : e.key.WF) : RoundTrip encode decode e := by
  intro rest
  simp [encode, decode, run_bind, (EvidenceKey.roundTrip h).apply, evidenceState_put]

theorem decode_yields : decode.Yields (fun e => e.key.WF) := by
  refine .bind_any fun _ => .bind EvidenceKey.decode_yields fun key hkey => ?_
  iterate 4 refine .bind_any fun _ => ?_
  exact .pure hkey

end EvictionEntry

/-! ### An encoding determines its stream

No well-formedness is assumed here: a record accepted in process need not be one its decoder accepts. -/

theorem u16_prefixFree : PrefixFree Writer.u16 := PrefixFree.of_roundTrip u16_put

theorem u32_prefixFree : PrefixFree Writer.u32 := PrefixFree.of_roundTrip u32_put

theorem u64_prefixFree : PrefixFree Writer.u64 := PrefixFree.of_roundTrip u64_put

theorem digest_prefixFree : PrefixFree Writer.digest := PrefixFree.of_roundTrip digest_put

theorem digest_ne_nil (value : Digest256) : Writer.digest value ≠ [] := by
  intro hnil
  have hsize := value.size_eq
  rw [show value.bytes = [] from hnil] at hsize
  cases hsize

theorem name_prefixFree : PrefixFree Writer.name := by
  intro a b x y h
  have hnat : ∀ n : Name, (UInt8.ofNat n.chars.length).toNat = n.chars.length := by
    intro n
    have hle := n.length_le
    rw [kMaxNameLength] at hle
    rw [UInt8.toNat_ofNat']
    omega
  simp only [Writer.name, cons_append, List.cons.injEq] at h
  have hlen : a.chars.length = b.chars.length := by
    rw [← hnat a, ← hnat b, h.1]
  obtain ⟨hchars, hrest⟩ := append_inj h.2 hlen
  exact ⟨Name.chars_injective hchars, hrest⟩

theorem optional_prefixFree {enc : α → Bytes} (henc : PrefixFree enc) : PrefixFree (Writer.optional enc) := by
  intro a b x y h
  cases a with
  | none =>
    cases b with
    | none => exact ⟨rfl, by simpa [Writer.optional] using h⟩
    | some b => simp [Writer.optional] at h
  | some a =>
    cases b with
    | none => simp [Writer.optional] at h
    | some b =>
      simp only [Writer.optional, cons_append, List.cons.injEq, true_and] at h
      obtain ⟨hab, hrest⟩ := henc a b x y h
      exact ⟨congrArg some hab, hrest⟩

theorem collection_prefixFree {enc : α → Bytes} (henc : PrefixFree enc) :
    PrefixFreeOn (fun as : List α => as.length < 2 ^ 32) (Writer.collection enc) := by
  intro as bs has hbs x y h
  rw [Writer.collection, Writer.collection, append_assoc, append_assoc] at h
  obtain ⟨hcount, h⟩ := u32_prefixFree _ _ _ _ h
  have hlength : as.length = bs.length := by
    have hnat := congrArg UInt32.toNat hcount
    rw [UInt32.toNat_ofNat', UInt32.toNat_ofNat', Nat.mod_eq_of_lt has, Nat.mod_eq_of_lt hbs] at hnat
    exact hnat
  exact henc.flatMap_of_length hlength h

theorem DeviceIdentity.encode_prefixFree : PrefixFree DeviceIdentity.encode := by
  intro a b x y h
  simp only [encode, append_assoc] at h
  obtain ⟨hprovider, h⟩ := name_prefixFree _ _ _ _ h
  obtain ⟨hmodel, h⟩ := name_prefixFree _ _ _ _ h
  obtain ⟨hunit, h⟩ := u32_prefixFree _ _ _ _ h
  obtain ⟨hserial, h⟩ := optional_prefixFree name_prefixFree _ _ _ _ h
  exact ⟨by cases a; cases b; simp_all, h⟩

theorem DeviceIncarnationRef.encode_prefixFree : PrefixFree DeviceIncarnationRef.encode := by
  intro a b x y h
  simp only [encode, append_assoc] at h
  obtain ⟨hdevice, h⟩ := DeviceIdentity.encode_prefixFree _ _ _ _ h
  obtain ⟨hincarnation, hrest⟩ := u64_prefixFree _ _ _ _ h
  cases a
  cases b
  cases hdevice
  cases hincarnation
  exact ⟨rfl, hrest⟩

theorem EvidenceKey.encode_prefixFree : PrefixFree EvidenceKey.encode := by
  intro a b x y h
  simp only [encode, append_assoc] at h
  obtain ⟨hdevice, h⟩ := DeviceIncarnationRef.encode_prefixFree _ _ _ _ h
  obtain ⟨hkind, h⟩ := u16_prefixFree _ _ _ _ h
  obtain ⟨hsource, h⟩ := name_prefixFree _ _ _ _ h
  refine ⟨?_, h⟩
  cases a
  cases b
  cases hdevice
  cases CapabilityKind.code_injective hkind
  cases hsource
  rfl

section

variable (h : a.encode = b.encode)
include h

theorem CapabilityEvidence.key_eq_of_encode_eq : a.key = b.key :=
  (EvidenceKey.encode_prefixFree _ _ _ _ h).1

/-- The generation and what the registry stamps stand at a fixed distance from the end. -/
theorem CapabilityEvidence.stamps_eq_of_encode_eq :
    a.generation = b.generation ∧ a.authority = b.authority ∧ a.epochAtIngest = b.epochAtIngest ∧
      a.bootAtIngest = b.bootAtIngest ∧ a.policyRevision = b.policyRevision := by
  have hsplit : ∀ e : CapabilityEvidence, Writer.u64 e.generation ++ (Writer.u16 e.authority.numeric ++
      (Writer.u64 e.epochAtIngest ++ (Writer.u64 e.bootAtIngest ++ Writer.u64 e.policyRevision))) <:+ e.encode := by
    intro e
    iterate 11 refine .trans ?_ (suffix_append _ _)
    exact suffix_rfl
  obtain ⟨front, ha⟩ := hsplit a
  obtain ⟨other, hb⟩ := hsplit b
  rw [← ha, ← hb] at h
  have hlength : (Writer.u64 a.generation ++ (Writer.u16 a.authority.numeric ++ (Writer.u64 a.epochAtIngest ++
      (Writer.u64 a.bootAtIngest ++ Writer.u64 a.policyRevision)))).length =
      (Writer.u64 b.generation ++ (Writer.u16 b.authority.numeric ++ (Writer.u64 b.epochAtIngest ++
      (Writer.u64 b.bootAtIngest ++ Writer.u64 b.policyRevision)))).length := by
    simp only [length_append, Writer.u64, Writer.u16, putBE_length]
  obtain ⟨hgeneration, h⟩ := u64_prefixFree _ _ _ _ (append_inj' h hlength).2
  obtain ⟨hauthority, h⟩ := u16_prefixFree _ _ _ _ h
  obtain ⟨hepoch, h⟩ := u64_prefixFree _ _ _ _ h
  obtain ⟨hboot, h⟩ := u64_prefixFree _ _ _ _ h
  have hrevision : Writer.u64 a.policyRevision ++ [] = Writer.u64 b.policyRevision ++ [] := by rw [h]
  exact ⟨hgeneration, AuthorityRank.numeric_injective hauthority, hepoch, hboot, (u64_prefixFree _ _ _ _ hrevision).1⟩

theorem CapabilityEvidence.generation_eq_of_encode_eq : a.generation = b.generation :=
  (stamps_eq_of_encode_eq h).1

end

end Ocreg
