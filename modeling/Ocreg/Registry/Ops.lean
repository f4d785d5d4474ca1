/-
Module: Ocreg.Registry.Ops
Purpose: The other mutations: retirement and tombstones, device incarnations, source policy, conflict
  resolution, clocks and bounds, and restoring a durable state.
-/
import Ocreg.Registry.Admit

namespace Ocreg

variable (s : Registry) (device : DeviceIdentity) (policy : SourcePolicy) (record : StoredEvidence)

/-! ### Retirement -/

def RetirementRequest.key (request : RetirementRequest) : EvidenceKey :=
  ⟨request.device, request.kind, request.source⟩

/-- An admitted record up to the given generation becomes retired. -/
def StoredEvidence.retiredUpTo (generation : RecordGeneration) (now : Tick) (reason : ReasonCode)
    (record : StoredEvidence) : StoredEvidence :=
  if record.evidence.generation ≤ generation ∧ record.lifecycle = .admitted then
    { record with lifecycle := .retired, retiredAt := some now, retirementReason := reason }
  else record

section RetiredUpTo

variable (generation : RecordGeneration) (now : Tick) (reason : ReasonCode)

@[simp] theorem StoredEvidence.retiredUpTo_evidence :
    (record.retiredUpTo generation now reason).evidence = record.evidence := by
  rw [retiredUpTo]
  split <;> rfl

@[simp] theorem StoredEvidence.retiredUpTo_id : (record.retiredUpTo generation now reason).id = record.id := by
  rw [StoredEvidence.id, retiredUpTo_evidence, StoredEvidence.id]

theorem StoredEvidence.retiredUpTo_rejected :
    (record.retiredUpTo generation now reason).lifecycle = .rejected ↔ record.lifecycle = .rejected := by
  rw [retiredUpTo]
  split
  next h => simp [h.2]
  next => rfl

end RetiredUpTo

/-- Earlier retirement first. -/
def RetirementRecord.older (a b : RetirementRecord) : Bool := a.retiredAt < b.retiredAt

namespace Registry

/-- The tombstone that goes when there are too many: the first of the oldest. -/
def oldestTombstone : Option (EvidenceKey × RetirementRecord) :=
  Scan.bestBy (fun a b => a.2.older b.2) s.tombstones.entries

/-- Drop the oldest tombstone above the bound, unless it is the one just stored. -/
def dropTombstone (key : EvidenceKey) : Registry :=
  if s.tombstones.size > s.policy.limits.maxTombstones.toNat then
    match s.oldestTombstone with
    | some (oldest, _) =>
      if oldest ≠ key then
        { s with
          tombstones := s.tombstones.erase oldest
          counters := { s.counters with tombstonesDropped := s.counters.tombstonesDropped + 1 } }
      else s
    | none => s
  else s

/-- Store a tombstone unless one of an equal or later generation is there. A slot whose key has an empty
    source counts as unused. -/
def pushTombstone (tombstone : RetirementRecord) : Registry :=
  if ∃ slot ∈ s.findTombstone tombstone.key,
      slot.generation ≥ tombstone.generation ∧ ¬ slot.key.source.empty then s
  else
    { s with tombstones := s.tombstones.insert tombstone.key tombstone }.dropTombstone tombstone.key

/-- Refusals of a retirement that look at policy and device. -/
def retirementRefusal (request : RetirementRequest) : Option Refusal :=
  if request.generation = 0 then
    some ⟨.rejectedGenerationRegression, text "retirement generation must be non-zero"⟩
  else if s.policy.findSource request.source = none ∧ s.policy.requireConfiguredSource then
    some ⟨.rejectedUnknownSource, text "source has no policy entry"⟩
  else if s.findDevice request.device.device = none then
    some ⟨.rejectedDeviceIncarnationFenced, text "device is not registered"⟩
  else none

/-- Refusals of a retirement that look at the tombstone and the stream. -/
def fenceRefusal (request : RetirementRequest) : Option Refusal :=
  if ∃ tombstone ∈ s.findTombstone request.key, tombstone.generation > request.generation then
    some ⟨.rejectedSupersededGeneration, text "a later retirement already fences this stream"⟩
  else match s.findStream request.key with
    | some stream =>
      if stream.maxGeneration ≠ 0 ∧ request.generation ≤ stream.maxGeneration then
        some ⟨.rejectedSupersededGeneration,
          text "retirement generation must exceed the newest admitted generation"⟩
      else none
    | none => some ⟨.unknownNoEvidence, text "stream holds no records"⟩

/-- Refuse and count a retirement. -/
def rejectRetirement (refusal : Refusal) : Outcome RetirementOutcome × Registry :=
  (.failure refusal.reason refusal.detail,
    { s with counters := { s.counters with retirementsRejected := s.counters.retirementsRejected + 1 } })

/-- Count a retirement. -/
def countRetired : Registry :=
  { s with counters := { s.counters with retirementsAccepted := s.counters.retirementsAccepted + 1 } }

/-- The tombstone a retirement leaves. -/
def tombstoneOf (request : RetirementRequest) (now : Tick) : RetirementRecord where
  key := request.key
  generation := request.generation
  retiredAt := now
  reason := if request.reason = .ok then .unknownCapabilityRetired else request.reason
  epoch := s.epoch
  policyRevision := s.policyRevision
  authority := s.sourceAuthority request.source

section

variable (tombstone : RetirementRecord)

/-- Retire the admitted records of a stream under a tombstone. -/
def retireStream : Registry :=
  let stream := s.streamAt tombstone.key
  { s with
    streams := s.streams.insert tombstone.key
      { stream with
        records := stream.records.map (StoredEvidence.retiredUpTo tombstone.generation tombstone.retiredAt
          tombstone.reason) } }

/-- Ids a retirement takes out, sorted. -/
def retiredIds : List EvidenceId :=
  (((s.streamAt tombstone.key).records.filter (fun record =>
    record.evidence.generation ≤ tombstone.generation ∧ record.lifecycle = .admitted)).map
      StoredEvidence.id).insertionSort (· ≤ ·)

/-- What a retirement reports. -/
def retiredOutcome : RetirementOutcome where
  key := tombstone.key
  generation := tombstone.generation
  reason := tombstone.reason
  retired := s.retiredIds tombstone

/-- The registry after a retirement took effect. -/
def settleRetired : Registry :=
  ((s.retireStream tombstone).pushTombstone tombstone).countRetired.refreshConflict tombstone.key.device
    tombstone.key.kind tombstone.retiredAt

end

/-- What the caller is told when the same retirement was made before. -/
def repeatedOutcome (request : RetirementRequest) : RetirementOutcome where
  key := request.key
  generation := request.generation
  reason := .alreadyPresent
  idempotent := true

/-- `Registry::retire`. -/
def retire (s : Registry) (request : RetirementRequest) (now : Tick) : Outcome RetirementOutcome × Registry :=
  match s.retirementRefusal request with
  | some refusal => s.rejectRetirement refusal
  | none =>
    if ∃ tombstone ∈ s.findTombstone request.key, tombstone.generation = request.generation then
      (.success (repeatedOutcome request) .ok, s.countRetired)
    else match s.fenceRefusal request with
      | some refusal => s.rejectRetirement refusal
      | none =>
        (.success (s.retiredOutcome (s.tombstoneOf request now)) .ok,
          s.settleRetired (s.tombstoneOf request now))

end Registry

/-- Every way a retirement can go, with what it returns and the registry it leaves. -/
inductive Retirement (s : Registry) (request : RetirementRequest) (now : Tick) :
    Outcome RetirementOutcome × Registry → Prop
  | refused {refusal : Refusal} (hrefused : s.retirementRefusal request = some refusal ∨
      s.fenceRefusal request = some refusal) :
      Retirement s request now (s.rejectRetirement refusal)
  | repeated {tombstone : RetirementRecord} (hslot : s.findTombstone request.key = some tombstone)
      (hgeneration : tombstone.generation = request.generation) :
      Retirement s request now (.success (Registry.repeatedOutcome request) .ok, s.countRetired)
  | retired {stream : Stream} (haccepted : s.retirementRefusal request = none)
      (hslot : ∀ tombstone ∈ s.findTombstone request.key, tombstone.generation < request.generation)
      (hstream : s.findStream request.key = some stream)
      (habove : stream.maxGeneration = 0 ∨ stream.maxGeneration < request.generation) :
      Retirement s request now (.success (s.retiredOutcome (s.tombstoneOf request now)) .ok,
        s.settleRetired (s.tombstoneOf request now))

namespace Registry

/-- Inversion of `retire`. -/
theorem retire_view {request : RetirementRequest} {now : Tick} {result : _} (hop : s.retire request now = result) :
    Retirement s request now result := by
  subst hop
  rw [retire]
  cases hrefusal : s.retirementRefusal request with
  | some refusal => exact .refused (.inl hrefusal)
  | none =>
    dsimp only
    split
    next hrepeated =>
      obtain ⟨tombstone, hslot, hgeneration⟩ := hrepeated
      exact .repeated hslot hgeneration
    next hdifferent =>
      cases hfence : s.fenceRefusal request with
      | some refusal => exact .refused (.inr hfence)
      | none =>
        rw [fenceRefusal] at hfence
        split at hfence
        · cases hfence
        next hearlier =>
          cases hstream : s.findStream request.key with
          | none =>
            rw [hstream] at hfence
            cases hfence
          | some stream =>
            rw [hstream] at hfence
            dsimp only at hfence
            split at hfence
            · cases hfence
            next habove =>
              refine .retired hrefusal ?_ hstream ?_
              · intro tombstone hslot
                refine lt_of_le_of_ne (not_lt.mp (fun hlt => hearlier ⟨tombstone, hslot, hlt⟩)) ?_
                exact fun heq => hdifferent ⟨tombstone, hslot, heq⟩
              · rw [not_and_or, not_not, not_le] at habove
                exact habove

/-- Storing a tombstone touches the tombstones and one counter only. -/
theorem pushTombstone_frame (tombstone : RetirementRecord) : ∃ tombstones dropped, s.pushTombstone tombstone =
      { s with tombstones, counters := { s.counters with tombstonesDropped := dropped } } := by
  rw [pushTombstone]
  split
  · exact ⟨_, _, rfl⟩
  · rw [dropTombstone]
    split
    · split
      · split
        · exact ⟨_, _, rfl⟩
        · exact ⟨_, _, rfl⟩
      · exact ⟨_, _, rfl⟩
    · exact ⟨_, _, rfl⟩

/-- What a retirement leaves as it was, once its records are marked. -/
theorem retired_frame (request : RetirementRequest) (now : Tick) :
    ∃ tombstones dropped, (s.retireStream (s.tombstoneOf request now)).pushTombstone (s.tombstoneOf request now) =
      { s.retireStream (s.tombstoneOf request now) with
        tombstones, counters := { s.counters with tombstonesDropped := dropped } } :=
  pushTombstone_frame _ _

section

variable {s : Registry} {tombstone : RetirementRecord}
  (hraise : ∀ slot ∈ s.findTombstone tombstone.key, slot.generation < tombstone.generation)
include hraise

theorem pushTombstone_of_raise : s.pushTombstone tombstone =
      { s with tombstones := s.tombstones.insert tombstone.key tombstone }.dropTombstone tombstone.key := by
  refine if_neg ?_
  rintro ⟨slot, hslot, hge, _⟩
  exact absurd (hraise slot hslot) (not_lt.mpr hge)

/-- Storing a tombstone for a stream whose fence it raises: it goes in, and at the bound an older one of
    another stream may go. -/
theorem pushTombstone_cases :
    s.pushTombstone tombstone = { s with tombstones := s.tombstones.insert tombstone.key tombstone } ∨
    ∃ oldest, oldest ≠ tombstone.key ∧ s.pushTombstone tombstone =
      { s with
        tombstones := (s.tombstones.insert tombstone.key tombstone).erase oldest
        counters := { s.counters with tombstonesDropped := s.counters.tombstonesDropped + 1 } } := by
  rw [pushTombstone_of_raise hraise, dropTombstone]
  split
  · split
    · split
      next hother => exact .inr ⟨_, hother, rfl⟩
      next => exact .inl rfl
    · exact .inl rfl
  · exact .inl rfl

end

/-! ### Device incarnations -/

/-- The counter as it is handed out: zero counts as one. -/
def freshIncarnation : IncarnationId := if s.nextIncarnation = 0 then 1 else s.nextIncarnation

/-- `Registry::begin_device_incarnation`. -/
def beginDeviceIncarnation (device : DeviceIdentity) (now : Tick) : Outcome IncarnationId × Registry :=
  let fresh := s.freshIncarnation
  match s.findDevice device with
  | none =>
    if s.incarnationTable.size ≥ s.policy.limits.maxDevices.toNat then
      (.failure .rejectedDeviceBudgetExhausted (text "device bound reached"), s)
    else
      (.success fresh .ok,
        { s with
          incarnationTable := s.incarnationTable.insert device ⟨device, fresh, [fresh]⟩
          nextIncarnation := fresh + 1 }.bumpPolicyRevision)
  | some entry =>
    if entry.history.length ≥ s.policy.limits.maxIncarnationsPerDevice.toNat then
      (.failure .rejectedDeviceBudgetExhausted (text "incarnation bound reached"), s)
    else
      (.success fresh .ok,
        { s with
          incarnationTable := s.incarnationTable.insert device
            { entry with current := fresh, history := sortIncarnations (entry.history ++ [fresh]) }
          nextIncarnation := fresh + 1 }.bumpPolicyRevision.refreshAllConflicts now)

/-- Make an incarnation the current one of a known device. -/
def setCurrent (device : DeviceIncarnationRef) : Registry :=
  match s.findDevice device.device with
  | some entry =>
    { s with
      incarnationTable := s.incarnationTable.insert device.device
        { entry with current := device.incarnation } }
  | none => s

/-- `Registry::set_device_incarnation`. -/
def setDeviceIncarnation (device : DeviceIdentity) (incarnation : IncarnationId) (now : Tick) :
    Outcome IncarnationId × Registry :=
  if incarnation = 0 then (.failure .rejectedZeroIncarnation (text "incarnation must be non-zero"), s)
  else match s.registerIncarnation ⟨device, incarnation⟩ with
    | .error refusal => (.failure refusal.reason refusal.detail, s)
    | .ok registered =>
      -- a device that was there already and keeps its current incarnation changes no authority
      if (s.findDevice device).map DeviceIncarnationEntry.current = some incarnation then
        (.success incarnation .ok, registered)
      else
        (.success incarnation .ok,
          (registered.setCurrent ⟨device, incarnation⟩).bumpPolicyRevision.refreshAllConflicts now)

section

variable (s : Registry) (device : DeviceIdentity) (now : Tick)

/-- What `begin_device_incarnation` can do: refuse for want of room, enter a new device, or give a known one its next
    incarnation. -/
inductive BeginView : Outcome IncarnationId × Registry → Prop
  | deviceBound (hnone : s.findDevice device = none)
      (hfull : s.policy.limits.maxDevices.toNat ≤ s.incarnationTable.size) :
      BeginView (.failure .rejectedDeviceBudgetExhausted (text "device bound reached"), s)
  | entered (hnone : s.findDevice device = none)
      (hroom : s.incarnationTable.size < s.policy.limits.maxDevices.toNat) :
      BeginView (.success s.freshIncarnation .ok,
        { s with
          incarnationTable := s.incarnationTable.insert device ⟨device, s.freshIncarnation, [s.freshIncarnation]⟩
          nextIncarnation := s.freshIncarnation + 1 }.bumpPolicyRevision)
  | incarnationBound {entry : DeviceIncarnationEntry} (hsome : s.findDevice device = some entry)
      (hfull : s.policy.limits.maxIncarnationsPerDevice.toNat ≤ entry.history.length) :
      BeginView (.failure .rejectedDeviceBudgetExhausted (text "incarnation bound reached"), s)
  | begun {entry : DeviceIncarnationEntry} (hsome : s.findDevice device = some entry)
      (hroom : entry.history.length < s.policy.limits.maxIncarnationsPerDevice.toNat) :
      BeginView (.success s.freshIncarnation .ok,
        { s with
          incarnationTable := s.incarnationTable.insert device
            { entry with
              current := s.freshIncarnation
              history := sortIncarnations (entry.history ++ [s.freshIncarnation]) }
          nextIncarnation := s.freshIncarnation + 1 }.bumpPolicyRevision.refreshAllConflicts now)

end

theorem beginDeviceIncarnation_view {device : DeviceIdentity} {now : Tick} {result : _}
    (hop : s.beginDeviceIncarnation device now = result) : BeginView s device now result := by
  subst hop
  rw [beginDeviceIncarnation]
  split
  next hnone =>
    split
    next hfull => exact .deviceBound hnone hfull
    next hroom => exact .entered hnone (not_le.mp hroom)
  next entry hsome =>
    split
    next hfull => exact .incarnationBound hsome hfull
    next hroom => exact .begun hsome (not_le.mp hroom)

section

variable (s : Registry) (device : DeviceIdentity) (incarnation : IncarnationId) (now : Tick)

/-- What `set_device_incarnation` can do: refuse, register the incarnation that is current already, or register one and
    make it current. -/
inductive SetDeviceView : Outcome IncarnationId × Registry → Prop
  | refused {reason : ReasonCode} {detail : Bytes} : SetDeviceView (.failure reason detail, s)
  | kept {t : Registry} (hnonzero : incarnation ≠ 0) (hregistered : s.registerIncarnation ⟨device, incarnation⟩ = .ok t)
      (hcurrent : (s.findDevice device).map DeviceIncarnationEntry.current = some incarnation) :
      SetDeviceView (.success incarnation .ok, t)
  | changed {t : Registry} (hnonzero : incarnation ≠ 0)
      (hregistered : s.registerIncarnation ⟨device, incarnation⟩ = .ok t)
      (hother : (s.findDevice device).map DeviceIncarnationEntry.current ≠ some incarnation) :
      SetDeviceView
        (.success incarnation .ok, (t.setCurrent ⟨device, incarnation⟩).bumpPolicyRevision.refreshAllConflicts now)

end

theorem setDeviceIncarnation_view {device : DeviceIdentity} {incarnation : IncarnationId} {now : Tick} {result : _}
    (hop : s.setDeviceIncarnation device incarnation now = result) : SetDeviceView s device incarnation now result := by
  subst hop
  rw [setDeviceIncarnation]
  split
  · exact .refused
  next hnonzero =>
    split
    · exact .refused
    next t hregistered =>
      split
      next hcurrent => exact .kept hnonzero hregistered hcurrent
      next hother => exact .changed hnonzero hregistered hother

/-- `Registry::current_incarnation`. -/
def currentIncarnation (s : Registry) (device : DeviceIdentity) : Outcome IncarnationId :=
  match s.findDevice device with
  | none => .failure .unknownDeviceNotRegistered (text "device is not registered")
  | some entry => .success entry.current .ok

/-! ### Source policy -/

/-- Replace the policy entries. -/
def withSources (s : Registry) (sources : List SourcePolicy) : Registry :=
  { s with policy := { s.policy with sources } }

section

variable (source : SourceId)

/-- Change the last policy entry of a source, unless it already is as wanted. -/
def updateSource (settled : SourcePolicy → Bool) (change : SourcePolicy → SourcePolicy)
  (now : Tick)
    : Outcome Bool × Registry :=
  match s.policy.sources.reverse.find? (fun entry => entry.id == source) with
  | none => (.failure .unknownSourceNotConfigured (text "source has no policy entry"), s)
  | some target =>
    if settled target then (.success true .alreadyPresent, s)
    else
      let sources := (replaceFirst (fun entry => entry.id == source) (change target)
        s.policy.sources.reverse).reverse
      (.success true .acceptedNew, (s.withSources sources).bumpPolicyRevision.refreshAllConflicts now)

/-- `revoke_source`. -/
def revokeSource (now : Tick) : Outcome Bool × Registry :=
  s.updateSource source (fun entry => entry.trust = .revoked) (fun entry => { entry with trust := .revoked }) now

/-- `restore_source`. -/
def restoreSource (now : Tick) : Outcome Bool × Registry :=
  s.updateSource source (fun entry => entry.trust = .trusted) (fun entry => { entry with trust := .trusted }) now

/-- `set_source_authority`. -/
def setSourceAuthority (authority : AuthorityRank) (now : Tick) : Outcome Bool × Registry :=
  s.updateSource source (fun entry => entry.authority = authority) (fun entry => { entry with authority }) now

end

end Registry

/-- An operator declaration has at least operator authority. -/
def SourcePolicy.raised (policy : SourcePolicy) : SourcePolicy :=
  if policy.kind = .operatorDeclaration ∧ policy.authority < .operator then
    { policy with authority := .operator }
  else policy

@[simp] theorem SourcePolicy.raised_id : policy.raised.id = policy.id := by
  rw [SourcePolicy.raised]
  split <;> rfl

namespace Registry

/-- `Registry::upsert_source_policy`. -/
def upsertSourcePolicy (s : Registry) (policy : SourcePolicy) (now : Tick) : Outcome SourcePolicy × Registry :=
  if policy.id.empty then (.failure .rejectedMalformedName (text "source id is empty"), s)
  else
    let entry := policy.raised
    if s.policy.sources.any (fun source => source.id == entry.id) then
      (.success entry .ok,
        (s.withSources (replaceFirst (fun source => source.id == entry.id) entry
          s.policy.sources)).bumpPolicyRevision.refreshAllConflicts now)
    else if s.policy.sources.length ≥ s.policy.limits.maxSources.toNat then
      (.failure .rejectedAuthorityInsufficient (text "source bound reached"), s)
    else
      (.success entry .ok,
        (s.withSources (sortSources (s.policy.sources ++ [entry]))).bumpPolicyRevision.refreshAllConflicts now)

section

variable (s : Registry) (source : SourceId) (settled : SourcePolicy → Bool) (change : SourcePolicy → SourcePolicy)
  (now : Tick)

/-- What a change of a source can do: find no entry, find it as wanted, or change it. -/
inductive UpdateView : Outcome Bool × Registry → Prop
  | missing (hnone : s.policy.sources.reverse.find? (fun entry => entry.id == source) = none) :
      UpdateView
        (.failure .unknownSourceNotConfigured (text "source has no policy entry"), s)
  | kept {target : SourcePolicy} (hsome : s.policy.sources.reverse.find?
      (fun entry => entry.id == source) = some target)
      (hsettled : settled target = true) : UpdateView (.success true .alreadyPresent, s)
  | changed {target : SourcePolicy}
      (hsome : s.policy.sources.reverse.find? (fun entry => entry.id == source) = some target)
      (hsettled : settled target ≠ true) :
      UpdateView (.success true .acceptedNew,
        (s.withSources (replaceFirst (fun entry => entry.id == source) (change target)
          s.policy.sources.reverse).reverse).bumpPolicyRevision.refreshAllConflicts now)

end

theorem updateSource_view {source : SourceId} {settled : SourcePolicy → Bool} {change : SourcePolicy → SourcePolicy}
    {now : Tick} {result : _} (hop : s.updateSource source settled change now = result) :
    UpdateView s source settled change now result := by
  subst hop
  rw [updateSource]
  split
  next hnone => exact .missing hnone
  next target hsome =>
    split
    next hsettled => exact .kept hsome hsettled
    next hsettled => exact .changed hsome hsettled

/-- What `upsert_source_policy` can do: refuse, replace the entry of the source, or sort in a new one. -/
inductive UpsertView (s : Registry) (policy : SourcePolicy) (now : Tick) : Outcome SourcePolicy × Registry → Prop
  | refused {reason : ReasonCode} {detail : Bytes} : UpsertView s policy now (.failure reason detail, s)
  | replaced (hthere : s.policy.sources.any (fun source => source.id == policy.raised.id) = true) :
      UpsertView s policy now (.success policy.raised .ok,
        (s.withSources (replaceFirst (fun source => source.id == policy.raised.id) policy.raised
          s.policy.sources)).bumpPolicyRevision.refreshAllConflicts now)
  | added (hnew : s.policy.sources.any (fun source => source.id == policy.raised.id) ≠ true)
      (hroom : s.policy.sources.length < s.policy.limits.maxSources.toNat) :
      UpsertView s policy now (.success policy.raised .ok,
        (s.withSources (sortSources (s.policy.sources ++ [policy.raised]))).bumpPolicyRevision.refreshAllConflicts now)

theorem upsertSourcePolicy_view {policy : SourcePolicy} {now : Tick} {result : _}
    (hop : s.upsertSourcePolicy policy now = result) : UpsertView s policy now result := by
  subst hop
  rw [upsertSourcePolicy]
  split
  · exact .refused
  · dsimp only
    split
    next hthere => exact .replaced hthere
    next hnew =>
      split
      · exact .refused
      next hroom => exact .added hnew (not_le.mp hroom)

/-! ### Conflict resolution -/

/-- The id of a resolution covers everything but the epoch. -/
def resolutionId (conflict : ConflictId) (chosen : EvidenceId) (rejectedMembers : List EvidenceId)
    (resolver : SourceId) (now : Tick) : ResolutionId :=
  Digest256.of (Writer.u16 kApiGeneration.toUInt16 ++ (Writer.digest conflict ++ (Writer.digest chosen ++
    (Writer.collection Writer.digest rejectedMembers ++ (Writer.name resolver ++ Writer.u64 now)))))

/-- Store a resolution: in place of one with the same id, else sorted in, dropping the first at the bound.
    Dropping from an empty table, which the source leaves undefined, drops nothing here. -/
def pushResolution (s : Registry) (resolution : ConflictResolution) : Registry :=
  let same := fun entry : ConflictResolution => entry.id == resolution.id
  if s.resolutionTable.any same then
    { s with resolutionTable := replaceFirst same resolution s.resolutionTable }
  else
    let full := s.resolutionTable.length ≥ s.policy.limits.maxResolutions.toNat
    { s with
      resolutionTable := ((if full then s.resolutionTable.drop 1 else s.resolutionTable) ++
        [resolution]).insertionSort (fun a b => a.id ≤ b.id)
      counters := { s.counters with
        resolutionsDropped := if full then s.counters.resolutionsDropped + 1
          else s.counters.resolutionsDropped } }

theorem pushResolution_frame (resolution : ConflictResolution) : ∃ resolutions dropped, s.pushResolution resolution =
      { s with
        resolutionTable := resolutions
        counters := { s.counters with resolutionsDropped := dropped } } := by
  rw [pushResolution]
  dsimp only
  split
  · exact ⟨_, _, rfl⟩
  · exact ⟨_, _, rfl⟩

/-- The resolver needs a trusted policy entry where entries are required. -/
def resolverRefusal (s : Registry) (resolver : SourceId) : Option Refusal :=
  match s.policy.findSource resolver with
  | none =>
    if s.policy.requireConfiguredSource then
      some ⟨.rejectedUnknownSource, text "resolver has no policy entry"⟩
    else none
  | some policy =>
    if policy.trust ≠ .trusted then some ⟨.rejectedSourceUntrusted, text "resolver is not trusted"⟩ else none

/-- The resolution of a group in favour of one of its members. -/
def resolutionOf (s : Registry) (group : ConflictGroup) (chosen : EvidenceId) (resolver : SourceId) (now : Tick) :
    ConflictResolution :=
  let rejectedMembers := group.members.filter (fun member => member != chosen)
  { id := resolutionId group.id chosen rejectedMembers resolver now
    conflict := group.id
    chosen, rejectedMembers, resolver
    resolvedAt := now
    epoch := s.epoch }

section

variable (conflict : ConflictId) (chosen : EvidenceId) (resolver : SourceId)

/-- `Registry::resolve_conflict`. The last group of that id counts. -/
def resolveConflict (now : Tick) : Outcome ConflictResolution × Registry :=
  match s.conflictTable.reverse.find? (fun group => group.id == conflict) with
  | none => (.failure .conflictUnresolved (text "conflict group is not known"), s)
  | some group =>
    if chosen ∉ group.members then (.failure .conflictUnresolved (text "chosen record is not a member"), s)
    else match s.resolverRefusal resolver with
      | some refusal => (.failure refusal.reason refusal.detail, s)
      | none =>
        -- the group was found by its id, so the conflict it names is the one asked for
        let resolution := s.resolutionOf group chosen resolver now
        let pushed := s.pushResolution resolution
        (.success resolution .ok,
          { pushed with counters := { pushed.counters with
              conflictsResolved := pushed.counters.conflictsResolved + 1 } })

/-- The conflict is in the table, as this group, the chosen record is in it and the resolver may resolve it. -/
def Resolvable (group : ConflictGroup) : Prop :=
  s.conflictTable.reverse.find? (fun group => group.id == conflict) = some group ∧ chosen ∈ group.members ∧
    s.resolverRefusal resolver = none

end

theorem Resolvable.id_eq {s : Registry} {conflict : ConflictId} {chosen : EvidenceId} {resolver : SourceId}
    {group : ConflictGroup} (h : s.Resolvable conflict chosen resolver group) : group.id = conflict := by
  simpa using List.find?_some h.1

section

variable (s : Registry) (conflict : ConflictId) (chosen : EvidenceId) (resolver : SourceId) (now : Tick)

/-- What `resolve_conflict` can do: refuse, or store the resolution of the group it finds. -/
inductive ResolveView : Outcome ConflictResolution × Registry → Prop
  | refused {reason : ReasonCode} {detail : Bytes} (h : ∀ group, ¬ s.Resolvable conflict chosen resolver group) :
      ResolveView (.failure reason detail, s)
  | resolved {group : ConflictGroup} (h : s.Resolvable conflict chosen resolver group) :
      ResolveView
        (.success (s.resolutionOf group chosen resolver now) .ok,
          { s.pushResolution (s.resolutionOf group chosen resolver now) with
            counters :=
              { (s.pushResolution (s.resolutionOf group chosen resolver now)).counters with
                conflictsResolved :=
                  (s.pushResolution (s.resolutionOf group chosen resolver now)).counters.conflictsResolved + 1 } })

end

theorem resolveConflict_view {conflict : ConflictId} {chosen : EvidenceId} {resolver : SourceId} {now : Tick}
    {result : _} (hop : s.resolveConflict conflict chosen resolver now = result) :
    ResolveView s conflict chosen resolver now result := by
  subst hop
  rw [resolveConflict]
  split
  next hnone =>
    apply ResolveView.refused
    rintro group ⟨hfind, _⟩
    cases hnone.symm.trans hfind
  next group hfind =>
    split
    next hchosen =>
      apply ResolveView.refused
      rintro other ⟨hother, hmember, _⟩
      cases hfind.symm.trans hother
      exact hchosen hmember
    next hchosen =>
      split
      next refusal hrefused =>
        apply ResolveView.refused
        rintro other ⟨_, _, hallowed⟩
        cases hrefused.symm.trans hallowed
      next hallowed =>
        have hgroup : s.Resolvable conflict chosen resolver group := ⟨hfind, not_not.mp hchosen, hallowed⟩
        have hid := hgroup.id_eq
        subst hid
        exact .resolved hgroup

/-! ### Clocks and bounds -/

/-- `Registry::set_rule_generation`. -/
def setRuleGeneration (generation : RuleGeneration) : Outcome Bool × Registry :=
  if generation = 0 then
    (.failure .rejectedRuleGenerationOutOfRange (text "generation must be non-zero"), s)
  else if generation < s.ruleGeneration then
    (.failure .rejectedRuleGenerationOutOfRange (text "rule generation must not move backwards"), s)
  else if generation = s.ruleGeneration then (.success true .alreadyPresent, s)
  else
    (.success true .acceptedNew,
      { s with ruleGeneration := generation
               policy := { s.policy with ruleGeneration := generation } }.bumpPolicyRevision)

/-- `Registry::advance_epoch`; the reason it is given has no effect. -/
def advanceEpoch : Outcome Bool × Registry := (.success true .acceptedNew, s.bumpPolicyRevision)

/-- `Registry::set_logical_tick`. -/
def setLogicalTick (now : Tick) : Outcome Bool × Registry :=
  if now < s.logicalTick then
    (.failure .rejectedStaleObservation (text "logical clock must be monotonic"), s)
  else (.success true .ok, { s with logicalTick := now })

/-- `Registry::set_limits`. Nothing is evicted until the next admission. -/
def setLimits (limits : RegistryLimits) : Registry :=
  { s with policy := { s.policy with limits } }.bumpPolicyRevision

end Registry

/-! ### Restoring -/

/-- Latest observation among records. -/
def highestObserved (records : List StoredEvidence) : Tick :=
  records.foldl (fun highest record =>
    if record.evidence.observedAt > highest then record.evidence.observedAt else highest) 0

namespace Registry

/-- The tick a restored registry resumes at: the latest of its own, the caller's and any observation. -/
def resumeTick (state : RegistryState) (now : Tick) : Tick :=
  let resume := if now > state.logicalTick then now else state.logicalTick
  if highestObserved state.records > resume then highestObserved state.records else resume

/-- The contents `adopt_state` leaves before conflicts are recomputed: a new boot, under the state's policy
    when it has sources and under the registry's own otherwise. -/
def rebooted (s : Registry) (state : RegistryState) (now : Tick) : Registry :=
  let adopted := Registry.adopt state
  let policy := if state.policy.sources = [] then s.policy else adopted.policy
  { adopted with
    policy
    ruleGeneration := policy.ruleGeneration
    bootEpoch := state.bootEpoch + 1
    policyRevision := adopted.policyRevision + 1
    epoch := adopted.epoch + 1
    logicalTick := resumeTick state now }

/-- States of all facts, group by group. -/
def allFactStates (s : Registry) (now : Tick) : List EvidenceState :=
  s.groupKeys.flatMap (fun group => (s.derive group.1 group.2 now 0).facts.map DerivedFact.state)

/-- What `adopt_state` reports about a restored registry. -/
def recoverySummary (restored : Registry) (state : RegistryState) (now : Tick) : RecoverySummary :=
  let states := restored.allFactStates (resumeTick state now)
  let fenced := states.countP (· = .fenced)
  { classification := if fenced > 0 then .rebuiltFromSnapshot else .cleanOpen
    reason := if fenced > 0 then .recoveryRebuiltFromSnapshot else .recoveryCleanOpen
    recordsAdopted := UInt64.ofNat restored.totalRecords
    recordsFenced := UInt64.ofNat fenced
    recordsCarriedForward := UInt64.ofNat (states.countP (fun state => state = .active ∨ state = .outranked))
    tombstonesAdopted := UInt64.ofNat restored.flattenTombstones.length
    conflictsAdopted := UInt64.ofNat restored.conflictTable.length
    resolutionsAdopted := UInt64.ofNat restored.resolutionTable.length
    evictionsAdopted := UInt64.ofNat restored.evictionTable.length
    snapshotGeneration := state.storeGeneration
    previousBootEpoch := state.bootEpoch
    bootEpoch := state.bootEpoch + 1
    notes := canonicalReasons [if fenced > 0 then .recoveryRebuiltFromSnapshot else .recoveryCleanOpen] }

/-- `Registry::adopt_state`. -/
def adoptState (s : Registry) (state : RegistryState) (now : Tick) : Outcome RecoverySummary × Registry :=
  let restored := (s.rebooted state now).refreshAllConflicts (resumeTick state now)
  (.success (recoverySummary restored state now) .ok, restored)

end Registry

end Ocreg
