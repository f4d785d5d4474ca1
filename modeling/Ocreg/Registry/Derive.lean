/-
Module: Ocreg.Registry.Derive
Purpose: Derived state of evidence: the ordered classification of one record, ranking by authority inside a
  group, disagreement, and the maintenance of the conflict table.
-/
import Ocreg.Registry.State

namespace Ocreg

open List

variable {fact : DerivedFact} {highest : AuthorityRank} (facts : List DerivedFact)
  {verdict rest : EvidenceState × ReasonCode} {c : Prop}

/-! ### Classification -/

/-- Freshness bound that applies to a record. A caller-supplied override always wins. -/
def effectiveMaxAge (policy : RegistryPolicy) (source : Option SourcePolicy) (overrideAge : Tick) : Tick :=
  if overrideAge ≠ 0 then overrideAge
  else match source with
    | none => policy.defaultMaxAge
    | some source =>
      if source.maxAge ≠ 0 then source.maxAge
      else if source.kind = .operatorDeclaration then 0
      else policy.defaultMaxAge

def observedAge (now observedAt : Tick) : Tick := if now ≤ observedAt then 0 else now - observedAt

/-- The fields on which two assertions can disagree. -/
def recordsDiffer (lhs rhs : CapabilityEvidence) : Bool :=
  lhs.capabilityVersion ≠ rhs.capabilityVersion || lhs.features ≠ rhs.features || lhs.limits ≠ rhs.limits
    || lhs.firmwareVersion ≠ rhs.firmwareVersion || lhs.firmwareGeneration ≠ rhs.firmwareGeneration
    || lhs.runtimeVersion ≠ rhs.runtimeVersion || lhs.runtimeGeneration ≠ rhs.runtimeGeneration

def computeConflictId (device : DeviceIncarnationRef) (kind : CapabilityKind) (members : List EvidenceId) :
    ConflictId :=
  Digest256.of (Writer.u16 kApiGeneration.toUInt16 ++ (device.encode ++ (Writer.u16 kind.code ++
    Writer.collection Writer.digest members)))

/-- A record with the state derived for it. -/
structure DerivedFact where
  record : StoredEvidence
  state : EvidenceState
  reason : ReasonCode
  age : Tick
deriving DecidableEq

/-- What a group of records says. -/
structure Derivation where
  /-- Ordered by evidence id. -/
  facts : List DerivedFact
  /-- Active at the highest authority, ordered by evidence id. -/
  live : List StoredEvidence
  liveAuthority : AuthorityRank
  disagrees : Bool
  conflict : Option ConflictId
deriving DecidableEq

namespace Registry

section

variable (s : Registry)

/-- The ordered cascade: the first test that applies decides. -/
def classify (record : StoredEvidence) (stream : Stream) (source : Option SourcePolicy)
    (device : DeviceIncarnationRef) (now maxAgeOverride : Tick) : EvidenceState × ReasonCode :=
  if record.lifecycle = .rejected then (.rejected, record.admissionReason)
  else if record.lifecycle = .retired then (.retired, record.retirementReason)
  else if stream.maxGeneration ≠ 0 ∧ record.evidence.generation < stream.maxGeneration then
    (.superseded, .rejectedSupersededGeneration)
  else if (s.findDevice device.device).map DeviceIncarnationEntry.current ≠ some device.incarnation then
    (.fenced, .unknownIncarnationNotCurrent)
  else match source with
    | none => (.fenced, .unknownSourceNotConfigured)
    | some source =>
      if source.trust = .revoked then (.fenced, .incompatibleSourceRevoked)
      else if source.trust = .untrusted ∧ s.policy.refuseUntrustedSources then
        (.fenced, .rejectedSourceUntrusted)
      else if record.evidence.bootAtIngest > s.bootEpoch then (.fenced, .storeBootReplay)
      else if record.evidence.bootAtIngest < s.bootEpoch ∧ ¬ source.durableAcrossBoot ∧
          s.policy.bootPolicy = .conservativeFence then
        (.fenced, .unknownFencedEvidence)
      else if effectiveMaxAge s.policy (some source) maxAgeOverride ≠ 0 ∧
          observedAge now record.evidence.observedAt
            > effectiveMaxAge s.policy (some source) maxAgeOverride then
        (.stale, .unknownStaleEvidence)
      else if ∃ tick ∈ record.evidence.validUntil, now > tick then (.stale, .unknownStaleEvidence)
      else (.active, .acceptedNew)

/-- The streams of one device incarnation and kind. -/
def groupStreams (device : DeviceIncarnationRef) (kind : CapabilityKind) : List (EvidenceKey × Stream) :=
  s.streams.entries.filter (fun entry => entry.1.device == device && entry.1.kind == kind)

def factOf (key : EvidenceKey) (stream : Stream) (now maxAgeOverride : Tick) (record : StoredEvidence) : DerivedFact :=
  let verdict := s.classify record stream (s.policy.findSource key.source) key.device now maxAgeOverride
  { record, state := verdict.1, reason := verdict.2, age := observedAge now record.evidence.observedAt }

/-- Facts before ranking, in stream order. -/
def rawFacts (device : DeviceIncarnationRef) (kind : CapabilityKind) (now maxAgeOverride : Tick) : List DerivedFact :=
  (s.groupStreams device kind).flatMap (fun entry =>
    entry.2.records.map (s.factOf entry.1 entry.2 now maxAgeOverride))

end

end Registry

/-- Highest authority among the active facts. -/
def highestAuthority (facts : List DerivedFact) : AuthorityRank :=
  facts.foldl (fun highest fact =>
    if fact.state = .active ∧ fact.record.evidence.authority > highest then fact.record.evidence.authority
    else highest) .none

/-- An active fact below the highest authority is outranked. -/
def DerivedFact.ranked (highest : AuthorityRank) (fact : DerivedFact) : DerivedFact :=
  if fact.state = .active ∧ fact.record.evidence.authority < highest then
    { fact with state := .outranked, reason := .conflictOutranked }
  else fact

/-- Some record differs from the first. -/
def liveDisagrees : List StoredEvidence → Bool
  | [] => false
  | first :: rest => rest.any (fun record => recordsDiffer first.evidence record.evidence)

def sortById (records : List StoredEvidence) : List StoredEvidence :=
  records.insertionSort (fun a b => a.id ≤ b.id)

namespace Registry

/-- `derive`: states, ranking and conflict of a group. -/
def derive (s : Registry) (device : DeviceIncarnationRef) (kind : CapabilityKind)
    (now maxAgeOverride : Tick) : Derivation :=
  let raw := s.rawFacts device kind now maxAgeOverride
  let highest := highestAuthority raw
  let facts := raw.map (DerivedFact.ranked highest)
  let live := sortById ((facts.filter (fun fact => fact.state = .active)).map DerivedFact.record)
  { facts := facts.insertionSort (fun a b => a.record.id ≤ b.record.id)
    live
    liveAuthority := highest
    disagrees := liveDisagrees live
    conflict := if liveDisagrees live then some (computeConflictId device kind (live.map StoredEvidence.id))
      else none }

end Registry

/-! ### Conflict table -/

/-- The group a disagreeing derivation describes. `live` is not empty then. -/
def conflictGroupOf (derivation : Derivation) (device : DeviceIncarnationRef) (kind : CapabilityKind) : ConflictGroup :=
  let first := (derivation.live.head?.map (fun record => record.evidence.observedAt)).getD 0
  { id := derivation.conflict.getD .zero
    device
    kind
    authority := derivation.liveAuthority
    members := (derivation.live.map StoredEvidence.id).insertionSort (· ≤ ·)
    generations := derivation.live.map (fun record => record.evidence.generation)
    observedFirst := derivation.live.foldl (fun least record =>
      if record.evidence.observedAt < least then record.evidence.observedAt else least) first
    observedLast := derivation.live.foldl (fun greatest record =>
      if record.evidence.observedAt > greatest then record.evidence.observedAt else greatest) first }

/-- Replace the first entry that satisfies a test. -/
def replaceFirst {α : Type} (test : α → Bool) (value : α) : List α → List α
  | [] => []
  | a :: rest => if test a then value :: rest else a :: replaceFirst test value rest

theorem mem_replaceFirst {α : Type} {test : α → Bool} {value a : α} {as : List α}
    (h : a ∈ replaceFirst test value as) : a = value ∨ a ∈ as := by
  induction as with
  | nil => cases h
  | cons b as ih =>
    rw [replaceFirst] at h
    split at h
    · rcases mem_cons.mp h with rfl | h
      · exact .inl rfl
      · exact .inr (mem_cons_of_mem b h)
    · rcases mem_cons.mp h with rfl | h
      · exact .inr mem_cons_self
      · exact (ih h).imp_right (mem_cons_of_mem b)

/-- Replacing the first match by a value of the same key leaves the list of keys alone. -/
theorem map_replaceFirst {α κ : Type} (keyOf : α → κ) {test : α → Bool} {value : α} {values : List α}
    (h : ∀ found ∈ values.find? test, keyOf found = keyOf value) :
    (replaceFirst test value values).map keyOf = values.map keyOf := by
  induction values with
  | nil => rfl
  | cons head rest ih =>
    rw [replaceFirst]
    split
    next htest =>
      have hhead : keyOf head = keyOf value := h head (by rw [List.find?_cons_of_pos htest]; rfl)
      rw [map_cons, map_cons, hhead]
    next htest =>
      rw [List.find?_cons_of_neg htest] at h
      rw [map_cons, map_cons, ih h]

def sortConflicts (table : List ConflictGroup) : List ConflictGroup :=
  table.insertionSort (fun a b => a.id ≤ b.id)

namespace Registry

section

variable (s : Registry) (device : DeviceIncarnationRef) (kind : CapabilityKind) (now : Tick)

/-- The table and counters after bringing one group's entry up to date. -/
def refreshedConflicts : List ConflictGroup × RegistryCounters :=
  let derivation := s.derive device kind now 0
  let same := fun group : ConflictGroup => group.device == device && group.kind == kind
  if !derivation.disagrees then (s.conflictTable.eraseP same, s.counters)
  else
    let group := conflictGroupOf derivation device kind
    match s.findConflict device kind with
    | some existing =>
      let table := replaceFirst same group s.conflictTable
      (if existing.id ≠ group.id then sortConflicts table else table, s.counters)
    | none =>
      if s.conflictTable.length ≥ s.policy.limits.maxConflictGroups.toNat then
        (s.conflictTable, { s.counters with conflictsDropped := s.counters.conflictsDropped + 1 })
      else (sortConflicts (s.conflictTable ++ [group]), s.counters)

/-- `refresh_conflict`: derive a group again and enter or drop its conflict. -/
def refreshConflict : Registry :=
  { s with
    conflictTable := (s.refreshedConflicts device kind now).1
    counters := (s.refreshedConflicts device kind now).2 }

/-- The ways bringing a group up to date can go. -/
inductive ConflictUpdate :
    List ConflictGroup × RegistryCounters → Prop
  | settled (hagree : (s.derive device kind now 0).disagrees = false) :
      ConflictUpdate
        (s.conflictTable.eraseP (fun group => group.device == device && group.kind == kind), s.counters)
  | replaced {existing : ConflictGroup} (hdisagree : (s.derive device kind now 0).disagrees = true)
      (hfind : s.findConflict device kind = some existing)
      (hsame : existing.id = (conflictGroupOf (s.derive device kind now 0) device kind).id) :
      ConflictUpdate
        (replaceFirst (fun group => group.device == device && group.kind == kind)
          (conflictGroupOf (s.derive device kind now 0) device kind) s.conflictTable, s.counters)
  | resorted {existing : ConflictGroup} (hdisagree : (s.derive device kind now 0).disagrees = true)
      (hfind : s.findConflict device kind = some existing) :
      ConflictUpdate
        (sortConflicts (replaceFirst (fun group => group.device == device && group.kind == kind)
          (conflictGroupOf (s.derive device kind now 0) device kind) s.conflictTable), s.counters)
  | dropped (hdisagree : (s.derive device kind now 0).disagrees = true) (hfind : s.findConflict device kind = none)
      (hfull : s.policy.limits.maxConflictGroups.toNat ≤ s.conflictTable.length) :
      ConflictUpdate
        (s.conflictTable, { s.counters with conflictsDropped := s.counters.conflictsDropped + 1 })
  | added (hdisagree : (s.derive device kind now 0).disagrees = true) (hfind : s.findConflict device kind = none)
      (hroom : s.conflictTable.length < s.policy.limits.maxConflictGroups.toNat) :
      ConflictUpdate
        (sortConflicts (s.conflictTable ++ [conflictGroupOf (s.derive device kind now 0) device kind]), s.counters)

end

/-- Inversion of `refreshedConflicts`. -/
theorem refreshedConflicts_view (s : Registry) {device : DeviceIncarnationRef} {kind : CapabilityKind} {now : Tick}
    {result : _} (hop : s.refreshedConflicts device kind now = result) : ConflictUpdate s device kind now result := by
  subst hop
  rw [refreshedConflicts]
  cases hdisagrees : (s.derive device kind now 0).disagrees with
  | false => exact .settled hdisagrees
  | true =>
    dsimp only
    rw [if_neg (by decide)]
    cases hfind : s.findConflict device kind with
    | some existing =>
      dsimp only
      split
      · exact .resorted hdisagrees hfind
      next hsame => exact .replaced hdisagrees hfind (not_not.mp hsame)
    | none =>
      dsimp only
      split
      next hfull => exact .dropped hdisagrees hfind hfull
      next hroom => exact .added hdisagrees hfind (not_le.mp hroom)

/-- Only the group that is brought up to date can come in. -/
theorem mem_of_mem_refreshed {s : Registry} {device : DeviceIncarnationRef} {kind : CapabilityKind} {now : Tick}
    {group : ConflictGroup} (h : group ∈ (s.refreshedConflicts device kind now).1) :
    group ∈ s.conflictTable ∨ ((s.derive device kind now 0).disagrees = true ∧
      group = conflictGroupOf (s.derive device kind now 0) device kind) := by
  generalize hop : s.refreshedConflicts device kind now = result at h
  cases s.refreshedConflicts_view hop with
  | settled _ => exact .inl (mem_of_mem_eraseP h)
  | replaced hdisagrees _ _ =>
    rcases mem_replaceFirst h with hnew | hold
    · exact .inr ⟨hdisagrees, hnew⟩
    · exact .inl hold
  | resorted hdisagrees _ =>
    rcases mem_replaceFirst ((mem_insertionSort _).mp h) with hnew | hold
    · exact .inr ⟨hdisagrees, hnew⟩
    · exact .inl hold
  | dropped _ _ _ => exact .inl h
  | added hdisagrees _ _ =>
    rcases mem_append.mp ((mem_insertionSort _).mp h) with hold | hnew
    · exact .inl hold
    · exact .inr ⟨hdisagrees, mem_singleton.mp hnew⟩

/-- Groups that have streams, in map order. -/
def groupKeys (s : Registry) : List (DeviceIncarnationRef × CapabilityKind) :=
  (s.streams.entries.map (fun entry => (entry.1.device, entry.1.kind))).dedup

/-- Recompute the table from nothing. A group with tombstones only derives no facts and leaves no trace. -/
def refreshAllConflicts (s : Registry) (now : Tick) : Registry :=
  s.groupKeys.foldl (fun s group => s.refreshConflict group.1 group.2 now) { s with conflictTable := [] }

end Registry

/-! ### Which records count -/

/-- The tests a record passes to count: admitted, at its stream's newest generation, on the device's current
    incarnation, from a configured source in good standing, not fenced by a boot, and fresh. -/
structure Registry.Eligible (s : Registry) (key : EvidenceKey) (stream : Stream) (now maxAgeOverride : Tick)
    (record : StoredEvidence) (source : SourcePolicy) : Prop where
  admitted : record.lifecycle = .admitted
  newest : ¬ (stream.maxGeneration ≠ 0 ∧ record.evidence.generation < stream.maxGeneration)
  current : (s.findDevice key.device.device).map DeviceIncarnationEntry.current = some key.device.incarnation
  configured : s.policy.findSource key.source = some source
  unrevoked : source.trust ≠ .revoked
  trusted : ¬ (source.trust = .untrusted ∧ s.policy.refuseUntrustedSources = true)
  booted : record.evidence.bootAtIngest ≤ s.bootEpoch
  unfenced : ¬ (record.evidence.bootAtIngest < s.bootEpoch ∧ ¬ source.durableAcrossBoot = true ∧
    s.policy.bootPolicy = .conservativeFence)
  fresh : ¬ (effectiveMaxAge s.policy (some source) maxAgeOverride ≠ 0 ∧
    observedAge now record.evidence.observedAt > effectiveMaxAge s.policy (some source) maxAgeOverride)
  valid : ¬ ∃ tick ∈ record.evidence.validUntil, now > tick

/-- A cascade step whose verdict is not active is active when the test fails and the rest is. -/
theorem cascade_active [Decidable c] (h : verdict.1 ≠ .active) :
    (if c then verdict else rest).1 = .active ↔ ¬ c ∧ rest.1 = .active := by
  by_cases hc : c
  · simp [hc, h]
  · simp [hc]

/-- The cascade ends in active exactly for eligible records. -/
theorem Registry.classify_active (s : Registry) (key : EvidenceKey) (stream : Stream)
    (now maxAgeOverride : Tick) (record : StoredEvidence) :
    (s.classify record stream (s.policy.findSource key.source) key.device now maxAgeOverride).1 = .active ↔
      ∃ source, s.Eligible key stream now maxAgeOverride record source := by
  unfold classify
  iterate 4 rw [cascade_active (by simp)]
  have hlifecycle : record.lifecycle = .admitted ↔ record.lifecycle ≠ .rejected ∧ record.lifecycle ≠ .retired := by
    cases record.lifecycle <;> simp
  cases hsource : s.policy.findSource key.source with
  | none =>
    constructor
    · rintro ⟨_, _, _, _, hactive⟩
      simp at hactive
    · rintro ⟨source, h⟩
      have hconfigured := h.configured
      rw [hsource] at hconfigured
      cases hconfigured
  | some source =>
    dsimp only
    iterate 6 rw [cascade_active (by simp)]
    constructor
    · rintro ⟨hrejected, hretired, hnewest, hcurrent, hunrevoked, htrusted, hbooted, hunfenced, hfresh, hvalid, _⟩
      exact ⟨source, hlifecycle.mpr ⟨hrejected, hretired⟩, hnewest, not_not.mp hcurrent, hsource, hunrevoked,
        htrusted, not_lt.mp hbooted, hunfenced, hfresh, hvalid⟩
    · rintro ⟨other, h⟩
      have hconfigured := h.configured
      rw [hsource] at hconfigured
      cases hconfigured
      obtain ⟨hrejected, hretired⟩ := hlifecycle.mp h.admitted
      exact ⟨hrejected, hretired, h.newest, not_not.mpr h.current, h.unrevoked, h.trusted, not_lt.mpr h.booted,
        h.unfenced, h.fresh, h.valid, rfl⟩

/-- States that only ranking and eviction give. -/
def EvidenceState.Assigned (state : EvidenceState) : Prop := state ≠ .outranked ∧ state ≠ .evicted

/-- What every verdict of a cascade has, the cascade has. -/
theorem cascade_all {P : EvidenceState → Prop} [Decidable c] (hverdict : P verdict.1) (hrest : P rest.1) :
    P (if c then verdict else rest).1 := by
  split
  · exact hverdict
  · exact hrest

theorem Registry.classify_assigned (s : Registry) (record : StoredEvidence) (stream : Stream)
    (source : Option SourcePolicy) (device : DeviceIncarnationRef) (now maxAgeOverride : Tick) :
    (s.classify record stream source device now maxAgeOverride).1.Assigned := by
  unfold classify
  iterate 4 refine cascade_all ⟨nofun, nofun⟩ ?_
  cases source with
  | none => exact ⟨nofun, nofun⟩
  | some source =>
    iterate 6 refine cascade_all ⟨nofun, nofun⟩ ?_
    exact ⟨nofun, nofun⟩

/-! ### Ranking -/

theorem highestAuthority_ge_acc (acc : AuthorityRank) : acc ≤ facts.foldl (fun highest fact =>
      if fact.state = .active ∧ fact.record.evidence.authority > highest then fact.record.evidence.authority
      else highest) acc := by
  induction facts generalizing acc with
  | nil => exact le_refl acc
  | cons fact facts ih =>
    rw [foldl_cons]
    split
    next h => exact le_trans (le_of_lt h.2) (ih _)
    next => exact ih _

theorem le_highestAuthority {facts : List DerivedFact} (hmem : fact ∈ facts) (hactive : fact.state = .active) :
    fact.record.evidence.authority ≤ highestAuthority facts := by
  rw [highestAuthority]
  generalize AuthorityRank.none = acc
  induction facts generalizing acc with
  | nil => cases hmem
  | cons head facts ih =>
    rw [foldl_cons]
    rcases mem_cons.mp hmem with rfl | hmem
    · refine le_trans ?_ (highestAuthority_ge_acc facts _)
      split
      next => exact le_refl _
      next h => exact not_lt.mp (fun hlt => h ⟨hactive, hlt⟩)
    · exact ih hmem _

/-- The highest authority is that of an active fact, unless it is none. -/
theorem highestAuthority_attained : highestAuthority facts = .none ∨
      ∃ fact ∈ facts, fact.state = .active ∧ fact.record.evidence.authority = highestAuthority facts := by
  rw [highestAuthority]
  generalize AuthorityRank.none = acc
  induction facts generalizing acc with
  | nil => exact .inl rfl
  | cons head facts ih =>
    rw [foldl_cons]
    split
    next h =>
      rcases ih head.record.evidence.authority with heq | ⟨fact, hmem, hactive, hauth⟩
      · exact .inr ⟨head, mem_cons_self, h.1, heq.symm⟩
      · exact .inr ⟨fact, mem_cons_of_mem _ hmem, hactive, hauth⟩
    next =>
      rcases ih acc with heq | ⟨fact, hmem, hactive, hauth⟩
      · exact .inl heq
      · exact .inr ⟨fact, mem_cons_of_mem _ hmem, hactive, hauth⟩

theorem DerivedFact.ranked_record (highest : AuthorityRank) (fact : DerivedFact) :
    (fact.ranked highest).record = fact.record := by
  rw [ranked]
  split <;> rfl

theorem DerivedFact.ranked_active : (fact.ranked highest).state = .active ↔
      fact.state = .active ∧ highest ≤ fact.record.evidence.authority := by
  rw [ranked]
  split
  next h => simp [not_le.mpr h.2]
  next h =>
    constructor
    · intro hactive
      exact ⟨hactive, not_lt.mp (fun hlt => h ⟨hactive, hlt⟩)⟩
    · exact fun hactive => hactive.1

/-- Only an active fact can be outranked, and ranking changes nothing else. -/
theorem DerivedFact.ranked_live (hassigned : fact.state.Assigned)
    (h : (fact.ranked highest).state = .active ∨ (fact.ranked highest).state = .outranked) : fact.state = .active := by
  rw [ranked] at h
  split at h
  next hactive => exact hactive.1
  next =>
    rcases h with hactive | houtranked
    · exact hactive
    · exact absurd houtranked hassigned.1

theorem DerivedFact.ranked_ne_evicted (hassigned : fact.state.Assigned) : (fact.ranked highest).state ≠ .evicted := by
  rw [ranked]
  split
  · simp
  · exact hassigned.2

namespace Registry

variable {s : Registry} {device : DeviceIncarnationRef} {kind : CapabilityKind} {now override : Tick}

theorem mem_groupStreams {entry : EvidenceKey × Stream} : entry ∈ s.groupStreams device kind ↔
      s.streams.find? entry.1 = some entry.2 ∧ entry.1.device = device ∧ entry.1.kind = kind := by
  rw [groupStreams, mem_filter, SortedMap.mem_entries_iff]
  simp

/-- The facts are exactly those of the records of the group's streams. -/
theorem mem_rawFacts : fact ∈ s.rawFacts device kind now override ↔
      ∃ key stream, s.streams.find? key = some stream ∧ key.device = device ∧ key.kind = kind ∧
        ∃ record ∈ stream.records, fact = s.factOf key stream now override record := by
  rw [rawFacts, mem_flatMap]
  constructor
  · rintro ⟨⟨key, stream⟩, hentry, hfact⟩
    obtain ⟨hfind, hdevice, hkind⟩ := mem_groupStreams.mp hentry
    obtain ⟨record, hrecord, rfl⟩ := mem_map.mp hfact
    exact ⟨key, stream, hfind, hdevice, hkind, record, hrecord, rfl⟩
  · rintro ⟨key, stream, hfind, hdevice, hkind, record, hrecord, rfl⟩
    exact ⟨(key, stream), mem_groupStreams.mpr ⟨hfind, hdevice, hkind⟩, mem_map_of_mem hrecord⟩

/-- Facts read off the whole stream table; streams of other groups and streams without records add nothing. -/
theorem rawFacts_eq_flatMap (s : Registry) (device : DeviceIncarnationRef) (kind : CapabilityKind)
    (now override : Tick) : s.rawFacts device kind now override = s.streams.entries.flatMap (fun entry =>
      if entry.1.device == device && entry.1.kind == kind then
        entry.2.records.map (s.factOf entry.1 entry.2 now override)
      else []) := by
  rw [rawFacts, groupStreams]
  refine Eq.trans ?_ (SortedMap.flatMap_filter (p := fun entry => entry.1.device == device && entry.1.kind == kind) ?_)
  · apply flatMap_congr
    intro entry hentry
    rw [if_pos (mem_filter.mp hentry).2]
  · intro entry _ hother
    rw [hother]
    rfl

/-- Facts of a group are made of its streams, the policy, the boot and the device's current incarnation. -/
theorem rawFacts_group_congr {t : Registry} (hpolicy : t.policy = s.policy) (hboot : t.bootEpoch = s.bootEpoch)
    (hcurrent : (t.findDevice device.device).map DeviceIncarnationEntry.current =
      (s.findDevice device.device).map DeviceIncarnationEntry.current)
    (hstreams : ∀ key : EvidenceKey, key.device = device → key.kind = kind → t.streamAt key = s.streamAt key) :
    t.rawFacts device kind now override = s.rawFacts device kind now override := by
  have hfact : ∀ (key : EvidenceKey) (stream : Stream), key.device = device →
      t.factOf key stream now override = s.factOf key stream now override := by
    intro key stream hdevice
    funext record
    unfold factOf classify
    rw [hpolicy, hboot, hdevice, hcurrent]
  rw [rawFacts_eq_flatMap, rawFacts_eq_flatMap]
  have hread : t.streams.entries.flatMap (fun entry =>
        if entry.1.device == device && entry.1.kind == kind then
          entry.2.records.map (t.factOf entry.1 entry.2 now override)
        else []) =
      t.streams.entries.flatMap (fun entry =>
        if entry.1.device == device && entry.1.kind == kind then
          entry.2.records.map (s.factOf entry.1 entry.2 now override)
        else []) := by
    apply flatMap_congr
    intro entry _
    split
    next hgroup =>
      rw [Bool.and_eq_true, beq_iff_eq, beq_iff_eq] at hgroup
      rw [hfact entry.1 entry.2 hgroup.1]
    next => rfl
  rw [hread]
  apply SortedMap.flatMap_entries_eq (d := Stream.empty)
  · intro key
    dsimp only
    split
    · rfl
    · rfl
  · intro key
    dsimp only
    split
    next hgroup =>
      rw [Bool.and_eq_true, beq_iff_eq, beq_iff_eq] at hgroup
      have hstream : (t.streams.find? key).getD Stream.empty = (s.streams.find? key).getD Stream.empty :=
        hstreams key hgroup.1 hgroup.2
      rw [hstream]
    next => rfl

theorem mem_derive_facts : fact ∈ (s.derive device kind now override).facts ↔
      ∃ raw ∈ s.rawFacts device kind now override,
        fact = raw.ranked (highestAuthority (s.rawFacts device kind now override)) := by
  simp only [derive, mem_insertionSort, mem_map]
  constructor
  · rintro ⟨raw, hraw, rfl⟩
    exact ⟨raw, hraw, rfl⟩
  · rintro ⟨raw, hraw, rfl⟩
    exact ⟨raw, hraw, rfl⟩

/-- A record is live when it is active at an authority no active record of the group exceeds. -/
theorem mem_derive_live {record : StoredEvidence} : record ∈ (s.derive device kind now override).live ↔
      ∃ raw ∈ s.rawFacts device kind now override, raw.record = record ∧ raw.state = .active ∧
        highestAuthority (s.rawFacts device kind now override) ≤ record.evidence.authority := by
  simp only [derive, sortById, mem_insertionSort, mem_map, mem_filter, decide_eq_true_eq]
  constructor
  · rintro ⟨fact, ⟨⟨raw, hraw, rfl⟩, hactive⟩, rfl⟩
    obtain ⟨hstate, hrank⟩ := DerivedFact.ranked_active.mp hactive
    rw [DerivedFact.ranked_record]
    exact ⟨raw, hraw, rfl, hstate, hrank⟩
  · rintro ⟨raw, hraw, rfl, hstate, hrank⟩
    exact ⟨_, ⟨⟨raw, hraw, rfl⟩, DerivedFact.ranked_active.mpr ⟨hstate, hrank⟩⟩, DerivedFact.ranked_record _ _⟩

theorem rawFacts_assigned (h : fact ∈ s.rawFacts device kind now override) : fact.state.Assigned := by
  obtain ⟨key, stream, _, _, _, record, _, rfl⟩ := mem_rawFacts.mp h
  exact s.classify_assigned ..

/-- A fact is active or outranked only for an eligible record. -/
theorem derive_facts_eligible (h : fact ∈ (s.derive device kind now override).facts)
    (hlive : fact.state = .active ∨ fact.state = .outranked) :
    ∃ key stream source, s.streams.find? key = some stream ∧ key.device = device ∧ key.kind = kind ∧
      fact.record ∈ stream.records ∧ s.Eligible key stream now override fact.record source := by
  obtain ⟨raw, hraw, rfl⟩ := mem_derive_facts.mp h
  have hactive := DerivedFact.ranked_live (rawFacts_assigned hraw) hlive
  obtain ⟨key, stream, hfind, hdevice, hkind, record, hrecord, rfl⟩ := mem_rawFacts.mp hraw
  obtain ⟨source, heligible⟩ := (s.classify_active key stream now override record).mp hactive
  rw [DerivedFact.ranked_record]
  exact ⟨key, stream, source, hfind, hdevice, hkind, hrecord, heligible⟩

end Registry

end Ocreg
