/-
Module: Ocreg.Registry.State
Purpose: The in-memory registry: streams, tombstones, tables and counters, the durable state they are
  snapshotted to and restored from.
-/
import Ocreg.Codec.State

namespace Ocreg

/-- One source's view of one capability of one device incarnation; `records` is ordered by
    (generation, id). -/
structure Stream where
  records : List StoredEvidence
  maxGeneration : RecordGeneration
deriving DecidableEq

def Stream.empty : Stream := ⟨[], 0⟩

/-- Registry contents. The nested maps device, kind, source of the source program are kept as two maps over
    the full stream key in the same iteration order; a group without streams and tombstones has no
    counterpart here. -/
structure Registry where
  policy : RegistryPolicy
  epoch : RegistryEpoch := 1
  ruleGeneration : RuleGeneration := 1
  policyRevision : PolicyRevision := 1
  bootEpoch : BootEpoch := 1
  storeGeneration : StoreGeneration := 0
  logicalTick : Tick := 0
  nextIncarnation : UInt64 := 1
  incarnationTable : SortedMap DeviceIdentity DeviceIncarnationEntry := .empty
  streams : SortedMap EvidenceKey Stream := .empty
  tombstones : SortedMap EvidenceKey RetirementRecord := .empty
  totalRecords : Nat := 0
  conflictTable : List ConflictGroup := []
  resolutionTable : List ConflictResolution := []
  evictionTable : List EvictionEntry := []
  counters : RegistryCounters := {}
  decisions : SortedMap DecisionId CompatibilityDecision := .empty
  decisionOrder : List DecisionId := []

/-- Record order inside a stream: generation, then id. -/
def generationLess (a b : StoredEvidence) : Bool :=
  if a.evidence.generation ≠ b.evidence.generation then a.evidence.generation < b.evidence.generation
  else a.id < b.id

/-- Insertion at `std::lower_bound`: before the first record that is not less. -/
def insertRecord (record : StoredEvidence) : List StoredEvidence → List StoredEvidence
  | [] => [record]
  | other :: rest =>
    if generationLess other record then other :: insertRecord record rest else record :: other :: rest

/-- Largest generation among records; zero when there are none. -/
def highestGeneration (records : List StoredEvidence) : RecordGeneration :=
  records.foldl (fun highest record =>
    if record.evidence.generation > highest then record.evidence.generation else highest) 0

/-- A stream without the first record of the given id; its maximum is recomputed. -/
def Stream.without (stream : Stream) (id : EvidenceId) : Stream :=
  let records := stream.records.eraseP (fun record => record.id == id)
  { records, maxGeneration := highestGeneration records }

namespace Registry

/-- `Registry(policy)`. -/
def init (policy : RegistryPolicy) : Registry :=
  { policy := { policy with sources := sortSources policy.sources }, ruleGeneration := policy.ruleGeneration }

def findDevice (s : Registry) (device : DeviceIdentity) : Option DeviceIncarnationEntry :=
  s.incarnationTable.find? device

section

variable (s : Registry) (key : EvidenceKey)

def findStream : Option Stream := s.streams.find? key

/-- The stream a key names, empty when there is none. -/
def streamAt : Stream := (s.findStream key).getD .empty

def findTombstone : Option RetirementRecord := s.tombstones.find? key

/-- The stream is retired at the generation or a later one. -/
def FencedAt (generation : RecordGeneration) : Prop :=
  ∃ tombstone ∈ s.findTombstone key, tombstone.generation ≥ generation

end

instance (s : Registry) (key : EvidenceKey) (generation : RecordGeneration) : Decidable (s.FencedAt key generation) :=
  inferInstanceAs (Decidable (∃ tombstone ∈ s.findTombstone key, _))

section

variable (s : Registry)

def findConflict (device : DeviceIncarnationRef) (kind : CapabilityKind) : Option ConflictGroup :=
  s.conflictTable.find? (fun group => group.device == device && group.kind == kind)

def findResolution (id : ConflictId) : Option ConflictResolution :=
  s.resolutionTable.find? (fun resolution => resolution.conflict == id)

def countStreams : Nat := s.streams.size

/-- All records in stream order. -/
def flattenRecords : List StoredEvidence := s.streams.values.flatMap Stream.records

/-- All tombstones by key. A tombstone is stored under its own key, so map order is the order the source
    sorts by. -/
def flattenTombstones : List RetirementRecord := s.tombstones.values

/-- `bump_policy_revision`: a new revision and a new epoch. -/
def bumpPolicyRevision : Registry :=
  { s with policyRevision := s.policyRevision + 1, epoch := s.epoch + 1 }

/-- `to_state`. -/
def toState : RegistryState where
  policy := s.policy
  epoch := s.epoch
  ruleGeneration := s.ruleGeneration
  policyRevision := s.policyRevision
  bootEpoch := s.bootEpoch
  storeGeneration := s.storeGeneration
  logicalTick := s.logicalTick
  nextIncarnation := s.nextIncarnation
  incarnations := s.incarnationTable.values
  records := s.flattenRecords
  tombstones := s.flattenTombstones
  conflicts := s.conflictTable
  resolutions := s.resolutionTable
  evictions := s.evictionTable
  counters := s.counters

end

end Registry

/-! ### Restoring -/

/-- Append one restored record to its stream. -/
def restoreRecord (streams : SortedMap EvidenceKey Stream) (record : StoredEvidence) : SortedMap EvidenceKey Stream :=
  let stream := (streams.find? record.evidence.key).getD .empty
  streams.insert record.evidence.key
    { records := stream.records ++ [record],
      maxGeneration := if record.evidence.generation > stream.maxGeneration then record.evidence.generation
        else stream.maxGeneration }

def Stream.sorted (stream : Stream) : Stream :=
  { stream with records := stream.records.insertionSort (fun a b => !generationLess b a) }

/-- Streams of a list of records: appended one by one, then each sorted. -/
def restoreStreams (records : List StoredEvidence) : SortedMap EvidenceKey Stream :=
  (records.foldl restoreRecord .empty).mapValues Stream.sorted

/-- `adopt`: the contents a state restores to. Retained decisions do not survive. -/
def Registry.adopt (state : RegistryState) : Registry where
  policy := { state.policy with sources := sortSources state.policy.sources }
  epoch := state.epoch
  ruleGeneration := state.ruleGeneration
  policyRevision := state.policyRevision
  bootEpoch := state.bootEpoch
  storeGeneration := state.storeGeneration
  logicalTick := state.logicalTick
  nextIncarnation := if state.nextIncarnation = 0 then 1 else state.nextIncarnation
  incarnationTable := state.incarnations.foldl (fun table entry => table.insert entry.device entry) .empty
  streams := restoreStreams state.records
  tombstones := state.tombstones.foldl (fun table tombstone => table.insert tombstone.key tombstone) .empty
  totalRecords := state.records.length
  conflictTable := state.conflicts.insertionSort (fun a b => a.id ≤ b.id)
  resolutionTable := state.resolutions.insertionSort (fun a b => a.id ≤ b.id)
  evictionTable := state.evictions
  counters := state.counters

/-- `Registry(policy, restored)`: the state under the given policy. -/
def Registry.restore (policy : RegistryPolicy) (restored : RegistryState) : Registry :=
  { Registry.adopt restored with
    policy := { policy with sources := sortSources policy.sources }, ruleGeneration := policy.ruleGeneration }

end Ocreg
