/-
Module: Ocreg.Registry.Evict
Purpose: Eviction under the record bounds: the priority of a record, the choice of a victim, its removal and
  the two budget loops.
-/
import Ocreg.Registry.Stream

namespace Ocreg

open List Registry

variable {incoming : EvidenceId}

/-- A record that may go, with its rank. -/
structure EvictionCandidate where
  key : EvidenceKey
  id : EvidenceId
  priority : Nat
  observedAt : Tick
deriving DecidableEq

variable {candidate : EvictionCandidate}

/-- Lower priority first, then older observation, then smaller id. -/
def EvictionCandidate.better (a b : EvictionCandidate) : Bool :=
  a.priority < b.priority || (a.priority == b.priority && a.observedAt < b.observedAt)
    || (a.priority == b.priority && a.observedAt == b.observedAt && a.id < b.id)

/-- What `better` compares. -/
def EvictionCandidate.rank (c : EvictionCandidate) : ℕ ×ₗ Tick ×ₗ EvidenceId :=
  toLex (c.priority, toLex (c.observedAt, c.id))

namespace Registry

section

variable (s : Registry) (key : EvidenceKey) (stream : Stream) (record : StoredEvidence) (now : Tick)

/-- `eviction_priority`: lower goes first. -/
def evictionPriority : Nat :=
  if record.lifecycle = .rejected then 0
  else if record.lifecycle = .retired then 4
  else if stream.maxGeneration ≠ 0 ∧ record.evidence.generation < stream.maxGeneration then 1
  else if (s.findDevice key.device.device).map DeviceIncarnationEntry.current ≠ some key.device.incarnation then 2
  else match s.policy.findSource key.source with
    | none => 2
    | some source =>
      if source.trust = .revoked then 2
      else if source.trust = .untrusted ∧ s.policy.refuseUntrustedSources then 2
      else if record.evidence.bootAtIngest > s.bootEpoch then 2
      else if record.evidence.bootAtIngest < s.bootEpoch ∧ ¬ source.durableAcrossBoot ∧
          s.policy.bootPolicy = .conservativeFence then 2
      else if effectiveMaxAge s.policy (some source) 0 ≠ 0 ∧
          observedAge now record.evidence.observedAt > effectiveMaxAge s.policy (some source) 0 then 3
      else if ∃ tick ∈ record.evidence.validUntil, now > tick then 3
      else 5

/-- Everything below priority 5 may go; at 5 only a record that the group's derivation outranks. -/
def isEvictable : Bool :=
  if s.evictionPriority key stream record now = 5 then
    match (s.derive key.device key.kind now 0).facts.find? (fun fact => fact.record.id == record.id) with
    | some fact => fact.state = .outranked
    | none => false
  else s.evictionPriority key stream record now ≤ 4

end

section

variable (s : Registry) (restrictKey : Option EvidenceKey) (forbidden : Option EvidenceId) (now : Tick)

/-- The candidates in iteration order: all streams or one, every record but the forbidden one. -/
def evictionCandidates : List EvictionCandidate :=
  (s.streams.entries.filter (fun entry => restrictKey.all (· == entry.1))).flatMap (fun entry =>
    (entry.2.records.filter (fun record =>
        forbidden != some record.id && s.isEvictable entry.1 entry.2 record now)).map
      (fun record =>
        ⟨entry.1, record.id, s.evictionPriority entry.1 entry.2 record now, record.evidence.observedAt⟩))

/-- `pick_eviction_candidate`. -/
def pickEvictionCandidate : Option EvictionCandidate :=
  Scan.bestBy EvictionCandidate.better (s.evictionCandidates restrictKey forbidden now)

end

/-- The ledger entry of an evicted record. -/
def evictionEntryOf (key : EvidenceKey) (stream : Stream) (record : StoredEvidence) (now : Tick) : EvictionEntry :=
  let state : EvidenceState :=
    if record.lifecycle = .retired then .retired
    else if record.lifecycle = .rejected then .rejected
    else if record.evidence.generation < stream.maxGeneration then .superseded
    else .outranked
  { id := record.id
    key
    generation := record.evidence.generation
    stateAtEviction := state
    reason := if state = .retired then .evictedRetired
      else if state = .superseded then .evictedSuperseded
      else .evictedBudgetPressure
    evictedAt := now }

/-- Append to the bounded ledger. Dropping from an empty ledger, which the source leaves undefined, drops
    nothing here. -/
def pushEviction (s : Registry) (entry : EvictionEntry) : Registry :=
  let full := s.evictionTable.length ≥ s.policy.limits.maxEvictionLedger.toNat
  { s with
    evictionTable := (if full then s.evictionTable.drop 1 else s.evictionTable) ++ [entry]
    counters := { s.counters with
      evictionsTotal := s.counters.evictionsTotal + 1
      evictionLedgerDropped := if full then s.counters.evictionLedgerDropped + 1
        else s.counters.evictionLedgerDropped } }

/-- Remove exactly the selected record and account for it. -/
def applyEviction (s : Registry) (candidate : EvictionCandidate) (now : Tick) : Option Registry :=
  match s.findStream candidate.key with
  | none => none
  | some stream =>
    match stream.records.find? (fun record => record.id == candidate.id) with
    | none => none
    | some record =>
      let s := s.pushEviction (evictionEntryOf candidate.key stream record now)
      some { s with
        streams := s.streams.insert candidate.key (stream.without candidate.id)
        totalRecords := s.totalRecords - 1 }

/-- One budget loop: while `isOver` holds, evict the best candidate in scope. `none` of the candidates, or a
    removal that fails, ends it with failure. -/
def budgetLoop (isOver : Registry → Bool) (restrictKey : Option EvidenceKey) (forbidden : EvidenceId)
    (now : Tick) : Nat → Registry → List EvidenceId → Bool × Registry × List EvidenceId
  | 0, s, evicted => (false, s, evicted)
  | fuel + 1, s, evicted =>
    if isOver s then
      match s.pickEvictionCandidate restrictKey (some forbidden) now with
      | none => (false, s, evicted)
      | some candidate =>
        match s.applyEviction candidate now with
        | none => (false, s, evicted)
        | some s => budgetLoop isOver restrictKey forbidden now fuel s (evicted ++ [candidate.id])
    else (true, s, evicted)

/-- More records than the global bound. -/
def recordsOver (s : Registry) : Bool := s.totalRecords > s.policy.limits.maxRecords.toNat

/-- Records held by a stream. -/
def streamSize (s : Registry) (key : EvidenceKey) : Nat := (s.streamAt key).records.length

/-- More records in one stream than its bound. -/
def streamOver (key : EvidenceKey) (s : Registry) : Bool :=
  s.streamSize key > s.policy.limits.maxRecordsPerStream.toNat

/-- Apply the global and the per-stream bound on behalf of one incoming record. Each round removes one
    record, so the loops run at most as often as there are records. -/
def enforceBudget (s : Registry) (keepKey : EvidenceKey) (keepId : EvidenceId) (now : Tick) :
    Bool × Registry × List EvidenceId :=
  match budgetLoop recordsOver none keepId now (s.totalRecords + 1) s [] with
  | (false, s, evicted) => (false, s, evicted)
  | (true, s, evicted) =>
    budgetLoop (streamOver keepKey) (some keepKey) keepId now (s.streamSize keepKey + 1) s evicted

end Registry

/-! ### Victims -/

theorem EvictionCandidate.better_iff_rank_lt (a b : EvictionCandidate) : a.better b = true ↔ a.rank < b.rank := by
  simp only [better, rank, Prod.Lex.toLex_lt_toLex, Bool.or_eq_true, Bool.and_eq_true, decide_eq_true_eq, beq_iff_eq]
  tauto

theorem EvictionCandidate.priority_le_of_rank_le {a b : EvictionCandidate} (h : a.rank ≤ b.rank) :
    a.priority ≤ b.priority := by
  simp only [rank, Prod.Lex.toLex_le_toLex] at h
  rcases h with h | h
  · exact le_of_lt h
  · exact le_of_eq h.1

namespace Registry

variable {s s' : Registry} {restrict : Option EvidenceKey} {forbidden : Option EvidenceId} {now : Tick}

theorem mem_evictionCandidates : candidate ∈ s.evictionCandidates restrict forbidden now ↔
      ∃ stream, s.streams.find? candidate.key = some stream ∧ (∀ key ∈ restrict, key = candidate.key) ∧
        ∃ record ∈ stream.records, forbidden ≠ some record.id ∧
          s.isEvictable candidate.key stream record now = true ∧ candidate.id = record.id ∧
          candidate.priority = s.evictionPriority candidate.key stream record now ∧
          candidate.observedAt = record.evidence.observedAt := by
  rw [evictionCandidates, mem_flatMap]
  constructor
  · rintro ⟨⟨key, stream⟩, hentry, hmem⟩
    rw [mem_filter, SortedMap.mem_entries_iff] at hentry
    obtain ⟨record, hrecord, rfl⟩ := mem_map.mp hmem
    obtain ⟨hrecord, htest⟩ := mem_filter.mp hrecord
    simp only [Bool.and_eq_true, bne_iff_ne, ne_eq] at htest
    refine ⟨stream, hentry.1, ?_, record, hrecord, htest.1, htest.2, rfl, rfl, rfl⟩
    intro k hk
    have hall := hentry.2
    rw [Option.mem_def] at hk
    rw [hk] at hall
    simpa using hall
  · rintro ⟨stream, hfind, hscope, record, hrecord, hforbidden, hevictable, hid, hpriority, hobserved⟩
    refine ⟨(candidate.key, stream), ?_, ?_⟩
    · rw [mem_filter, SortedMap.mem_entries_iff]
      refine ⟨hfind, ?_⟩
      cases restrict with
      | none => rfl
      | some key => simpa using hscope key rfl
    · refine mem_map.mpr ⟨record, mem_filter.mpr ⟨hrecord, ?_⟩, ?_⟩
      · simp [hforbidden, hevictable]
      · cases candidate
        simp_all

section

variable (h : s.pickEvictionCandidate restrict forbidden now = some candidate)
include h

/-- A chosen victim is an evictable record in scope other than the forbidden one. -/
theorem pick_mem_candidates : candidate ∈ s.evictionCandidates restrict forbidden now := Scan.bestBy_mem h

/-- No evictable record has a lower priority number than the chosen one. -/
theorem pick_priority_le {key : EvidenceKey} {stream : Stream} {record : StoredEvidence}
    (hscope : ∀ other ∈ restrict, other = key) (hfind : s.streams.find? key = some stream)
    (hrecord : record ∈ stream.records) (hother : forbidden ≠ some record.id)
    (hevictable : s.isEvictable key stream record now = true) :
    candidate.priority ≤ s.evictionPriority key stream record now := by
  have hmem : (⟨key, record.id, s.evictionPriority key stream record now, record.evidence.observedAt⟩ :
      EvictionCandidate) ∈ s.evictionCandidates restrict forbidden now :=
    mem_evictionCandidates.mpr ⟨stream, hfind, hscope, record, hrecord, hother, hevictable, rfl, rfl, rfl⟩
  exact EvictionCandidate.priority_le_of_rank_le (Scan.bestBy_le EvictionCandidate.better_iff_rank_lt h hmem)

end

/-- Inversion of a removal. -/
theorem applyEviction_eq_some (h : s.applyEviction candidate now = some s') :
    ∃ stream record, s.streams.find? candidate.key = some stream ∧
      stream.records.find? (fun r => r.id == candidate.id) = some record ∧
      s' = { s.pushEviction (evictionEntryOf candidate.key stream record now) with
        streams := s.streams.insert candidate.key (stream.without candidate.id)
        totalRecords := s.totalRecords - 1 } := by
  rw [applyEviction] at h
  cases hstream : s.findStream candidate.key with
  | none => simp [hstream] at h
  | some stream =>
    simp only [hstream] at h
    cases hrecord : stream.records.find? (fun r => r.id == candidate.id) with
    | none => simp [hrecord] at h
    | some record =>
      simp only [hrecord, Option.some.injEq] at h
      exact ⟨stream, record, hstream, hrecord, h.symm⟩

/-- A chosen victim can always be removed. -/
theorem applyEviction_of_pick (h : s.pickEvictionCandidate restrict forbidden now = some candidate) :
    ∃ t, s.applyEviction candidate now = some t := by
  obtain ⟨stream, hfind, _, record, hrecord, _, _, hid, _⟩ :=
    mem_evictionCandidates.mp (pick_mem_candidates h)
  have hstream : s.findStream candidate.key = some stream := hfind
  cases hsearch : stream.records.find? (fun r => r.id == candidate.id) with
  | none =>
    have := List.find?_eq_none.mp hsearch record hrecord
    simp [hid] at this
  | some victim => simp [applyEviction, hstream, hsearch]

section

variable (h : s.applyEviction candidate now = some s')
include h

/-- What a removal does to the streams: one stream loses the record of the candidate's id. -/
theorem applyEviction_streams :
    ∃ stream record, s.streams.find? candidate.key = some stream ∧ record ∈ stream.records ∧
      record.id = candidate.id ∧ s'.streams = s.streams.insert candidate.key (stream.without candidate.id) ∧
      s'.totalRecords = s.totalRecords - 1 := by
  obtain ⟨stream, record, hfind, hrecord, rfl⟩ := applyEviction_eq_some h
  refine ⟨stream, record, hfind, mem_of_find?_eq_some hrecord, ?_, rfl, rfl⟩
  simpa using List.find?_some hrecord

/-- One stream after a removal. -/
theorem streamAt_applyEviction (key : EvidenceKey) :
    s'.streamAt key = if key = candidate.key then (s.streamAt key).without candidate.id else s.streamAt key := by
  obtain ⟨stream, _, hfind, _, _, hstreams, _⟩ := applyEviction_streams h
  rw [streamAt, findStream, hstreams, SortedMap.find?_insert]
  split
  next heq =>
    subst heq
    rw [streamAt_of_find hfind]
    rfl
  next => rfl

/-- A registry with other records and eviction accounts. -/
def withRecords (s : Registry) (streams : SortedMap EvidenceKey Stream) (total : Nat)
    (ledger : List EvictionEntry) (evictions dropped : UInt64) : Registry :=
  { s with
    streams
    totalRecords := total
    evictionTable := ledger
    counters := { s.counters with evictionsTotal := evictions, evictionLedgerDropped := dropped } }

theorem applyEviction_frame : ∃ streams total ledger evictions dropped,
      s' = s.withRecords streams total ledger evictions dropped := by
  obtain ⟨stream, record, _, _, rfl⟩ := applyEviction_eq_some h
  exact ⟨_, _, _, _, _, rfl⟩

theorem applyEviction_policy : s'.policy = s.policy := by
  obtain ⟨_, _, _, _, _, rfl⟩ := applyEviction_frame h
  rfl

end

end Registry

/-! ### Eviction runs -/

/-- A run of evictions on behalf of an incoming record, with the ids evicted in order. -/
inductive Evicts (incoming : EvidenceId) (now : Tick) : Registry → Registry → List EvidenceId → Prop
  | refl (s : Registry) : Evicts incoming now s s []
  | step {s t u : Registry} {restrict : Option EvidenceKey} {candidate : EvictionCandidate}
      {ids : List EvidenceId} (hpick : s.pickEvictionCandidate restrict (some incoming) now = some candidate)
      (happly : s.applyEviction candidate now = some t) (rest : Evicts incoming now t u ids) :
      Evicts incoming now s u (candidate.id :: ids)

namespace Evicts

variable {now : Tick} {s t u : Registry} {ids ids' : List EvidenceId}

theorem trans (hst : Evicts incoming now s t ids) (htu : Evicts incoming now t u ids') :
    Evicts incoming now s u (ids ++ ids') := by
  induction hst with
  | refl s => exact htu
  | step hpick happly _ ih => exact .step hpick happly (ih htu)

section

variable (h : Evicts incoming now s t ids)

include h

/-- Evictions touch records and eviction accounts only. -/
theorem frame : ∃ streams total ledger evictions dropped, t = s.withRecords streams total ledger evictions dropped := by
  induction h with
  | refl s => exact ⟨_, _, _, _, _, rfl⟩
  | step _ happly _ ih =>
    obtain ⟨_, _, _, _, _, rfl⟩ := applyEviction_frame happly
    obtain ⟨streams, total, ledger, evictions, dropped, rfl⟩ := ih
    exact ⟨streams, total, ledger, evictions, dropped, rfl⟩

theorem policy : t.policy = s.policy := by
  obtain ⟨_, _, _, _, _, rfl⟩ := h.frame
  rfl

theorem totalRecords : t.totalRecords = s.totalRecords - ids.length := by
  induction h with
  | refl s => rfl
  | step _ happly _ ih =>
    obtain ⟨_, _, _, _, _, _, htotal⟩ := applyEviction_streams happly
    rw [ih, htotal, length_cons]
    omega

/-- Evictions only take records out. -/
theorem streamAt_sublist (key : EvidenceKey) : (t.streamAt key).records.Sublist (s.streamAt key).records := by
  induction h with
  | refl s => exact Sublist.refl _
  | @step s t u _ candidate _ _ happly _ ih =>
    refine ih.trans ?_
    rw [streamAt_applyEviction happly]
    split
    · exact Stream.without_sublist _ candidate.id
    · exact Sublist.refl _

/-- The incoming record stays. -/
theorem mem_of_id_eq {key : EvidenceKey} {record : StoredEvidence} (hmem : record ∈ (s.streamAt key).records)
    (hid : record.id = incoming) : record ∈ (t.streamAt key).records := by
  induction h with
  | refl s => exact hmem
  | @step s t u _ candidate _ hpick happly _ ih =>
    refine ih ?_
    obtain ⟨_, _, _, _, _, hother, _, hcand, _⟩ := mem_evictionCandidates.mp (pick_mem_candidates hpick)
    rw [streamAt_applyEviction happly]
    split
    · refine Stream.mem_without_of_id_ne hmem ?_
      rw [hid, hcand]
      exact fun heq => hother (congrArg some heq)
    · exact hmem

/-- A property of streams that removals keep is kept by a run of evictions. -/
theorem allStreams {P : EvidenceKey → Stream → Prop}
    (hwithout : ∀ key stream id, P key stream → P key (stream.without id)) (hs : s.AllStreams P) : t.AllStreams P := by
  induction h with
  | refl s => exact hs
  | step _ happly _ ih =>
    obtain ⟨stream, _, hfind, _, _, hstreams, _⟩ := applyEviction_streams happly
    exact ih (hs.of_insert (hwithout _ _ _ (hs _ _ hfind)) hstreams)

end

end Evicts

/-! ### Budget loops -/

section

variable (isOver : Registry → Bool) (restrict : Option EvidenceKey) (forbidden : EvidenceId) (now : Tick)

/-- A budget loop as it is written, round by round: it ends within the bound, without a victim, or with a victim
    that cannot be removed. -/
inductive BudgetRuns : Registry → List EvidenceId → Bool × Registry × List EvidenceId → Prop
  | within {s : Registry} {evicted : List EvidenceId} (hwithin : isOver s = false) :
      BudgetRuns s evicted (true, s, evicted)
  | stuck {s : Registry} {evicted : List EvidenceId} (hover : isOver s = true)
      (hpick : s.pickEvictionCandidate restrict (some forbidden) now = none) :
      BudgetRuns s evicted (false, s, evicted)
  | failed {s : Registry} {evicted : List EvidenceId} {candidate : EvictionCandidate} (hover : isOver s = true)
      (hpick : s.pickEvictionCandidate restrict (some forbidden) now = some candidate)
      (happly : s.applyEviction candidate now = none) :
      BudgetRuns s evicted (false, s, evicted)
  | round {s t : Registry} {evicted : List EvidenceId} {candidate : EvictionCandidate}
      {result : Bool × Registry × List EvidenceId} (hover : isOver s = true)
      (hpick : s.pickEvictionCandidate restrict (some forbidden) now = some candidate)
      (happly : s.applyEviction candidate now = some t)
      (rest : BudgetRuns t (evicted ++ [candidate.id]) result) :
      BudgetRuns s evicted result

end

/-- A loop that ends has run evictions until the bound holds, or until no victim is left. -/
theorem BudgetRuns.spec {isOver : Registry → Bool} {restrict : Option EvidenceKey} {now : Tick}
    {s : Registry} {evicted : List EvidenceId} {result : Bool × Registry × List EvidenceId}
    (h : BudgetRuns isOver restrict incoming now s evicted result) :
    ∃ t ids, result = (!isOver t, t, evicted ++ ids) ∧ Evicts incoming now s t ids ∧
      (isOver t = true → t.pickEvictionCandidate restrict (some incoming) now = none) := by
  induction h with
  | @within s _ hwithin => exact ⟨s, [], by simp [hwithin], .refl s, by simp [hwithin]⟩
  | @stuck s _ hover hpick => exact ⟨s, [], by simp [hover], .refl s, fun _ => hpick⟩
  | failed _ hpick happly =>
    obtain ⟨t, hremoved⟩ := applyEviction_of_pick hpick
    rw [happly] at hremoved
    cases hremoved
  | @round _ _ _ candidate _ _ hpick happly _ ih =>
    obtain ⟨u, ids, rfl, hevicts, hstuck⟩ := ih
    exact ⟨u, candidate.id :: ids, by rw [append_assoc, singleton_append], .step hpick happly hevicts, hstuck⟩

namespace Registry

/-- The rounds of one budget loop: the registry before each removal, and what is removed from it. -/
def budgetRounds (isOver : Registry → Bool) (restrictKey : Option EvidenceKey) (forbidden : EvidenceId) (now : Tick) :
    Nat → Registry → List (Registry × EvictionCandidate)
  | 0, _ => []
  | fuel + 1, s =>
    if isOver s then
      match s.pickEvictionCandidate restrictKey (some forbidden) now with
      | none => []
      | some candidate =>
        match s.applyEviction candidate now with
        | none => []
        | some t => (s, candidate) :: budgetRounds isOver restrictKey forbidden now fuel t
    else []

/-- What holds where a loop stops, and is kept by a round before it, holds of every loop and its rounds. -/
theorem budget_rule {isOver : Registry → Bool} {restrict : Option EvidenceKey} {now : Tick}
    {P : Registry → List EvidenceId → Bool × Registry × List EvidenceId → List (Registry × EvictionCandidate) → Prop}
    (stop : ∀ ok s evicted, P s evicted (ok, s, evicted) [])
    (round : ∀ {s t candidate evicted result rounds},
      s.pickEvictionCandidate restrict (some incoming) now = some candidate → s.applyEviction candidate now = some t →
      P t (evicted ++ [candidate.id]) result rounds → P s evicted result ((s, candidate) :: rounds))
    (fuel : Nat) (s : Registry) (evicted : List EvidenceId) :
    P s evicted (budgetLoop isOver restrict incoming now fuel s evicted)
      (budgetRounds isOver restrict incoming now fuel s) := by
  induction fuel generalizing s evicted with
  | zero => exact stop false s evicted
  | succ fuel ih =>
    rw [budgetLoop, budgetRounds]
    by_cases hover : isOver s = true
    · rw [if_pos hover, if_pos hover]
      cases hpick : s.pickEvictionCandidate restrict (some incoming) now with
      | none => exact stop false s evicted
      | some candidate =>
        obtain ⟨t, happly⟩ := applyEviction_of_pick hpick
        simp only [happly]
        exact round hpick happly (ih t _)
    · rw [if_neg hover, if_neg hover]
      exact stop true s evicted

section

variable (isOver : Registry → Bool) (restrict : Option EvidenceKey)

/-- Whatever a budget loop returns, it got there by evictions. -/
theorem budgetLoop_evicts (incoming : EvidenceId) (now : Tick) (fuel : Nat) (s : Registry) (evicted : List EvidenceId) :
    ∃ ids, Evicts incoming now s (budgetLoop isOver restrict incoming now fuel s evicted).2.1 ids := by
  refine budget_rule (P := fun s _ result _ => ∃ ids, Evicts incoming now s result.2.1 ids)
    (fun _ s _ => ⟨[], .refl s⟩) ?_ fuel s evicted
  rintro s t candidate _ _ _ hpick happly ⟨ids, hrest⟩
  exact ⟨_, .step hpick happly hrest⟩

/-- A loop whose measure falls in every round ends, and the fuelled loop computes what it ends with. -/
theorem budgetLoop_runs (forbidden : EvidenceId) (now : Tick) (measure : Registry → Nat)
    (hmeasure : ∀ {s t : Registry} {candidate : EvictionCandidate}, isOver s = true →
      s.pickEvictionCandidate restrict (some forbidden) now = some candidate →
      s.applyEviction candidate now = some t → measure t < measure s)
    (fuel : Nat) (s : Registry) (evicted : List EvidenceId) (hfuel : measure s < fuel) :
    BudgetRuns isOver restrict forbidden now s evicted
      (budgetLoop isOver restrict forbidden now fuel s evicted) := by
  induction fuel generalizing s evicted with
  | zero => exact absurd hfuel (Nat.not_lt_zero _)
  | succ fuel ih =>
    rw [budgetLoop]
    cases hover : isOver s with
    | false => exact .within hover
    | true =>
      rw [if_pos rfl]
      cases hpick : s.pickEvictionCandidate restrict (some forbidden) now with
      | none => exact .stuck hover hpick
      | some candidate =>
        dsimp only
        cases happly : s.applyEviction candidate now with
        | none => exact .failed hover hpick happly
        | some t =>
          have hless := hmeasure hover hpick happly
          exact .round hover hpick happly (ih t _ (by omega))

end

theorem streamSize_applyEviction {s t : Registry} {now : Tick} (happly : s.applyEviction candidate now = some t) :
    t.streamSize candidate.key + 1 = s.streamSize candidate.key := by
  obtain ⟨_, _, hfind, hrecord, hid, _⟩ := applyEviction_streams happly
  rw [streamSize, streamSize, streamAt_applyEviction happly, if_pos rfl, streamAt_of_find hfind]
  exact Stream.length_without hrecord hid

/-- A removal in the scope of one stream makes that stream shorter. -/
theorem streamSize_lt_of_evict {s t : Registry} {key : EvidenceKey} {incoming : Option EvidenceId} {now : Tick}
    (hpick : s.pickEvictionCandidate (some key) incoming now = some candidate)
    (happly : s.applyEviction candidate now = some t) : t.streamSize key < s.streamSize key := by
  obtain ⟨_, _, hscope, _⟩ := mem_evictionCandidates.mp (pick_mem_candidates hpick)
  have hsize := streamSize_applyEviction happly
  rw [← hscope key rfl] at hsize
  omega

/-- A removal from an overfull registry makes it smaller. -/
theorem totalRecords_lt_of_evict {s t : Registry} {now : Tick} (hover : recordsOver s = true)
    (happly : s.applyEviction candidate now = some t) : t.totalRecords < s.totalRecords := by
  obtain ⟨_, _, _, _, _, _, htotal⟩ := applyEviction_streams happly
  simp only [recordsOver, decide_eq_true_eq] at hover
  omega

theorem recordsLoop_runs (s : Registry) (id : EvidenceId) (now : Tick) :
    BudgetRuns recordsOver none id now s [] (budgetLoop recordsOver none id now (s.totalRecords + 1) s []) := by
  refine budgetLoop_runs recordsOver none id now (fun s => s.totalRecords) ?_ _ s [] (Nat.lt_succ_self _)
  exact fun hover _ happly => totalRecords_lt_of_evict hover happly

theorem streamLoop_runs (s : Registry) (key : EvidenceKey) (id : EvidenceId) (now : Tick) (evicted : List EvidenceId) :
    BudgetRuns (streamOver key) (some key) id now s evicted
      (budgetLoop (streamOver key) (some key) id now (s.streamSize key + 1) s evicted) := by
  refine budgetLoop_runs (streamOver key) (some key) id now (fun s => s.streamSize key) ?_ _ s evicted
    (Nat.lt_succ_self _)
  exact fun _ hpick happly => streamSize_lt_of_evict hpick happly

/-- Applying the bounds is a run of evictions. It succeeds when both bounds hold afterwards, and fails when
    one does not and nothing in its scope can go. -/
theorem enforceBudget_spec (s : Registry) (key : EvidenceKey) (incoming : EvidenceId) (now : Tick) :
    ∃ ok t ids, s.enforceBudget key incoming now = (ok, t, ids) ∧ Evicts incoming now s t ids ∧
      (ok = true → recordsOver t = false ∧ streamOver key t = false) ∧
      (ok = false →
        (recordsOver t = true ∧ t.pickEvictionCandidate none (some incoming) now = none) ∨
        (streamOver key t = true ∧ t.pickEvictionCandidate (some key) (some incoming) now = none)) := by
  obtain ⟨t, ids, hloop, hevicts, hstuck⟩ := (s.recordsLoop_runs incoming now).spec
  rw [enforceBudget, hloop]
  cases hover : recordsOver t with
  | true => exact ⟨false, t, ids, rfl, hevicts, by simp, fun _ => .inl ⟨hover, hstuck hover⟩⟩
  | false =>
    obtain ⟨u, more, hloop', hevicts', hstuck'⟩ := (t.streamLoop_runs key incoming now ([] ++ ids)).spec
    refine ⟨!streamOver key u, u, ids ++ more, by simpa using hloop', hevicts.trans hevicts', ?_, ?_⟩
    · intro hok
      refine ⟨?_, by simpa using hok⟩
      have htotal := hevicts'.totalRecords
      obtain ⟨_, _, _, _, _, rfl⟩ := hevicts'.frame
      simp only [recordsOver, decide_eq_false_iff_not, not_lt] at hover ⊢
      simp only [withRecords] at htotal ⊢
      omega
    · intro hok
      have hover' : streamOver key u = true := by simpa using hok
      exact .inr ⟨hover', hstuck' hover'⟩

end Registry

end Ocreg
