/-
Module: Ocreg.Proofs.EvictionPolicy
Purpose: The choice of a record to evict against the derivation of states: the two cascades agree on every record, and
  the scan over the streams finds the first of the records that are not active.
-/
import Ocreg.Proofs.Representation

namespace Ocreg

open List Registry DerivedFact Lab

variable {other : StoredEvidence} (highest : AuthorityRank) (fact : DerivedFact) {state : EvidenceState}

/-! ### The state a derivation gives a record -/

namespace Registry

/-- The derivation of the group at a tick, without an override, gives the record this state. -/
def DerivedAs (s : Registry) (key : EvidenceKey) (record : StoredEvidence) (now : Tick) (state : EvidenceState) :
  Prop :=
  ∃ fact ∈ (s.derive key.device key.kind now 0).facts, fact.record = record ∧ fact.state = state

/-- The state of a record of a stream, as the derivation of its group computes it. -/
def derivedState (s : Registry) (key : EvidenceKey) (stream : Stream) (record : StoredEvidence) (now : Tick) :
    EvidenceState :=
  ((s.factOf key stream now 0 record).ranked (highestAuthority (s.rawFacts key.device key.kind now 0))).state

variable {s : Registry} {key : EvidenceKey} {stream : Stream} {record : StoredEvidence} {now : Tick}

/-- A record stands in the stream of its key, so that only one fact is about it. -/
theorem derivedAs_iff (hkeyed : s.AllStreams Stream.Keyed) (hfind : s.streams.find? key = some stream)
    (hrecord : record ∈ stream.records) :
    s.DerivedAs key record now state ↔ s.derivedState key stream record now = state := by
  constructor
  · rintro ⟨fact, hfact, hsame, rfl⟩
    obtain ⟨raw, hraw, rfl⟩ := mem_derive_facts.mp hfact
    obtain ⟨other, otherStream, hother, hdevice, hkind, otherRecord, hmem, rfl⟩ := mem_rawFacts.mp hraw
    rw [ranked_record] at hsame
    cases hsame
    have hkey : other = key := (hkeyed other otherStream hother _ hmem).symm.trans (hkeyed key stream hfind _ hrecord)
    subst hkey
    rw [hfind] at hother
    cases hother
    rfl
  · rintro rfl
    refine ⟨_, mem_derive_facts.mpr ⟨s.factOf key stream now 0 record, ?_, rfl⟩, ranked_record _ _, rfl⟩
    exact mem_rawFacts.mpr ⟨key, stream, hfind, rfl, rfl, record, hrecord, rfl⟩

theorem derivedState_ne_evicted : s.derivedState key stream record now ≠ .evicted :=
  ranked_ne_evicted (s.classify_assigned ..)

end Registry

/-! ### Priorities -/

/-- The place of a state in the order of eviction. -/
def EvidenceState.evictionClass : EvidenceState → Nat
  | rejected => 0
  | superseded => 1
  | fenced => 2
  | stale => 3
  | retired => 4
  | active => 5
  | outranked => 5
  | evicted => 6

theorem DerivedFact.ranked_state : (fact.ranked highest).state =
      if fact.state = .active ∧ fact.record.evidence.authority < highest then .outranked else fact.state := by
  rw [ranked]
  split <;> rfl

theorem DerivedFact.evictionClass_ranked : (fact.ranked highest).state.evictionClass = fact.state.evictionClass := by
  rw [ranked_state]
  split
  next h =>
    rw [h.1]
    rfl
  next => rfl

namespace Registry

variable {s : Registry} {key : EvidenceKey} {stream : Stream} {record : StoredEvidence} {now : Tick}

section

variable (s) (key) (stream) (record) (now)

/-- The cascade of priorities follows the cascade of states test by test. -/
theorem evictionPriority_eq_classify : s.evictionPriority key stream record now =
      (s.classify record stream (s.policy.findSource key.source) key.device now 0).1.evictionClass := by
  have hpush : ∀ {c : Prop} [Decidable c] (verdict rest : EvidenceState × ReasonCode),
      (if c then verdict else rest).1.evictionClass = if c then verdict.1.evictionClass else rest.1.evictionClass :=
    fun verdict rest => apply_ite (fun v : EvidenceState × ReasonCode => v.1.evictionClass) _ verdict rest
  unfold evictionPriority classify
  rw [hpush, hpush, hpush, hpush]
  cases s.policy.findSource key.source with
  | none => rfl
  | some source =>
    dsimp only
    rw [hpush, hpush, hpush, hpush, hpush, hpush]
    rfl

theorem evictionPriority_eq :
    s.evictionPriority key stream record now = (s.derivedState key stream record now).evictionClass := by
  rw [evictionPriority_eq_classify, derivedState, evictionClass_ranked]
  rfl

end

/-! ### Records of one id -/

/-- The evidence that is stored. -/
def storedEvidence (s : Registry) : Set CapabilityEvidence :=
  { evidence | ∃ key stream, s.streams.find? key = some stream ∧ ∃ record ∈ stream.records, record.evidence = evidence }

section

variable (hlifecycle : other.lifecycle = record.lifecycle) (hevidence : other.evidence = record.evidence)
include hlifecycle hevidence

theorem classify_state_congr (source : Option SourcePolicy) (device : DeviceIncarnationRef) (override : Tick) :
    (s.classify other stream source device now override).1 = (s.classify record stream source device now override).1 := by
  unfold classify
  rw [hlifecycle, hevidence]
  by_cases hrejected : record.lifecycle = .rejected
  · rw [if_pos hrejected, if_pos hrejected]
  · rw [if_neg hrejected, if_neg hrejected]
    by_cases hretired : record.lifecycle = .retired
    · rw [if_pos hretired, if_pos hretired]
    · rw [if_neg hretired, if_neg hretired]

/-- Records of a stream with the same content and lifecycle have the same state. -/
theorem derivedState_congr : s.derivedState key stream other now = s.derivedState key stream record now := by
  have hstate : (s.factOf key stream now 0 other).state = (s.factOf key stream now 0 record).state :=
    classify_state_congr hlifecycle hevidence _ _ _
  have hauthority : (s.factOf key stream now 0 other).record.evidence.authority =
      (s.factOf key stream now 0 record).record.evidence.authority := congrArg CapabilityEvidence.authority hevidence
  rw [derivedState, derivedState, ranked_state, ranked_state, hstate, hauthority]

end

section

variable (hkeyed : s.AllStreams Stream.Keyed) (hinj : Set.InjOn CapabilityEvidence.id s.storedEvidence)
  (hfind : s.streams.find? key = some stream) (hrecord : record ∈ stream.records)

include hkeyed hinj hfind hrecord

/-- A fact with the id of a stored record is about a record of the same stream and content. -/
theorem twin_of_fact {fact : DerivedFact} (hfact : fact ∈ (s.derive key.device key.kind now 0).facts)
    (hid : fact.record.id = record.id) : fact.record ∈ stream.records ∧ fact.record.evidence = record.evidence ∧
      fact.state = s.derivedState key stream fact.record now := by
  obtain ⟨raw, hraw, rfl⟩ := mem_derive_facts.mp hfact
  obtain ⟨other, otherStream, hother, -, -, twin, htwin, rfl⟩ := mem_rawFacts.mp hraw
  rw [ranked_record] at hid ⊢
  have hevidence : twin.evidence = record.evidence :=
    hinj ⟨other, otherStream, hother, twin, htwin, rfl⟩ ⟨key, stream, hfind, record, hrecord, rfl⟩ hid
  have hkey : other = key := by
    rw [← hkeyed other otherStream hother twin htwin, ← hkeyed key stream hfind record hrecord, hevidence]
  subst hkey
  rw [hfind] at hother
  cases hother
  exact ⟨htwin, hevidence, rfl⟩

/-- Whether a record of the last priority can go is decided by the first fact with its id. -/
theorem isEvictable_of_last (hlast : s.evictionPriority key stream record now = 5) :
    ∃ twin ∈ stream.records, twin.evidence = record.evidence ∧
      (s.isEvictable key stream record now = true ↔ s.derivedState key stream twin now = .outranked) := by
  have hown : s.DerivedAs key record now (s.derivedState key stream record now) :=
    (derivedAs_iff hkeyed hfind hrecord).mpr rfl
  obtain ⟨own, hmem, hsame, -⟩ := hown
  have hsome : ((s.derive key.device key.kind now 0).facts.find? (fun fact => fact.record.id == record.id)).isSome := by
    rw [List.find?_isSome]
    exact ⟨own, hmem, by rw [hsame, beq_self_eq_true]⟩
  obtain ⟨fact, hfirst⟩ := Option.isSome_iff_exists.mp hsome
  have hid := List.find?_some hfirst
  rw [beq_iff_eq] at hid
  obtain ⟨htwin, hevidence, hstate⟩ := twin_of_fact hkeyed hinj hfind hrecord (mem_of_find?_eq_some hfirst) hid
  refine ⟨fact.record, htwin, hevidence, ?_⟩
  rw [isEvictable, if_pos hlast, hfirst, ← hstate]
  exact decide_eq_true_iff

end

theorem isEvictable_iff_of_lower (h : s.evictionPriority key stream record now ≠ 5) :
    s.isEvictable key stream record now = true ↔ s.evictionPriority key stream record now ≤ 4 := by
  rw [isEvictable, if_neg h]
  exact decide_eq_true_iff

/-! ### The record that is chosen -/

/-- A record in scope, other than the forbidden one, that the derivation does not give as active. -/
structure Expendable (s : Registry) (restrict : Option EvidenceKey) (forbidden : Option EvidenceId) (now : Tick)
    (key : EvidenceKey) (stream : Stream) (record : StoredEvidence) : Prop where
  found : s.streams.find? key = some stream
  stored : record ∈ stream.records
  scope : ∀ other ∈ restrict, other = key
  allowed : forbidden ≠ some record.id
  inactive : ¬ s.DerivedAs key record now .active

/-- A record as the scan compares it: by priority, observation and id. -/
def candidateOf (s : Registry) (key : EvidenceKey) (stream : Stream) (record : StoredEvidence) (now : Tick) :
    EvictionCandidate :=
  ⟨key, record.id, s.evictionPriority key stream record now, record.evidence.observedAt⟩

section Choice

variable {restrict : Option EvidenceKey} {forbidden : Option EvidenceId} {candidate : EvictionCandidate}

theorem evictionClass_le_four (hactive : state ≠ .active) (houtranked : state ≠ .outranked)
    (hevicted : state ≠ .evicted) : state.evictionClass ≤ 4 := by
  cases state with
  | active => exact absurd rfl hactive
  | outranked => exact absurd rfl houtranked
  | evicted => exact absurd rfl hevicted
  | superseded | retired | rejected | fenced | stale => decide

theorem evictionClass_eq_five (h : state.evictionClass = 5) : state = .active ∨ state = .outranked := by
  cases state with
  | active => exact .inl rfl
  | outranked => exact .inr rfl
  | superseded | retired | rejected | fenced | stale | evicted => cases h

theorem evictionPriority_le_four (h : s.evictionPriority key stream record now ≠ 5) :
    s.evictionPriority key stream record now ≤ 4 := by
  rw [evictionPriority_eq] at h ⊢
  apply evictionClass_le_four
  · intro hactive
    rw [hactive] at h
    exact h rfl
  · intro houtranked
    rw [houtranked] at h
    exact h rfl
  · exact derivedState_ne_evicted

/-- A record of the last priority is admitted. -/
theorem admitted_of_last (h : s.evictionPriority key stream record now = 5) : record.lifecycle = .admitted := by
  cases hlifecycle : record.lifecycle with
  | admitted => rfl
  | rejected =>
    rw [evictionPriority, if_pos hlifecycle] at h
    cases h
  | retired =>
    rw [evictionPriority, if_neg (by rw [hlifecycle]; decide), if_pos hlifecycle] at h
    cases h

section

variable (hkeyed : s.AllStreams Stream.Keyed) (hinj : Set.InjOn CapabilityEvidence.id s.storedEvidence)
include hkeyed hinj

/-- The candidates of the scan are expendable records. -/
theorem expendable_of_candidate (h : candidate ∈ s.evictionCandidates restrict forbidden now) :
    ∃ key stream record, s.Expendable restrict forbidden now key stream record ∧
      candidate = s.candidateOf key stream record now := by
  obtain ⟨stream, hfind, hscope, record, hrecord, hallowed, hevictable, hid, hpriority, hobserved⟩ :=
    mem_evictionCandidates.mp h
  refine ⟨candidate.key, stream, record, ⟨hfind, hrecord, hscope, hallowed, ?_⟩, ?_⟩
  · rw [derivedAs_iff hkeyed hfind hrecord]
    intro hactive
    have hlast : s.evictionPriority candidate.key stream record now = 5 := by
      rw [evictionPriority_eq, hactive]
      rfl
    obtain ⟨twin, htwin, hevidence, hiff⟩ := isEvictable_of_last hkeyed hinj hfind hrecord hlast
    have houtranked := hiff.mp hevictable
    -- a record that outranking concerns is admitted, and then its twin is in the same state
    have htwinLast : s.evictionPriority candidate.key stream twin now = 5 := by
      rw [evictionPriority_eq, houtranked]
      rfl
    have hsame : s.derivedState candidate.key stream twin now = s.derivedState candidate.key stream record now :=
      derivedState_congr ((admitted_of_last htwinLast).trans (admitted_of_last hlast).symm) hevidence
    rw [hactive, houtranked] at hsame
    cases hsame
  · rw [candidateOf, ← hid, ← hpriority, ← hobserved]

/-- An expendable record is a candidate, or another record of its id that comes before it is. -/
theorem candidate_of_expendable (h : s.Expendable restrict forbidden now key stream record) :
    ∃ other ∈ s.evictionCandidates restrict forbidden now, other.rank ≤ (s.candidateOf key stream record now).rank := by
  have hcandidate : ∀ twin ∈ stream.records, twin.id = record.id → s.isEvictable key stream twin now = true →
      s.candidateOf key stream twin now ∈ s.evictionCandidates restrict forbidden now := by
    intro twin htwin hid hevictable
    refine mem_evictionCandidates.mpr ⟨stream, h.found, h.scope, twin, htwin, ?_, hevictable, rfl, rfl, rfl⟩
    rw [hid]
    exact h.allowed
  have hinactive := h.inactive
  rw [derivedAs_iff hkeyed h.found h.stored] at hinactive
  by_cases hevictable : s.isEvictable key stream record now = true
  · exact ⟨_, hcandidate record h.stored rfl hevictable, le_refl _⟩
  · by_cases hlast : s.evictionPriority key stream record now = 5
    · -- it is outranked, and the first fact with its id is about a record that is not
      obtain ⟨twin, htwin, hevidence, hiff⟩ := isEvictable_of_last hkeyed hinj h.found h.stored hlast
      have houtranked : s.derivedState key stream record now = .outranked := by
        rw [evictionPriority_eq] at hlast
        exact (evictionClass_eq_five hlast).resolve_left hinactive
      have hlower : s.evictionPriority key stream twin now ≠ 5 := by
        intro htwinLast
        have hsame : s.derivedState key stream twin now = s.derivedState key stream record now :=
          derivedState_congr ((admitted_of_last htwinLast).trans (admitted_of_last hlast).symm) hevidence
        exact hevictable (hiff.mpr (hsame.trans houtranked))
      have hbefore := evictionPriority_le_four hlower
      refine ⟨_, hcandidate twin htwin (congrArg CapabilityEvidence.id hevidence)
        ((isEvictable_iff_of_lower hlower).mpr hbefore), ?_⟩
      rw [EvictionCandidate.rank, EvictionCandidate.rank, Prod.Lex.toLex_le_toLex]
      exact .inl (show s.evictionPriority key stream twin now < s.evictionPriority key stream record now by omega)
    · exact absurd ((isEvictable_iff_of_lower hlast).mpr (evictionPriority_le_four hlast)) hevictable

end

end Choice

end Registry

/-- The priority of a stored record is that of the state the derivation gives it, and the scan finds a record exactly
    when one in its scope is not active, the first of them by priority, observation and id. -/
theorem eviction_policy_matches_derivation {s : Registry} (hreach : s.Reachable)
    (hinj : Set.InjOn CapabilityEvidence.id s.storedEvidence) (now : Tick) :
    (∀ key stream record, s.streams.find? key = some stream → record ∈ stream.records →
        (s.evictionPriority key stream record now = 0 ↔ s.DerivedAs key record now .rejected) ∧
        (s.evictionPriority key stream record now = 1 ↔ s.DerivedAs key record now .superseded) ∧
        (s.evictionPriority key stream record now = 2 ↔ s.DerivedAs key record now .fenced) ∧
        (s.evictionPriority key stream record now = 3 ↔ s.DerivedAs key record now .stale) ∧
        (s.evictionPriority key stream record now = 4 ↔ s.DerivedAs key record now .retired) ∧
        (s.evictionPriority key stream record now = 5 ↔
          s.DerivedAs key record now .active ∨ s.DerivedAs key record now .outranked)) ∧
      ∀ restrict forbidden,
        (s.pickEvictionCandidate restrict forbidden now ≠ none ↔
          ∃ key stream record, s.Expendable restrict forbidden now key stream record) ∧
        ∀ candidate, s.pickEvictionCandidate restrict forbidden now = some candidate →
          (∃ key stream record, s.Expendable restrict forbidden now key stream record ∧
            candidate = s.candidateOf key stream record now) ∧
          ∀ key stream record, s.Expendable restrict forbidden now key stream record →
            candidate.rank ≤ (s.candidateOf key stream record now).rank := by
  have hkeyed := hreach.keyed
  refine ⟨?_, ?_⟩
  · intro key stream record hfind hrecord
    have hstates : ∀ state, s.DerivedAs key record now state ↔ s.derivedState key stream record now = state :=
      fun state => derivedAs_iff hkeyed hfind hrecord
    rw [evictionPriority_eq, hstates, hstates, hstates, hstates, hstates, hstates, hstates]
    have hkept : s.derivedState key stream record now ≠ .evicted := derivedState_ne_evicted
    generalize s.derivedState key stream record now = state at hkept
    cases state with
    | evicted => exact absurd rfl hkept
    | active | superseded | retired | rejected | fenced | stale | outranked => decide
  · intro restrict forbidden
    refine ⟨?_, ?_⟩
    · constructor
      · intro hsome
        obtain ⟨candidate, hpick⟩ := Option.ne_none_iff_exists'.mp hsome
        obtain ⟨key, stream, record, hexpendable, -⟩ :=
          expendable_of_candidate hkeyed hinj (pick_mem_candidates hpick)
        exact ⟨key, stream, record, hexpendable⟩
      · rintro ⟨key, stream, record, hexpendable⟩ hnone
        obtain ⟨other, hother, -⟩ := candidate_of_expendable hkeyed hinj hexpendable
        rw [pickEvictionCandidate, Scan.bestBy_eq_none] at hnone
        rw [hnone] at hother
        cases hother
    · intro candidate hpick
      refine ⟨expendable_of_candidate hkeyed hinj (pick_mem_candidates hpick), ?_⟩
      intro key stream record hexpendable
      obtain ⟨other, hother, hrank⟩ := candidate_of_expendable hkeyed hinj hexpendable
      exact le_trans (Scan.bestBy_le EvictionCandidate.better_iff_rank_lt hpick hother) hrank

/-- What a registry stores is listed when every stream passes. -/
theorem storedEvidence_subset {s : Registry} {known : List CapabilityEvidence}
    (h : s.streams.entries.all (fun entry => entry.2.records.all (fun record => record.evidence ∈ known)) = true) :
    s.storedEvidence ⊆ { evidence | evidence ∈ known } := by
  rintro evidence ⟨key, stream, hfind, record, hrecord, rfl⟩
  have hstream := all_eq_true.mp h (key, stream) (SortedMap.mem_entries_iff.mpr hfind)
  exact of_decide_eq_true (all_eq_true.mp hstream record hrecord)

/-- The first report is superseded by the third, and is the one to go. -/
theorem eviction_policy_superseded_report : ∃ key stream record, threeReports.pickEvictionCandidate none none 6 =
        some (threeReports.candidateOf key stream record 6) ∧
      threeReports.DerivedAs key record 6 .superseded := by
  have hinj : Set.InjOn CapabilityEvidence.id { evidence | evidence ∈ reportedEvidence } :=
    inj_on_of_nodup_map (by decide +kernel)
  have hstored : threeReports.storedEvidence ⊆ { evidence | evidence ∈ reportedEvidence } :=
    storedEvidence_subset (by decide +kernel)
  have hpriority : (threeReports.pickEvictionCandidate none none 6).map EvictionCandidate.priority = some 1 := by
    decide +kernel
  obtain ⟨candidate, hpick, hone⟩ := Option.map_eq_some_iff.mp hpriority
  obtain ⟨hstates, hpicks⟩ :=
    eviction_policy_matches_derivation threeReports_reachable (hinj.mono hstored) 6
  obtain ⟨⟨key, stream, record, hexpendable, rfl⟩, -⟩ := (hpicks none none).2 candidate hpick
  exact ⟨key, stream, record, hpick, (hstates key stream record hexpendable.found hexpendable.stored).2.1.mp hone⟩

end Ocreg
