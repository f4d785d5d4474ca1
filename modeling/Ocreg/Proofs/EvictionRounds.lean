/-
Module: Ocreg.Proofs.EvictionRounds
Purpose: The evictions of an admission one by one: the registry right before each, the record it takes and what the
  ledger says about it. What an admission returns as evicted is what it removed.
-/
import Ocreg.Proofs.EvictionPolicy

namespace Ocreg

open List Registry Lab

variable {key : EvidenceKey} {now : Tick}

/-! ### Rounds -/

namespace Registry

/-- The rounds of both loops; the second one runs where the first ends well. -/
def enforceRounds (s : Registry) (keepKey : EvidenceKey) (keepId : EvidenceId) (now : Tick) :
    List (Registry × EvictionCandidate) :=
  budgetRounds recordsOver none keepId now (s.totalRecords + 1) s ++
    match budgetLoop recordsOver none keepId now (s.totalRecords + 1) s [] with
    | (false, _, _) => []
    | (true, t, _) => budgetRounds (streamOver keepKey) (some keepKey) keepId now (t.streamSize keepKey + 1) t

/-- The evictions of an admission. Only a record that advances its stream causes any. -/
def admissionRounds (s : Registry) (request : AdmissionRequest) (now : Tick) : List (Registry × EvictionCandidate) :=
  match s.admissionRefusal request now, s.registerIncarnation request.device with
  | none, .ok t =>
    if t.streamRefusal request = none ∧ t.isDuplicate (t.evidenceOf request) = false ∧
        ¬ t.isRegression (t.evidenceOf request) then
      (t.insertAdmitted (t.evidenceOf request) now).enforceRounds request.key (t.evidenceOf request).id now
    else []
  | _, _ => []

variable {s t : Registry} {incoming : EvidenceId} {request : AdmissionRequest}
  {round : Registry × EvictionCandidate}

/-- A round comes after other evictions, takes what the scan finds, and the removal goes through. -/
structure IsRound (start : Registry) (incoming : EvidenceId) (now : Tick) (round : Registry × EvictionCandidate) :
    Prop where
  before : ∃ ids, Evicts incoming now start round.1 ids
  picked : ∃ restrict, round.1.pickEvictionCandidate restrict (some incoming) now = some round.2
  removed : ∃ after, round.1.applyEviction round.2 now = some after

theorem mem_budgetRounds {isOver : Registry → Bool} {restrict : Option EvidenceKey} {fuel : Nat} :
    round ∈ budgetRounds isOver restrict incoming now fuel s → IsRound s incoming now round := by
  refine budget_rule (P := fun s _ _ rounds => round ∈ rounds → IsRound s incoming now round)
    (fun _ _ _ => nofun) ?_ fuel s []
  intro s t candidate _ _ rounds hpick happly ih hmem
  rcases mem_cons.mp hmem with rfl | hrest
  · exact ⟨⟨[], .refl s⟩, ⟨restrict, hpick⟩, ⟨t, happly⟩⟩
  · obtain ⟨⟨ids, hevicts⟩, hpicked, hremoved⟩ := ih hrest
    exact ⟨⟨_, .step hpick happly hevicts⟩, hpicked, hremoved⟩

/-- The ids a loop reports are those of its rounds. -/
theorem budgetLoop_ids (isOver : Registry → Bool) (restrict : Option EvidenceKey) (incoming : EvidenceId) (now : Tick)
    (fuel : Nat) (s : Registry) (evicted : List EvidenceId) :
    (budgetLoop isOver restrict incoming now fuel s evicted).2.2 =
      evicted ++ (budgetRounds isOver restrict incoming now fuel s).map (·.2.id) := by
  refine budget_rule (P := fun _ evicted result rounds => result.2.2 = evicted ++ rounds.map (·.2.id))
    (fun _ _ _ => (append_nil _).symm) ?_ fuel s evicted
  intro _ _ _ _ _ _ _ _ ih
  rw [ih, append_assoc]
  rfl

theorem enforceBudget_ids (s : Registry) (key : EvidenceKey) (incoming : EvidenceId) (now : Tick) :
    (s.enforceBudget key incoming now).2.2 = (s.enforceRounds key incoming now).map (·.2.id) := by
  have hfirst := budgetLoop_ids recordsOver none incoming now (s.totalRecords + 1) s []
  rw [enforceBudget, enforceRounds, map_append]
  rw [nil_append] at hfirst
  rw [← hfirst]
  obtain ⟨ok, t, ids⟩ := budgetLoop recordsOver none incoming now (s.totalRecords + 1) s []
  cases ok with
  | false => exact (append_nil _).symm
  | true => exact budgetLoop_ids (streamOver key) (some key) incoming now (t.streamSize key + 1) t ids

theorem mem_enforceRounds (h : round ∈ s.enforceRounds key incoming now) : IsRound s incoming now round := by
  rcases mem_append.mp h with hfirst | hsecond
  · exact mem_budgetRounds hfirst
  · obtain ⟨t, ids, hloop, hevicts, -⟩ := (s.recordsLoop_runs incoming now).spec
    rw [hloop] at hsecond
    cases hover : recordsOver t with
    | true =>
      rw [hover] at hsecond
      cases hsecond
    | false =>
      rw [hover] at hsecond
      obtain ⟨⟨others, hothers⟩, hpicked, hremoved⟩ := mem_budgetRounds hsecond
      exact ⟨⟨_, hevicts.trans hothers⟩, hpicked, hremoved⟩

/-- The evictions of an admission follow the insertion of its record. -/
theorem mem_admissionRounds (h : round ∈ s.admissionRounds request now) :
    ∃ t, Admissible s request now t ∧ Advancing t (t.evidenceOf request) ∧
      IsRound (t.insertAdmitted (t.evidenceOf request) now) (t.evidenceOf request).id now round := by
  rw [admissionRounds] at h
  split at h
  · rename_i t hrefusal hregister
    split at h
    · rename_i hnew
      exact ⟨t, ⟨hrefusal, hregister, hnew.1⟩, ⟨hnew.2.1, hnew.2.2⟩, mem_enforceRounds h⟩
    · cases h
  · cases h

theorem admissionRounds_of_advancing (ht : Admissible s request now t) (hnew : Advancing t (t.evidenceOf request)) :
    s.admissionRounds request now =
      (t.insertAdmitted (t.evidenceOf request) now).enforceRounds request.key (t.evidenceOf request).id now := by
  rw [admissionRounds, ht.accepted, ht.registered]
  exact if_pos ⟨ht.unfenced, hnew.fresh, hnew.advances⟩

theorem admissionRounds_eq_nil (ht : Admissible s request now t)
    (hnew : ¬ Advancing t (t.evidenceOf request)) : s.admissionRounds request now = [] := by
  rw [admissionRounds, ht.accepted, ht.registered]
  exact if_neg fun h => hnew ⟨h.2.1, h.2.2⟩

/-- Records stand in the streams of their keys throughout the rounds. -/
theorem keyed_of_round (hkeyed : s.AllStreams Stream.Keyed) (h : round ∈ s.admissionRounds request now) :
    round.1.AllStreams Stream.Keyed := by
  obtain ⟨t, ht, -, ⟨ids, hevicts⟩, -, -⟩ := mem_admissionRounds h
  have hregistered : t.AllStreams Stream.Keyed :=
    hkeyed.of_streams_eq (registerIncarnation_evidence ht.registered).streams
  refine hevicts.allStreams ?_ (hregistered.of_insert ?_ rfl)
  · intro key stream id hstream record hrecord
    exact hstream record ((stream.without_sublist id).subset hrecord)
  · intro record hrecord
    rcases mem_insertRecord.mp hrecord with rfl | hold
    · rfl
    · exact AllStreams.at hregistered (by simp [Stream.Keyed, Stream.empty]) _ record hold

end Registry

/-! ### The ledger -/

section Ledger

variable {s : Registry} {stream : Stream} {record : StoredEvidence}

/-- States of a record that is admitted and not superseded. -/
def EvidenceState.Current (state : EvidenceState) : Prop := state = .fenced ∨ state = .stale ∨ state = .active

theorem classify_current (hadmitted : record.lifecycle = .admitted)
    (hnewest : ¬ (stream.maxGeneration ≠ 0 ∧ record.evidence.generation < stream.maxGeneration))
    (source : Option SourcePolicy) (device : DeviceIncarnationRef) (override : Tick) :
    (s.classify record stream source device now override).1.Current := by
  have hfenced : EvidenceState.fenced.Current := .inl rfl
  have hstale : EvidenceState.stale.Current := .inr (.inl rfl)
  unfold classify
  rw [if_neg (by rw [hadmitted]; decide), if_neg (by rw [hadmitted]; decide), if_neg hnewest]
  refine cascade_all hfenced ?_
  cases source with
  | none => exact hfenced
  | some source =>
    exact cascade_all hfenced (cascade_all hfenced (cascade_all hfenced (cascade_all hfenced
      (cascade_all hstale (cascade_all hstale (.inr (.inr rfl)))))))

theorem derivedState_of_current
    (h : (s.classify record stream (s.policy.findSource key.source) key.device now 0).1.Current) :
    (s.derivedState key stream record now).Current ∨ s.derivedState key stream record now = .outranked := by
  rw [derivedState, DerivedFact.ranked_state]
  split
  · exact .inr rfl
  · exact .inl h

theorem derivedState_of_inactive {state : EvidenceState} {reason : ReasonCode} (hinactive : state ≠ .active)
    (h : s.classify record stream (s.policy.findSource key.source) key.device now 0 = (state, reason)) :
    s.derivedState key stream record now = state := by
  have hstate : (s.factOf key stream now 0 record).state = state := congrArg Prod.fst h
  rw [derivedState, DerivedFact.ranked_state, hstate, if_neg (fun hactive => hinactive hactive.1)]

/-- The ledger and the derivation agree on a record unless it is fenced, stale or active. -/
theorem stateAtEviction_eq_iff :
    (evictionEntryOf key stream record now).stateAtEviction = s.derivedState key stream record now ↔
      ¬ (s.derivedState key stream record now).Current := by
  have hagree : ∀ state reason, state ≠ .active → ¬ state.Current →
      (evictionEntryOf key stream record now).stateAtEviction = state →
      s.classify record stream (s.policy.findSource key.source) key.device now 0 = (state, reason) →
      ((evictionEntryOf key stream record now).stateAtEviction = s.derivedState key stream record now ↔
        ¬ (s.derivedState key stream record now).Current) := by
    intro state reason hinactive hother hentry hclassify
    rw [derivedState_of_inactive hinactive hclassify, hentry]
    exact iff_of_true rfl hother
  cases hlifecycle : record.lifecycle with
  | rejected =>
    refine hagree .rejected record.admissionReason (by decide) (by simp [EvidenceState.Current]) ?_ ?_
    · rw [evictionEntryOf, if_neg (by rw [hlifecycle]; decide), if_pos hlifecycle]
    · rw [classify.eq_def, if_pos hlifecycle]
  | retired =>
    refine hagree .retired record.retirementReason (by decide) (by simp [EvidenceState.Current]) ?_ ?_
    · rw [evictionEntryOf, if_pos hlifecycle]
    · rw [classify.eq_def, if_neg (by rw [hlifecycle]; decide), if_pos hlifecycle]
  | admitted =>
    have hlive : record.lifecycle ≠ .rejected ∧ record.lifecycle ≠ .retired := by
      rw [hlifecycle]
      decide
    by_cases hbelow : record.evidence.generation < stream.maxGeneration
    · have hnonzero : stream.maxGeneration ≠ 0 := by
        intro hzero
        rw [hzero] at hbelow
        exact UInt64.not_lt_zero hbelow
      refine hagree .superseded .rejectedSupersededGeneration (by decide) (by simp [EvidenceState.Current]) ?_ ?_
      · rw [evictionEntryOf, if_neg hlive.2, if_neg hlive.1, if_pos hbelow]
      · rw [classify.eq_def, if_neg hlive.1, if_neg hlive.2, if_pos ⟨hnonzero, hbelow⟩]
    · have hentry : (evictionEntryOf key stream record now).stateAtEviction = .outranked := by
        rw [evictionEntryOf, if_neg hlive.2, if_neg hlive.1, if_neg hbelow]
      have hcurrent : (s.classify record stream (s.policy.findSource key.source) key.device now 0).1.Current :=
        classify_current hlifecycle (fun h => hbelow h.2) _ _ _
      rw [hentry]
      rcases derivedState_of_current hcurrent with hother | houtranked
      · refine iff_of_false ?_ (not_not.mpr hother)
        intro heq
        rw [← heq] at hother
        simp [EvidenceState.Current] at hother
      · rw [houtranked]
        exact iff_of_true rfl (by simp [EvidenceState.Current])

/-- Every eviction of an admission leaves a ledger entry about the record it removes, and the entry has the state the
    derivation gives that record right before, exactly when that is not fenced, stale or active. -/
theorem eviction_ledger_truthful_iff (hreach : s.Reachable) {request : AdmissionRequest}
    {round : Registry × EvictionCandidate} (hround : round ∈ s.admissionRounds request now) :
    ∃ after entry record state, round.1.applyEviction round.2 now = some after ∧
      after.evictionTable.getLast? = some entry ∧
      (round.1.streamAt round.2.key).records.find? (fun stored => stored.id == round.2.id) = some record ∧
      (∀ other, round.1.DerivedAs round.2.key record now other ↔ state = other) ∧
      (entry.stateAtEviction = state ↔ state ≠ .fenced ∧ state ≠ .stale ∧ state ≠ .active) := by
  obtain ⟨-, -, -, -, -, after, happly⟩ := mem_admissionRounds hround
  obtain ⟨stream, record, hfind, hrecord, hafter⟩ := applyEviction_eq_some happly
  have hkeyed := keyed_of_round hreach.keyed hround
  refine ⟨after, evictionEntryOf round.2.key stream record now, record,
    round.1.derivedState round.2.key stream record now, happly, ?_, ?_, ?_, ?_⟩
  · rw [hafter]
    exact List.getLast?_concat
  · rw [streamAt_of_find hfind]
    exact hrecord
  · exact fun other => derivedAs_iff hkeyed hfind (mem_of_find?_eq_some hrecord)
  · rw [stateAtEviction_eq_iff, EvidenceState.Current, not_or, not_or]

end Ledger

namespace Lab

/-- One source whose evidence is fresh for ten ticks, and room for one record. -/
def forgetful : RegistryPolicy :=
  { policy with
    sources := [{ sourcePolicy with maxAge := 10 }]
    limits := { policy.limits with maxRecords := 1 } }

/-- A registry with a report that has become stale at tick 100. -/
def staleReport : Registry := (Registry.init forgetful).step (.admitRequest (request 0 1 5) 5)

end Lab

/-- A stale record is evicted for a new one, and the ledger calls it outranked. -/
theorem stale_record_entered_as_outranked :
    (staleReport.admissionRounds (request 1 1 100) 100).map (fun round =>
        ((round.1.derive round.2.key.device round.2.key.kind 100 0).facts.map DerivedFact.state,
          (round.1.applyEviction round.2 100).map (fun after => after.evictionTable.map EvictionEntry.stateAtEviction))) =
      [([.stale], some [.outranked])] := by
  decide +kernel

theorem eviction_ledger_one_round :
    ∃ round ∈ staleReport.admissionRounds (request 1 1 100) 100,
      ∃ after entry record state, round.1.applyEviction round.2 100 = some after ∧
        after.evictionTable.getLast? = some entry ∧
        (round.1.streamAt round.2.key).records.find? (fun stored => stored.id == round.2.id) = some record ∧
        (∀ other, round.1.DerivedAs round.2.key record 100 other ↔ state = other) ∧
        (entry.stateAtEviction = state ↔ state ≠ .fenced ∧ state ≠ .stale ∧ state ≠ .active) := by
  have hone : 0 < (staleReport.admissionRounds (request 1 1 100) 100).length := by decide +kernel
  obtain ⟨round, hround⟩ := exists_mem_of_length_pos hone
  exact ⟨round, hround, eviction_ledger_truthful_iff (.step (.init forgetful) _) hround⟩

/-! ### The evictions an admission returns -/

namespace Registry

variable {offered : Set Bytes} {s t : Registry} {request : AdmissionRequest}
  {record incoming : StoredEvidence} {id : EvidenceId} {ids : List EvidenceId}

/-- What is evicted was stored, and is not the record that came in. -/
theorem stored_of_evicts (h : Evicts id now s t ids) :
    ∀ evicted ∈ ids, evicted ≠ id ∧ ∃ key, ∃ record ∈ (s.streamAt key).records, record.id = evicted := by
  induction h with
  | refl s => simp
  | @step s t u _ candidate ids hpick happly _ ih =>
    obtain ⟨stream, hfind, _, victim, hvictim, hother, _, hid, _⟩ :=
      mem_evictionCandidates.mp (pick_mem_candidates hpick)
    refine forall_mem_cons.mpr ⟨⟨?_, candidate.key, victim, streamAt_of_find hfind ▸ hvictim, hid.symm⟩, ?_⟩
    · exact fun hsame => hother (congrArg some (hsame.symm.trans hid))
    · intro evicted hevicted
      obtain ⟨hne, key, record, hrecord, hsame⟩ := ih evicted hevicted
      exact ⟨hne, key, record, ((Evicts.step hpick happly (.refl t)).streamAt_sublist key).subset hrecord, hsame⟩

variable (hinj : Set.InjOn Digest256.of offered)
include hinj

/-- Evictions leave the stored records whose ids they do not list: an id names one record of one stream. -/
theorem mem_evicts_iff (hpending : s.Pending offered key incoming) (hid : incoming.id = id)
    (h : Evicts id now s t ids) {other : EvidenceKey} (hmem : record ∈ (s.streamAt other).records) :
    record ∈ (t.streamAt other).records ↔ record.id ∉ ids := by
  subst hid
  induction h with
  | refl s => simp [hmem]
  | @step s t u _ candidate ids hpick happly hrest ih =>
    by_cases hvictim : record.id = candidate.id
    · refine iff_of_false (fun hkept => ?_) (by simp [hvictim])
      have hstored := (hrest.streamAt_sublist other).subset hkept
      obtain ⟨stream, hfind, _, victim, hchosen, _, _, hchosenId, _⟩ :=
        mem_evictionCandidates.mp (pick_mem_candidates hpick)
      obtain ⟨stream', hfind', hmem'⟩ := find_of_mem_streamAt hmem
      have hkey := hpending.sound.key_eq_of_id_eq hinj hfind' hmem' hfind hchosen (hvictim.trans hchosenId)
      rw [streamAt_applyEviction happly, if_pos hkey,
        Stream.without_records (hpending.sound.streams.at Stream.Sound.empty other).ids] at hstored
      simp [hvictim] at hstored
    · have hkept : record ∈ (t.streamAt other).records := by
        rw [streamAt_applyEviction happly]
        split
        · exact Stream.mem_without_of_id_ne hmem hvictim
        · exact hmem
      rw [ih (hpending.evict hinj hpick happly) hkept, mem_cons, not_or]
      exact (and_iff_right hvictim).symm

end Registry

/-- What a successful admission returns as evicted is what it removed: the ids are those of records stored before, and
    of these the ones stay whose ids are not among them. -/
theorem evicted_are_removed {offered : Set Bytes} (hinj : Set.InjOn Digest256.of offered) {s : Registry}
    (hs : Reach offered s) {request : AdmissionRequest} {now : Tick} (hoffered : (s.evidenceOf request).encode ∈ offered)
    {outcome : AdmissionOutcome} {reason : ReasonCode}
    (h : (s.admitRequest request now).1 = .success outcome reason) :
    (∀ id ∈ outcome.evicted, ∃ key, ∃ record ∈ (s.streamAt key).records, record.id = id) ∧
      ∀ key, ∀ record ∈ (s.streamAt key).records,
        record ∈ ((s.admitRequest request now).2.streamAt key).records ↔ record.id ∉ outcome.evicted := by
  have hsound := hs.sound hinj
  generalize hop : s.admitRequest request now = result at h
  cases s.admitRequest_view hop with
  | refused _ | unregistered _ _ | fenced _ _ _ | exhausted _ _ _ => cases h
  | duplicate ht _ | rejected ht _ _ _ =>
    cases h
    refine ⟨nofun, fun key record hmem => iff_of_true ?_ nofun⟩
    exact (streamAt_registered ht.registered key).symm ▸ hmem
  | @retained t ht _ _ _ =>
    cases h
    refine ⟨nofun, fun key record hmem => iff_of_true ?_ nofun⟩
    exact mem_retainRejected (s := t.countRejected) ((streamAt_registered ht.registered key).symm ▸ hmem) _ _
  | @accepted t u ids ht hnew hbudget =>
    cases h
    have hevicts := evicts_of_budget hbudget
    refine ⟨fun id hid => ?_, fun key record hmem => ?_⟩
    · obtain ⟨hne, key, record, hrecord, hsame⟩ := stored_of_evicts hevicts id hid
      rcases mem_insertInStream.mp hrecord with hold | ⟨-, rfl⟩
      · exact ⟨key, record, (streamAt_registered ht.registered key) ▸ hold, hsame⟩
      · exact absurd (hsame.symm.trans (storedOf_id ..)) hne
    · rw [show (u.settleAccepted request.key now).streamAt key = u.streamAt key from
        (refreshConflict_evidence u.countAccepted _ _ _).streamAt key]
      exact mem_evicts_iff hinj (hsound.inserted hoffered ht hnew) (storedOf_id ..) hevicts
        (mem_insertInStream.mpr (.inl ((streamAt_registered ht.registered key).symm ▸ hmem)))

/-- The stale record goes for a new one, and its id is returned. -/
theorem evicted_are_removed_stale :
    ∃ outcome ∈ (staleReport.admitRequest (request 1 1 100) 100).1.value?, outcome.evicted.length = 1 ∧
      ∀ key, ∀ record ∈ (staleReport.streamAt key).records,
        record ∈ ((staleReport.admitRequest (request 1 1 100) 100).2.streamAt key).records ↔
          record.id ∉ outcome.evicted := by
  have hdistinct : Set.InjOn Digest256.of {((Registry.init forgetful).evidenceOf (request 0 1 5)).encode,
      (staleReport.evidenceOf (request 1 1 100)).encode} :=
    Set.injOn_pair.mpr (fun hsame => absurd hsame (by decide +kernel))
  have hlength : (staleReport.admitRequest (request 1 1 100) 100).1.value?.map (·.evicted.length) = some 1 := by
    decide +kernel
  cases h : (staleReport.admitRequest (request 1 1 100) 100).1 with
  | failure =>
    rw [h] at hlength
    cases hlength
  | success outcome =>
    rw [h] at hlength
    exact ⟨outcome, rfl, Option.some.inj hlength, (evicted_are_removed hdistinct (.step (.init forgetful)
      (fun _ _ h => by cases h) (fun _ _ h => by cases h; exact .inl rfl)) (.inr rfl) h).2⟩

end Ocreg
