/-
Module: Ocreg.Proofs.Generations
Purpose: Generations accepted on a stream increase along a run whose admissions find room or something spare
  to evict; a run that evicts a stream's newest record takes an older generation again.
-/
import Ocreg.Lib.Runs
import Ocreg.Proofs.Eviction

namespace Ocreg

open Registry Lab

variable {candidate : EvictionCandidate} {key : EvidenceKey} {incoming : EvidenceId} {ok : Bool}
  {ids : List EvidenceId} {op : Op} {record : StoredEvidence}

namespace Registry

/-- What a run accepts, in order. -/
def acceptances (s : Registry) (ops : List Op) : List (EvidenceKey × RecordGeneration) :=
  Runs.events step acceptance s ops

/-- Some record can go without lowering any stream: a rejected one, or an admitted one that is superseded
    already or will be by the request. -/
def HasSpare (s : Registry) (request : AdmissionRequest) : Prop :=
  ∃ key stream record, s.findStream key = some stream ∧ record ∈ stream.records ∧
    (record.lifecycle = .rejected ∨ record.lifecycle = .admitted ∧
      (record.evidence.generation < stream.maxGeneration ∨ key = request.key))

/-- An admission above its stream's maximum finds the bounds kept, and a record free or one to spare. -/
def Spacious (s : Registry) : Op → Prop
  | .admitRequest request _ => (s.streamAt request.key).maxGeneration < request.generation →
      s.totalRecords ≤ s.policy.limits.maxRecords.toNat ∧
      s.streamSize request.key ≤ s.policy.limits.maxRecordsPerStream.toNat ∧
      (s.totalRecords < s.policy.limits.maxRecords.toNat ∨ s.HasSpare request)
  | .adoptState _ _ => False
  | _ => True

/-! ### Bounds exceeded by one record -/

section

variable (isOver : Registry → Bool) (restrict : Option EvidenceKey) (incoming : EvidenceId) (now : Tick) (s : Registry)

/-- What a budget loop does when one eviction brings its bound back. -/
inductive OneRound : Bool → Registry → Prop
  | fits (hunder : isOver s = false) : OneRound true s
  | stuck (hover : isOver s = true) : OneRound false s
  | evicted {t : Registry} {candidate : EvictionCandidate} (hover : isOver s = true)
      (hpick : s.pickEvictionCandidate restrict (some incoming) now = some candidate)
      (happly : s.applyEviction candidate now = some t) : OneRound true t

theorem budgetLoop_oneRound (fuel : Nat) (evicted : List EvidenceId) (hfuel : isOver s = true → 1 ≤ fuel)
    (hone : ∀ {t candidate}, s.pickEvictionCandidate restrict (some incoming) now = some candidate →
      s.applyEviction candidate now = some t → isOver t = false) :
    ∃ ok t ids, budgetLoop isOver restrict incoming now (fuel + 1) s evicted = (ok, t, ids) ∧
      OneRound isOver restrict incoming now s ok t := by
  rw [budgetLoop]
  cases hover : isOver s with
  | false => exact ⟨true, s, evicted, rfl, .fits hover⟩
  | true =>
    rw [if_pos rfl]
    cases hpick : s.pickEvictionCandidate restrict (some incoming) now with
    | none => exact ⟨false, s, evicted, rfl, .stuck hover⟩
    | some candidate =>
      obtain ⟨t, happly⟩ := applyEviction_of_pick hpick
      obtain ⟨fuel, rfl⟩ := Nat.exists_eq_add_of_le' (hfuel hover)
      simp only [happly]
      rw [budgetLoop, hone hpick happly]
      exact ⟨true, t, _, rfl, .evicted hover hpick happly⟩

end

/-- An eviction brings the global bound back when it was exceeded by one. -/
theorem recordsOver_of_evict {s t : Registry} {now : Tick}
    (htotal : s.totalRecords ≤ s.policy.limits.maxRecords.toNat + 1)
    (happly : s.applyEviction candidate now = some t) : recordsOver t = false := by
  obtain ⟨_, _, _, _, _, _, hless⟩ := applyEviction_streams happly
  rw [recordsOver, hless, applyEviction_policy happly, decide_eq_false_iff_not]
  omega

/-- An eviction from a stream brings that stream's bound back when it was exceeded by one. -/
theorem streamOver_of_evict {s t : Registry} {now : Tick}
    (hsize : s.streamSize candidate.key ≤ s.policy.limits.maxRecordsPerStream.toNat + 1)
    (happly : s.applyEviction candidate now = some t) : streamOver candidate.key t = false := by
  have hless := streamSize_applyEviction happly
  rw [streamOver, applyEviction_policy happly, decide_eq_false_iff_not]
  omega

/-- Both bounds, each exceeded by one record at most. -/
theorem enforceBudget_oneRound {s u : Registry} {now : Tick}
    (htotal : s.totalRecords ≤ s.policy.limits.maxRecords.toNat + 1)
    (hsize : s.streamSize key ≤ s.policy.limits.maxRecordsPerStream.toNat + 1)
    (h : s.enforceBudget key incoming now = (ok, u, ids)) :
    ∃ first t, OneRound recordsOver none incoming now s first t ∧
      (first = false ∧ ok = false ∧ u = t ∨
        first = true ∧ OneRound (streamOver key) (some key) incoming now t ok u) := by
  have hpositive : recordsOver s = true → 1 ≤ s.totalRecords := by
    intro hover
    rw [recordsOver, decide_eq_true_eq] at hover
    omega
  obtain ⟨first, t, evicted, hloop, hround⟩ := budgetLoop_oneRound recordsOver none incoming now s
    s.totalRecords [] hpositive (fun _ happly => recordsOver_of_evict htotal happly)
  rw [enforceBudget, hloop] at h
  refine ⟨first, t, hround, ?_⟩
  cases first with
  | false =>
    cases h
    exact .inl ⟨rfl, rfl, rfl⟩
  | true =>
    -- the first round leaves the stream no larger and the limits alone
    have hsize' : t.streamSize key ≤ t.policy.limits.maxRecordsPerStream.toNat + 1 := by
      cases hround with
      | fits _ => exact hsize
      | evicted _ hpick happly =>
        have hevicts := Evicts.step hpick happly (.refl t)
        rw [hevicts.policy]
        exact (hevicts.streamAt_sublist key).length_le.trans hsize
    have hpositive' : streamOver key t = true → 1 ≤ t.streamSize key := by
      intro hover
      rw [streamOver, decide_eq_true_eq] at hover
      omega
    obtain ⟨second, v, evicted', hloop', hround'⟩ := budgetLoop_oneRound (streamOver key) (some key) incoming
      now t (t.streamSize key) evicted hpositive' (by
        intro v candidate hpick happly
        obtain ⟨_, _, hscope, _⟩ := mem_evictionCandidates.mp (pick_mem_candidates hpick)
        have hkey := hscope key rfl
        subst hkey
        exact streamOver_of_evict hsize' happly)
    simp only [hloop'] at h
    cases h
    exact .inr ⟨rfl, hround'⟩

/-! ### Newest records under the bounds -/

/-- Applying bounds exceeded by one, with a spare record in sight if it comes to the global one: newest
    records of other streams stay, and a failure leaves the stream of the incoming record as it was. -/
theorem newest_of_enforceBudget {s u : Registry} {own : EvidenceKey} {now : Tick}
    (hids : s.AllStreams (fun _ stream => DistinctIds stream.records))
    (htotal : s.totalRecords ≤ s.policy.limits.maxRecords.toNat + 1)
    (hsize : s.streamSize own ≤ s.policy.limits.maxRecordsPerStream.toNat + 1)
    (hspare : recordsOver s = true → ∃ key stream record, s.streams.find? key = some stream ∧
        record ∈ stream.records ∧ record.id ≠ incoming ∧ s.evictionPriority key stream record now ≤ 1)
    (h : s.enforceBudget own incoming now = (ok, u, ids)) :
    (∀ key record, key ≠ own → s.Newest key record → record ∈ (u.streamAt key).records) ∧
      (ok = false → u.streamAt own = s.streamAt own) := by
  obtain ⟨first, t, hfirst, hsecond⟩ := enforceBudget_oneRound htotal hsize h
  have hnewest : ∀ key record, s.Newest key record → record ∈ (t.streamAt key).records := by
    intro key record hnew
    cases hfirst with
    | evicted hover hpick happly =>
      obtain ⟨_, _, _, hfind, hrecord, hother, hpriority⟩ := hspare hover
      exact hnew.evict hids hpick happly (pick_outdated hpick (by simp) hfind hrecord hother hpriority)
    | _ => exact hnew.stored
  rcases hsecond with ⟨rfl, rfl, rfl⟩ | ⟨rfl, hsecond⟩
  · cases hfirst with
    | stuck _ => exact ⟨fun key record _ => hnewest key record, fun _ => rfl⟩
  · cases hsecond with
    | fits _ => exact ⟨fun key record _ => hnewest key record, fun hfail => by cases hfail⟩
    | stuck hover =>
      refine ⟨fun key record _ => hnewest key record, fun _ => ?_⟩
      cases hfirst with
      | fits _ => rfl
      | @evicted _ candidate _ _ happly =>
        -- a victim in this stream would have brought its bound back
        refine (streamAt_applyEviction happly _).trans (if_neg ?_)
        intro hkey
        subst hkey
        rw [streamOver_of_evict hsize happly] at hover
        cases hover
    | evicted _ hpick happly =>
      refine ⟨?_, fun hfail => by cases hfail⟩
      intro key record hne hnew
      obtain ⟨_, _, hscope, _⟩ := mem_evictionCandidates.mp (pick_mem_candidates hpick)
      rw [streamAt_applyEviction happly, if_neg (fun hkey => hne (hkey.trans (hscope own rfl).symm))]
      exact hnewest key record hnew

/-! ### Levels along a run -/

variable {offered : Set Bytes} {s t : Registry} {request : AdmissionRequest} {now : Tick}

section

variable (hinj : Set.InjOn Digest256.of offered) (h : s.Sound offered)
  (hoffered : (s.evidenceOf request).encode ∈ offered)
include hinj h hoffered

/-- The spare record of a registry is one in the registry with the incoming record in place. -/
theorem HasSpare.inserted (ht : Admissible s request now t) (hnew : Advancing t (t.evidenceOf request))
    (hspare : s.HasSpare request) :
    ∃ key stream record, (t.insertAdmitted (t.evidenceOf request) now).streams.find? key = some stream ∧
      record ∈ stream.records ∧ record.id ≠ (t.evidenceOf request).id ∧
      (t.insertAdmitted (t.evidenceOf request) now).evictionPriority key stream record now ≤ 1 := by
  obtain ⟨key, stream, record, hfind, hrecord, hspare⟩ := hspare
  have hframe := registerIncarnation_evidence ht.registered
  have hpending := h.inserted hoffered ht hnew
  have hfind' : t.streams.find? key = some stream := by rw [hframe.streams]; exact hfind
  by_cases hkey : key = request.key
  · subst hkey
    have hat := streamAt_of_find hfind'
    have hmem : record ∈ (t.streamAt request.key).records := hat ▸ hrecord
    refine ⟨request.key, _, record, SortedMap.find?_insert_self _ _ _, mem_insertRecord.mpr (.inr hmem),
      fresh_of_not_duplicate hnew.fresh record hmem, ?_⟩
    rcases hspare with hrejected | ⟨hadmitted, _⟩
    · exact (evictionPriority_eq_zero.mpr hrejected).le.trans zero_le_one
    · refine (priority_of_superseded ?_ hadmitted).le
      exact lt_of_le_of_lt ((h.streams _ _ hfind).le_maxGeneration hrecord)
        (hat ▸ maxGeneration_lt_of_advancing ht hnew)
  · have hkept : (t.insertAdmitted (t.evidenceOf request) now).streams.find? key = some stream :=
      (SortedMap.find?_insert_of_ne _ _ hkey).trans hfind'
    refine ⟨key, stream, record, hkept, hrecord, ?_, ?_⟩
    · intro hid
      obtain ⟨own, hown, hmem⟩ := find_of_mem_streamAt hpending.stored
      exact hkey (hpending.sound.key_eq_of_id_eq hinj hkept hrecord hown hmem (hid.trans (storedOf_id ..).symm))
    · rcases hspare with hrejected | ⟨hadmitted, hbelow | hown⟩
      · exact (evictionPriority_eq_zero.mpr hrejected).le.trans zero_le_one
      · exact (priority_of_superseded hbelow hadmitted).le
      · exact absurd hown hkey

section

variable (hspacious : s.Spacious (.admitRequest request now)) (hnewest : s.Newest key record)
include hspacious hnewest

/-- The registry after the bounds were applied: newest records of other streams stay, and a failure leaves the stream
    of the request as it was with the record in place. -/
theorem Spacious.kept {u : Registry} (ht : Admissible s request now t) (hnew : Advancing t (t.evidenceOf request))
    (hbudget : t.Budgeted request now ok u ids) : (key ≠ request.key → record ∈ (u.streamAt key).records) ∧
      (ok = false → u.streamAt request.key = (t.insertAdmitted (t.evidenceOf request) now).streamAt request.key) := by
  have hpending := h.inserted hoffered ht hnew
  have hframe := registerIncarnation_evidence ht.registered
  obtain ⟨_, _, hregister⟩ := registerIncarnation_frame ht.registered
  have hpolicy : (t.insertAdmitted (t.evidenceOf request) now).policy = s.policy := by
    rw [hregister]
    rfl
  obtain ⟨htotal, hsize, hroom⟩ := hspacious (hframe.streamAt request.key ▸ maxGeneration_lt_of_advancing ht hnew)
  have htotal' : (t.insertAdmitted (t.evidenceOf request) now).totalRecords = s.totalRecords + 1 :=
    congrArg (· + 1) hframe.totalRecords
  have hsize' : (t.insertAdmitted (t.evidenceOf request) now).streamSize request.key =
      s.streamSize request.key + 1 := by
    rw [streamSize, insertAdmitted, evidenceOf_key, streamAt_insertInStream, length_insertRecord,
      hframe.streamAt, streamSize]
  have hfull : recordsOver (t.insertAdmitted (t.evidenceOf request) now) = true →
      ¬ s.totalRecords < s.policy.limits.maxRecords.toNat := by
    intro hover
    rw [recordsOver, htotal', hpolicy, decide_eq_true_eq] at hover
    omega
  obtain ⟨hothers, hown⟩ := newest_of_enforceBudget
    (fun key stream hfind => (hpending.sound.streams key stream hfind).ids)
    (by rw [htotal', hpolicy]; omega) (by rw [hsize', hpolicy]; omega)
    (fun hover => (hroom.resolve_left (hfull hover)).inserted hinj h hoffered ht hnew) hbudget
  refine ⟨fun hne => ?_, hown⟩
  have hat : (t.insertAdmitted (t.evidenceOf request) now).streamAt key = s.streamAt key := by
    rw [insertAdmitted, evidenceOf_key, streamAt_insertInStream_of_ne _ _ _ hne, hframe.streamAt]
  exact hothers key record hne ⟨hat ▸ hnewest.stored, hnewest.live, hat ▸ hnewest.top⟩

/-- Under the condition an admission keeps a record at least as new as each stream's newest. -/
theorem Spacious.newest : ∃ other ∈ ((s.admitRequest request now).2.streamAt key).records,
      record.evidence.generation ≤ other.evidence.generation := by
  generalize hop : s.admitRequest request now = result
  cases s.admitRequest_view hop with
  | fenced _ hreg _ => exact ⟨record, (streamAt_registered hreg key).symm ▸ hnewest.stored, le_rfl⟩
  | duplicate ht _ | rejected ht _ _ _ =>
    exact ⟨record, (streamAt_registered ht.registered key).symm ▸ hnewest.stored, le_rfl⟩
  | @retained t ht _ _ _ =>
    have hmem : record ∈ (t.countRejected.streamAt key).records :=
      (streamAt_registered ht.registered key).symm ▸ hnewest.stored
    exact ⟨record, mem_retainRejected hmem _ _, le_rfl⟩
  | @exhausted t u ids ht hnew hbudgeted =>
    refine ⟨record, ?_, le_rfl⟩
    obtain ⟨hother, hown⟩ := hspacious.kept hinj h hoffered hnewest ht hnew hbudgeted
    have hmem : record ∈ (t.streamAt key).records := (streamAt_registered ht.registered key).symm ▸ hnewest.stored
    exact mem_rollback (u := u) hnew hmem (fun hkey => hkey ▸ hown rfl) hother
  | @accepted t u ids ht hnew hbudgeted =>
    have hat : (u.settleAccepted request.key now).streamAt key = u.streamAt key :=
      (refreshConflict_evidence u.countAccepted _ _ _).streamAt key
    rw [hat]
    by_cases hkey : key = request.key
    · -- the incoming record is above the old maximum
      subst hkey
      refine ⟨_, ((h.inserted hoffered ht hnew).evicts hinj (storedOf_id ..) (evicts_of_budget hbudgeted)).stored, ?_⟩
      rw [hnewest.top, ← streamAt_registered ht.registered]
      exact (maxGeneration_lt_of_advancing ht hnew).le
    · exact ⟨record, (hspacious.kept hinj h hoffered hnewest ht hnew hbudgeted).1 hkey, le_rfl⟩
  | _ => exact ⟨record, hnewest.stored, le_rfl⟩

end

end

/-- Retirement keeps every stream's maximum. -/
theorem maxGeneration_retire (s : Registry) (request : RetirementRequest) (now : Tick) (key : EvidenceKey) :
    ((s.retire request now).2.streamAt key).maxGeneration = (s.streamAt key).maxGeneration := by
  rcases s.streamAt_retire request now key with hsame | ⟨_, hmarked⟩
  · rw [hsame]
  · rw [hmarked]

section

variable (hinj : Set.InjOn Digest256.of offered) (h : s.Sound offered)
  (hoffered : ∀ request now, op = .admitRequest request now → (s.evidenceOf request).encode ∈ offered)

include hinj h hoffered

/-- Under the condition no step lowers a stream's maximum. -/
theorem Spacious.level (hspacious : s.Spacious op) (key : EvidenceKey) :
    (s.streamAt key).maxGeneration ≤ ((s.step op).streamAt key).maxGeneration := by
  have hadopt : op.Ordinary := by
    rintro state now rfl
    exact hspacious
  rcases s.step_cases hadopt with ⟨request, now, rfl, hstep⟩ | ⟨request, now, _, hstep⟩ | hframe
  · rw [hstep]
    have hold : (s.streamAt key).Sound key := h.streams.at Stream.Sound.empty key
    have hnew : ((s.admitRequest request now).2.streamAt key).Sound key :=
      (h.admitRequest hinj now (hoffered request now rfl)).streams.at Stream.Sound.empty key
    by_cases hempty : (s.streamAt key).records = []
    · rw [hold.maxGeneration_eq_zero.mpr hempty]
      exact UInt64.zero_le
    · obtain ⟨record, hrecord, hlive, htop⟩ := hold.attained hempty
      obtain ⟨other, hother, hle⟩ := hspacious.newest hinj h (hoffered request now rfl) ⟨hrecord, hlive, htop⟩
      exact htop ▸ hle.trans (hnew.le_maxGeneration hother)
  · rw [hstep, maxGeneration_retire]
  · rw [hframe.streamAt]

/-- An accepted admission raises its stream from below its generation to it. -/
theorem acceptance_raises {generation : RecordGeneration} (haccepted : s.acceptance op = some (key, generation)) :
    (s.streamAt key).maxGeneration < generation ∧
      generation ≤ ((s.step op).streamAt key).maxGeneration := by
  cases op with
  | admitRequest request now =>
    rw [acceptance] at haccepted
    split at haccepted
    next hok =>
      cases haccepted
      have hnewSound := h.admitRequest hinj now (hoffered request now rfl)
      rw [step]
      generalize hop : s.admitRequest request now = result at hok hnewSound
      cases s.admitRequest_view hop with
      | @rejected t _ _ _ _ | @retained t _ _ _ _ =>
        exfalso
        revert hok
        simp only [Outcome.isAccepted, rejectedOutcome, generationRejection]
        split <;> decide
      | @accepted t u ids ht hnew hbudget =>
        refine ⟨?_, ?_⟩
        · rw [← (registerIncarnation_evidence ht.registered).streamAt]
          exact maxGeneration_lt_of_advancing ht hnew
        · have hstored := ((h.inserted (hoffered request now rfl) ht hnew).evicts hinj (storedOf_id ..)
            (evicts_of_budget hbudget)).stored
          have hat : (u.settleAccepted request.key now).streamAt request.key = u.streamAt request.key :=
            (refreshConflict_evidence u.countAccepted _ _ _).streamAt _
          rw [← hat] at hstored
          exact (hnewSound.streams.at Stream.Sound.empty request.key).le_maxGeneration hstored
      | _ => cases hok
    next => cases haccepted
  | _ => cases haccepted

end

end Registry

/-- Along a run without adoption whose admissions find room, or something spare to evict, the generations
    accepted on each stream increase, as far as the digest tells the offered evidence apart. -/
theorem generations_increase_while_spacious {offered : Set Bytes} (hinj : Set.InjOn Digest256.of offered)
    (policy : RegistryPolicy) (ops : List Op)
    (hoffered : Runs.Along step (fun s op => ∀ request now, op = .admitRequest request now →
      (s.evidenceOf request).encode ∈ offered) (init policy) ops)
    (hspacious : Runs.Along step Registry.Spacious (init policy) ops) :
    ((init policy).acceptances ops).Pairwise (fun a b => a.1 = b.1 → a.2 < b.2) := by
  refine (Runs.events_increase (Sound offered) (fun s key => (s.streamAt key).maxGeneration)
    ?_ ?_ ?_ (.init policy) (hoffered.and hspacious)).2
  · intro s op hsound hcond
    exact hsound.step hinj (fun state now => by rintro rfl; exact hcond.2) hcond.1
  · intro s op hsound hcond key
    exact hcond.2.level hinj hsound hcond.1 key
  · intro s op hsound hcond key generation haccepted
    exact acceptance_raises hinj hsound hcond.1 haccepted

/-- Two reports of one device into a registry with room. -/
theorem generations_increase_two_reports :
    (init policy).acceptances [.admitRequest (request 0 1 5) 5, .admitRequest (request 0 2 6) 6] =
      [((request 0 1 5).key, 1), ((request 0 1 5).key, 2)] ∧
    ((init policy).acceptances
      [.admitRequest (request 0 1 5) 5, .admitRequest (request 0 2 6) 6]).Pairwise (fun a b => a.1 = b.1 →
        a.2 < b.2) :=
  have hdistinct : Set.InjOn Digest256.of
      {((init policy).evidenceOf (request 0 1 5)).encode,
        (oneReport.evidenceOf (request 0 2 6)).encode} :=
    Set.injOn_pair.mpr (fun hsame => absurd hsame (by decide +kernel))
  ⟨by decide +kernel,
    generations_increase_while_spacious hdistinct policy _
      ⟨fun _ _ h => by cases h; exact .inl rfl, fun _ _ h => by cases h; exact .inr rfl, trivial⟩
      ⟨fun _ => ⟨by decide +kernel, by decide +kernel, .inl (by decide +kernel)⟩,
        fun _ => ⟨by decide +kernel, by decide +kernel, .inl (by decide +kernel)⟩, trivial⟩⟩

/-- With room for one record and a lifetime of ten ticks, a stale newest record is evicted for another
    device's report, and its stream takes an older generation after that. -/
theorem older_generation_accepted_again :
    let policy := { Lab.policy with
      sources := [{ Lab.sourcePolicy with maxAge := 10 }]
      limits := { Lab.policy.limits with maxRecords := 1 } }
    (init policy).acceptances [.admitRequest (Lab.request 0 10 5) 5, .admitRequest (Lab.request 1 1 100) 100,
      .admitRequest (Lab.request 0 5 200) 200] =
        [((Lab.request 0 10 5).key, 10), ((Lab.request 1 1 100).key, 1), ((Lab.request 0 10 5).key, 5)] := by
  decide +kernel

end Ocreg
