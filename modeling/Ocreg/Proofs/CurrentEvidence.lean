/-
Module: Ocreg.Proofs.CurrentEvidence
Purpose: Admissions keep active evidence, unless the admitted record supersedes it in its stream or outranks it in its
  group, or a registry over its record bounds refuses the admission after it evicted for it.
-/
import Ocreg.Proofs.Bounds
import Ocreg.Proofs.Eviction

namespace Ocreg

open Registry SortedMap List Lab

variable {device : DeviceIncarnationRef} {own : EvidenceKey} {incoming : StoredEvidence}
  {restrict : Option EvidenceKey} {candidate : EvictionCandidate} {stream : Stream} {source : SourcePolicy}
  {override : Tick}

namespace Registry

/-- A stored record that is eligible, with an authority no eligible record of its group exceeds: the records
    a derivation calls active. -/
structure Leads (s : Registry) (key : EvidenceKey) (record : StoredEvidence) (now : Tick) : Prop where
  stored : record ∈ (s.streamAt key).records
  eligible : ∃ source, s.Eligible key (s.streamAt key) now 0 record source
  top : ∀ other stream rival source, s.streams.find? other = some stream → other.device = key.device →
    other.kind = key.kind → rival ∈ stream.records → s.Eligible other stream now 0 rival source →
    rival.evidence.authority ≤ record.evidence.authority

variable {offered : Set Bytes} {s t u : Registry} {ids : List EvidenceId} {key : EvidenceKey}
  {record : StoredEvidence} {now : Tick}

section

variable (h : s.Eligible key stream now override record source)

include h

/-- Eligibility moves to a registry with the same policy and boot, where the device is still current and the
    record still newest. -/
theorem Eligible.transfer {stream' : Stream} (hpolicy : t.policy = s.policy) (hboot : t.bootEpoch = s.bootEpoch)
    (hcurrent : (t.findDevice key.device.device).map DeviceIncarnationEntry.current = some key.device.incarnation)
    (hnewest : ¬ (stream'.maxGeneration ≠ 0 ∧ record.evidence.generation < stream'.maxGeneration)) :
    t.Eligible key stream' now override record source where
  admitted := h.admitted
  newest := hnewest
  current := hcurrent
  configured := hpolicy ▸ h.configured
  unrevoked := h.unrevoked
  trusted := hpolicy ▸ h.trusted
  booted := hboot ▸ h.booted
  unfenced := hpolicy ▸ hboot ▸ h.unfenced
  fresh := hpolicy ▸ h.fresh
  valid := h.valid

theorem Eligible.not_below : ¬ record.evidence.generation < stream.maxGeneration := by
  intro hlt
  exact h.newest ⟨maxGeneration_ne_zero hlt, hlt⟩

/-- An eligible record of a sound stream holds the stream's maximum. -/
theorem Eligible.top (hsound : stream.Sound key) (hrecord : record ∈ stream.records) :
    record.evidence.generation = stream.maxGeneration :=
  le_antisymm (hsound.le_maxGeneration hrecord) (not_lt.mp h.not_below)

end

/-! ### Active facts -/

section

variable (h : s.Leads key record now)
include h

/-- No active fact of the group has a higher authority than a leading record. -/
theorem Leads.highest_le : highestAuthority (s.rawFacts key.device key.kind now 0) ≤ record.evidence.authority := by
  rcases highestAuthority_attained (s.rawFacts key.device key.kind now 0) with hnone | ⟨fact, hfact, hstate, hauth⟩
  · rw [hnone]
    cases record.evidence.authority <;> decide
  · rw [← hauth]
    obtain ⟨other, rivals, hother, hdevice, hkind, rival, hrival, rfl⟩ := mem_rawFacts.mp hfact
    obtain ⟨source, hrivalEligible⟩ := (s.classify_active other rivals now 0 rival).mp hstate
    exact h.top other rivals rival source hother hdevice hkind hrival hrivalEligible

/-- The derivation calls a leading record active. -/
theorem Leads.ranked_active : ((s.factOf key (s.streamAt key) now 0 record).ranked
      (highestAuthority (s.rawFacts key.device key.kind now 0))).state = .active :=
  DerivedFact.ranked_active.mpr
    ⟨(s.classify_active key (s.streamAt key) now 0 record).mpr h.eligible, h.highest_le⟩

theorem Leads.active :
    ∃ fact ∈ (s.derive key.device key.kind now 0).facts, fact.record = record ∧ fact.state = .active := by
  obtain ⟨stream, hfind, hmem⟩ := find_of_mem_streamAt h.stored
  have hraw : s.factOf key (s.streamAt key) now 0 record ∈ s.rawFacts key.device key.kind now 0 :=
    mem_rawFacts.mpr ⟨key, _, (streamAt_of_find hfind).symm ▸ hfind, rfl, rfl, record, h.stored, rfl⟩
  exact ⟨_, mem_derive_facts.mpr ⟨_, hraw, rfl⟩, DerivedFact.ranked_record _ _, h.ranked_active⟩

end

/-- Active facts are about leading records. -/
theorem leads_of_active {kind : CapabilityKind} {fact : DerivedFact}
    (hfact : fact ∈ (s.derive device kind now 0).facts) (hactive : fact.state = .active) :
    ∃ key, key.device = device ∧ key.kind = kind ∧ s.Leads key fact.record now := by
  obtain ⟨key, stream, source, hfind, hdevice, hkind, hmem, heligible⟩ :=
    derive_facts_eligible hfact (.inl hactive)
  have hat := streamAt_of_find hfind
  refine ⟨key, hdevice, hkind, hat ▸ hmem, ⟨source, hat ▸ heligible⟩, ?_⟩
  intro other rivals rival rivalSource hother hdevice' hkind' hrival hrivalEligible
  obtain ⟨raw, hraw, rfl⟩ := mem_derive_facts.mp hfact
  have hrank := (DerivedFact.ranked_active.mp hactive).2
  rw [DerivedFact.ranked_record]
  refine le_trans ?_ hrank
  have hrivalFact : s.factOf other rivals now 0 rival ∈ s.rawFacts device kind now 0 :=
    mem_rawFacts.mpr ⟨other, rivals, hother, hdevice'.trans hdevice, hkind'.trans hkind, rival, hrival, rfl⟩
  exact le_highestAuthority hrivalFact ((s.classify_active other rivals now 0 rival).mpr ⟨rivalSource, hrivalEligible⟩)

/-- A leading record cannot be evicted. -/
theorem Leads.not_evictable (hinj : Set.InjOn Digest256.of offered) (hsound : s.Sound offered)
    (h : s.Leads key record now) : s.isEvictable key (s.streamAt key) record now = false := by
  obtain ⟨source, heligible⟩ := h.eligible
  obtain ⟨stream, hfind, hmem⟩ := find_of_mem_streamAt h.stored
  rw [isEvictable, if_pos (priority_of_eligible heligible)]
  split
  next found hfound =>
    -- the fact found by id is the record's own: ids name one record of one stream
    have hid : found.record.id = record.id := by simpa using find?_some hfound
    obtain ⟨raw, hraw, rfl⟩ := mem_derive_facts.mp (mem_of_find?_eq_some hfound)
    obtain ⟨other, stream', hfind', _, _, record', hmem', rfl⟩ := mem_rawFacts.mp hraw
    rw [DerivedFact.ranked_record] at hid
    have hkey := hsound.key_eq_of_id_eq hinj hfind' hmem' hfind hmem hid
    subst hkey
    rw [hfind] at hfind'
    cases hfind'
    have hrecord : record' = record := (hsound.streams _ _ hfind).ids.eq_of_id_eq hmem' hmem hid
    subst hrecord
    have hactive := h.ranked_active
    rw [streamAt_of_find hfind] at hactive
    rw [hactive]
    rfl
  next => rfl

/-! ### Evictions -/

section

variable (hinj : Set.InjOn Digest256.of offered) (hpending : s.Pending offered own incoming)
  (hhighest : ∀ other ∈ (s.streamAt own).records, other.evidence.generation ≤ incoming.evidence.generation)
include hinj hpending hhighest

/-- A superseded record does not become eligible through an eviction from its stream: it was a candidate itself, so
    the victim left the stream's maximum in place. -/
theorem not_eligible_of_superseded {rival : StoredEvidence}
    (hpick : s.pickEvictionCandidate restrict (some incoming.id) now = some candidate)
    (happly : s.applyEviction candidate now = some t) (hfind : s.streams.find? candidate.key = some stream)
    (hmem : rival ∈ stream.records) (hbelow : rival.evidence.generation < stream.maxGeneration) :
    ¬ t.Eligible candidate.key (t.streamAt candidate.key) now 0 rival source := by
  intro heligible
  obtain ⟨_, _, hscope, _⟩ := mem_evictionCandidates.mp (pick_mem_candidates hpick)
  have hstream := hpending.sound.streams _ _ hfind
  have hother : rival.id ≠ incoming.id := by
    intro hsame
    obtain ⟨inStream, hinFind, hinMem⟩ := find_of_mem_streamAt hpending.stored
    have hkeys := hpending.sound.key_eq_of_id_eq hinj hfind hmem hinFind hinMem hsame
    subst hkeys
    rw [hfind] at hinFind
    cases hinFind
    rw [hstream.ids.eq_of_id_eq hmem hinMem hsame, hstream.highest] at hbelow
    rw [streamAt_of_find hfind] at hhighest
    exact absurd hbelow (not_lt.mpr (highestGeneration_le hhighest))
  have houtdated := pick_outdated hpick hscope hfind hmem hother (priority_of_superseded hbelow heligible.admitted).le
  obtain ⟨top, htop, hlive, hgeneration⟩ := hstream.attained (ne_nil_of_mem hmem)
  have hnewest : s.Newest candidate.key top :=
    ⟨(streamAt_of_find hfind).symm ▸ htop, hlive, (streamAt_of_find hfind).symm ▸ hgeneration⟩
  have hkept := hnewest.evict (fun key stream hfind => (hpending.sound.streams key stream hfind).ids) hpick
    happly houtdated
  have hmax := ((hpending.evict hinj hpick happly).sound.streams.at Stream.Sound.empty candidate.key).le_maxGeneration
    hkept
  rw [hgeneration] at hmax
  exact heligible.not_below (lt_of_lt_of_le hbelow hmax)

/-- Evictions leave leading records leading: the victim is another record, and no record becomes newest in
    its stream through an eviction unless it was retired or rejected. -/
theorem Leads.evict (h : s.Leads key record now)
    (hpick : s.pickEvictionCandidate restrict (some incoming.id) now = some candidate)
    (happly : s.applyEviction candidate now = some t) : t.Leads key record now := by
  obtain ⟨stream, hfind, _, victim, hvictim, _, hevictable, hid, _, _⟩ :=
    mem_evictionCandidates.mp (pick_mem_candidates hpick)
  have hstream := hpending.sound.streams _ _ hfind
  have hnew := (hpending.evict hinj hpick happly).sound
  obtain ⟨stream', _, hfind', _, _, hstreams, _⟩ := applyEviction_streams happly
  rw [hfind] at hfind'
  cases hfind'
  have hat : t.streamAt candidate.key = stream.without candidate.id := by
    rw [streamAt_applyEviction happly, if_pos rfl, streamAt_of_find hfind]
  obtain ⟨_, _, _, _, _, hframe⟩ := applyEviction_frame happly
  have hpolicy : t.policy = s.policy := by rw [hframe]; rfl
  have hboot : t.bootEpoch = s.bootEpoch := by rw [hframe]; rfl
  have hdevices : t.incarnationTable = s.incarnationTable := by rw [hframe]; rfl
  have hcurrent : ∀ device, t.findDevice device = s.findDevice device := by
    intro device
    rw [findDevice, findDevice, hdevices]
  have hstored : record ∈ (t.streamAt key).records := by
    by_cases hkey : key = candidate.key
    · subst hkey
      have hmem := h.stored
      have hnot := h.not_evictable hinj hpending.sound
      rw [streamAt_of_find hfind] at hmem hnot
      rw [hat]
      refine Stream.mem_without_of_id_ne hmem ?_
      intro hsame
      rw [hstream.ids.eq_of_id_eq hmem hvictim (hsame.trans hid), hevictable] at hnot
      cases hnot
    · rw [streamAt_applyEviction happly, if_neg hkey]
      exact h.stored
  refine ⟨hstored, ?_, ?_⟩
  · obtain ⟨source, heligible⟩ := h.eligible
    refine ⟨source, heligible.transfer hpolicy hboot ((hcurrent _).symm ▸ heligible.current) ?_⟩
    -- the stream only lost records, so its maximum did not grow past the record's generation
    rintro ⟨_, hlt⟩
    have hold : (s.streamAt key).Sound key := hpending.sound.streams.at Stream.Sound.empty key
    have hle : (t.streamAt key).maxGeneration ≤ record.evidence.generation := by
      rw [(hnew.streams.at Stream.Sound.empty key).highest, heligible.top hold h.stored]
      exact highestGeneration_le (fun other hother => hold.le_maxGeneration
        (((Evicts.step hpick happly (.refl t)).streamAt_sublist key).subset hother))
    exact absurd hlt (not_lt.mpr hle)
  · intro other rivals rival source hother hdevice hkind hrival heligible
    have hback : ∀ old : Stream, ¬ (old.maxGeneration ≠ 0 ∧ rival.evidence.generation < old.maxGeneration) →
        s.Eligible other old now 0 rival source :=
      fun _ hnewest => heligible.transfer hpolicy.symm hboot.symm (hcurrent _ ▸ heligible.current) hnewest
    by_cases hkey : other = candidate.key
    · subst hkey
      rw [hstreams, find?_insert_self] at hother
      cases hother
      have hmem := (stream.without_sublist candidate.id).subset hrival
      by_cases hbelow : stream.maxGeneration ≠ 0 ∧ rival.evidence.generation < stream.maxGeneration
      · rw [← hat] at heligible
        exact absurd heligible (not_eligible_of_superseded hinj hpending hhighest hpick happly hfind hmem hbelow.2)
      · exact h.top _ stream rival source hfind hdevice hkind hmem (hback stream hbelow)
    · rw [hstreams, find?_insert_of_ne _ _ hkey] at hother
      exact h.top other rivals rival source hother hdevice hkind hrival (hback rivals heligible.newest)

end

theorem Leads.evicts (hinj : Set.InjOn Digest256.of offered) {id : EvidenceId}
    (hpending : s.Pending offered own incoming) (hid : incoming.id = id)
    (hhighest : ∀ other ∈ (s.streamAt own).records, other.evidence.generation ≤ incoming.evidence.generation)
    (h : s.Leads key record now) (hevicts : Evicts id now s t ids) : t.Leads key record now := by
  subst hid
  induction hevicts with
  | refl s => exact h
  | @step s t u _ _ _ hpick happly _ ih =>
    refine ih (hpending.evict hinj hpick happly) ?_ (h.evict hinj hpending hhighest hpick happly)
    intro other hother
    exact hhighest other (((Evicts.step hpick happly (.refl t)).streamAt_sublist own).subset hother)

/-- Leading depends on streams, policy, boot and device table only. -/
theorem Leads.of_eq (h : s.Leads key record now) (hstreams : t.streams = s.streams) (hpolicy : t.policy = s.policy)
    (hboot : t.bootEpoch = s.bootEpoch) (hdevices : t.incarnationTable = s.incarnationTable) :
    t.Leads key record now := by
  have hat : ∀ key, t.streamAt key = s.streamAt key := by
    intro key
    rw [streamAt, streamAt, findStream, findStream, hstreams]
  have hcurrent : ∀ device, t.findDevice device = s.findDevice device := by
    intro device
    rw [findDevice, findDevice, hdevices]
  refine ⟨hat key ▸ h.stored, ?_, ?_⟩
  · obtain ⟨source, heligible⟩ := h.eligible
    exact ⟨source, heligible.transfer hpolicy hboot ((hcurrent _).symm ▸ heligible.current)
      (hat key ▸ heligible.newest)⟩
  · intro other rivals rival source hother hdevice hkind hrival heligible
    rw [hstreams] at hother
    exact h.top other rivals rival source hother hdevice hkind hrival
      (heligible.transfer hpolicy.symm hboot.symm (hcurrent _ ▸ heligible.current) heligible.newest)

/-! ### Insertion -/

/-- Registering an incarnation leaves the current incarnations of known devices. -/
theorem registerIncarnation_current (h : s.registerIncarnation device = .ok t) {known : DeviceIdentity}
    {incarnation : IncarnationId}
    (hcurrent : (s.findDevice known).map DeviceIncarnationEntry.current = some incarnation) :
    (t.findDevice known).map DeviceIncarnationEntry.current = some incarnation := by
  cases registerView_of_ok h with
  | entered hnone _ =>
    rw [findDevice, find?_insert]
    split
    next heq =>
      subst heq
      rw [hnone] at hcurrent
      cases hcurrent
    next => exact hcurrent
  | known _ _ => exact hcurrent
  | added hsome _ _ =>
    rw [findDevice, find?_insert]
    split
    next heq =>
      subst heq
      rw [hsome] at hcurrent
      exact hcurrent
    next => exact hcurrent

variable {request : AdmissionRequest}

/-- Right after an advancing record went in, a leading record of another stream still leads, or the incoming
    record of the same group leads with a higher authority. -/
theorem Leads.inserted (h : s.Leads key record now) (hsound : s.Sound offered)
    (hoffered : (s.evidenceOf request).encode ∈ offered) (ht : Admissible s request now t)
    (hnew : Advancing t (t.evidenceOf request)) (hother : key ≠ request.key) :
    (t.insertAdmitted (t.evidenceOf request) now).Leads key record now ∨
      (t.insertAdmitted (t.evidenceOf request) now).Leads request.key
        (storedOf (t.evidenceOf request) .admitted (acceptanceReason (t.streamAt request.key)) now) now ∧
      request.device = key.device ∧ request.kind = key.kind ∧
      record.evidence.authority < (t.evidenceOf request).authority := by
  have hframe := registerIncarnation_evidence ht.registered
  obtain ⟨_, _, hregister⟩ := registerIncarnation_frame ht.registered
  have hpending := hsound.inserted hoffered ht hnew
  obtain ⟨source, heligible⟩ := h.eligible
  generalize hincoming : storedOf (t.evidenceOf request) .admitted
    (acceptanceReason (t.streamAt request.key)) now = incoming at hpending
  have hauthority : incoming.evidence.authority = (t.evidenceOf request).authority := by rw [← hincoming]; rfl
  have hown : (t.insertAdmitted (t.evidenceOf request) now).streamAt request.key =
      ⟨insertRecord incoming (t.streamAt request.key).records, request.generation⟩ := by
    rw [insertAdmitted, evidenceOf_key, streamAt_insertInStream, hincoming]
    rfl
  have helse : ∀ other, other ≠ request.key →
      (t.insertAdmitted (t.evidenceOf request) now).streams.find? other = s.streams.find? other := by
    intro other hne
    rw [← hframe.streams]
    exact find?_insert_of_ne _ _ hne
  have hpolicy : (t.insertAdmitted (t.evidenceOf request) now).policy = s.policy := by
    rw [hregister]
    rfl
  have hboot : (t.insertAdmitted (t.evidenceOf request) now).bootEpoch = s.bootEpoch := by
    rw [hregister]
    rfl
  have hcurrent : ((t.insertAdmitted (t.evidenceOf request) now).findDevice key.device.device).map
      DeviceIncarnationEntry.current = some key.device.incarnation :=
    registerIncarnation_current ht.registered heligible.current
  have hlevel := maxGeneration_lt_of_advancing ht hnew
  have hsame : t.streamAt request.key = s.streamAt request.key := hframe.streamAt _
  generalize t.insertAdmitted (t.evidenceOf request) now = i at *
  -- a rival that is eligible now was eligible before, unless it is the incoming record
  have hrivals : ∀ other stream rival source, i.streams.find? other = some stream → other.device = key.device →
      other.kind = key.kind → rival ∈ stream.records → i.Eligible other stream now 0 rival source →
      other = request.key ∧ rival = incoming ∨ rival.evidence.authority ≤ record.evidence.authority := by
    intro other stream rival rivalSource hfind hdevice hkind hrival hrivalEligible
    by_cases hkey : other = request.key
    · subst hkey
      rw [streamAt_of_find hfind] at hown
      subst hown
      rcases mem_insertRecord.mp hrival with rfl | hold
      · exact .inl ⟨rfl, rfl⟩
      · exfalso
        rw [hsame] at hold hlevel
        have hle := (hsound.streams.at Stream.Sound.empty request.key).le_maxGeneration hold
        exact hrivalEligible.not_below (lt_of_le_of_lt hle hlevel)
    · refine .inr ?_
      rw [helse other hkey] at hfind
      refine h.top other stream rival rivalSource hfind hdevice hkind hrival
        (hrivalEligible.transfer hpolicy.symm hboot.symm ?_ hrivalEligible.newest)
      rw [hdevice]
      exact heligible.current
  by_cases hup : request.device = key.device ∧ request.kind = key.kind ∧
      record.evidence.authority < incoming.evidence.authority ∧
      ∃ source, i.Eligible request.key (i.streamAt request.key) now 0 incoming source
  · obtain ⟨hdevice, hkind, hhigher, hincomingEligible⟩ := hup
    refine .inr ⟨⟨hpending.stored, hincomingEligible, ?_⟩, hdevice, hkind, hauthority ▸ hhigher⟩
    intro other stream rival rivalSource hfind hdevice' hkind' hrival hrivalEligible
    rcases hrivals other stream rival rivalSource hfind (hdevice'.trans hdevice) (hkind'.trans hkind) hrival
      hrivalEligible with ⟨_, rfl⟩ | hle
    · exact le_rfl
    · exact hle.trans hhigher.le
  · have hat : i.streamAt key = s.streamAt key := by
      rw [streamAt, streamAt, findStream, findStream, helse key hother]
    refine .inl ⟨hat ▸ h.stored, ⟨source, heligible.transfer hpolicy hboot hcurrent (hat ▸ heligible.newest)⟩, ?_⟩
    intro other stream rival rivalSource hfind hdevice hkind hrival hrivalEligible
    rcases hrivals other stream rival rivalSource hfind hdevice hkind hrival hrivalEligible with ⟨rfl, rfl⟩ | hle
    · refine not_lt.mp fun hhigher => hup ⟨hdevice, hkind, hhigher, rivalSource, ?_⟩
      rw [streamAt_of_find hfind]
      exact hrivalEligible
    · exact hle

section

variable (hinj : Set.InjOn Digest256.of offered) (hsound : s.Sound offered)
  (hoffered : (s.evidenceOf request).encode ∈ offered) (ht : Admissible s request now t)
  (hnew : Advancing t (t.evidenceOf request))
include hinj hsound hoffered ht hnew

/-- The evictions for an advancing record leave a leading record of another stream leading, or that record leads in
    its group with a higher authority. -/
theorem Leads.budgeted (h : s.Leads key record now) (hother : key ≠ request.key)
    (hevicts : t.Displaces request now u ids) : u.Leads key record now ∨
      u.Leads request.key
        (storedOf (t.evidenceOf request) .admitted (acceptanceReason (t.streamAt request.key)) now) now ∧
      request.device = key.device ∧ request.kind = key.kind ∧
      record.evidence.authority < (t.evidenceOf request).authority := by
  have hpending := hsound.inserted hoffered ht hnew
  have hhighest : ∀ other ∈ ((t.insertAdmitted (t.evidenceOf request) now).streamAt request.key).records,
      other.evidence.generation ≤ request.generation := by
    intro other hmem
    exact (hpending.sound.streams.at Stream.Sound.empty request.key).le_maxGeneration hmem |>.trans
      (by rw [insertAdmitted, evidenceOf_key, streamAt_insertInStream]; exact le_rfl)
  rcases h.inserted hsound hoffered ht hnew hother with hkept | ⟨hhigher, hgroup⟩
  · exact .inl (hkept.evicts hinj hpending (storedOf_id ..) hhighest hevicts)
  · exact .inr ⟨hhigher.evicts hinj hpending (storedOf_id ..) hhighest hevicts, hgroup⟩

/-- Within the record bounds a refused admission evicts nothing: where the total is exceeded nothing went, and where
    the stream is, its older records could go. -/
theorem RecordsWithin.exhausted (h : s.RecordsWithin)
    (hbudget : t.Budgeted request now false u ids) : u = t.insertAdmitted (t.evidenceOf request) now := by
  have hpending := hsound.inserted hoffered ht hnew
  have hframe := registerIncarnation_evidence ht.registered
  obtain ⟨_, _, _, hspec, hevicts, -, hstuck⟩ := (t.insertAdmitted (t.evidenceOf request) now).enforceBudget_spec
    request.key (t.evidenceOf request).id now
  rw [hbudget] at hspec
  cases hspec
  have hpolicy : u.policy = s.policy := by
    obtain ⟨_, _, hregister⟩ := registerIncarnation_frame ht.registered
    rw [hevicts.policy, hregister]
    rfl
  rcases hstuck rfl with ⟨hover, -⟩ | ⟨hover, hnone⟩
  · have htotal : u.totalRecords = s.totalRecords + 1 - ids.length :=
      hframe.totalRecords ▸ hevicts.totalRecords
    rw [recordsOver, htotal, hpolicy, decide_eq_true_eq] at hover
    have hwithin := h.total
    cases hevicts with
    | refl => rfl
    | step _ _ _ =>
      rw [length_cons] at hover
      omega
  · rw [streamOver, hpolicy, decide_eq_true_eq] at hover
    have hpending' := hpending.evicts hinj (storedOf_id ..) hevicts
    have hstream := hpending'.sound.streams.at Stream.Sound.empty request.key
    -- an older record of the stream would be a candidate
    have honly : ∀ other ∈ (u.streamAt request.key).records, other.id = (t.evidenceOf request).id := by
      intro other hother
      by_contra hne
      have hold : other ∈ (t.streamAt request.key).records := by
        have hmem := (hevicts.streamAt_sublist request.key).subset hother
        rw [insertAdmitted, evidenceOf_key, streamAt_insertInStream] at hmem
        exact (mem_insertRecord.mp hmem).resolve_left (fun heq => hne (heq ▸ storedOf_id ..))
      have hbelow : other.evidence.generation < (u.streamAt request.key).maxGeneration :=
        lt_of_le_of_lt (((hsound.of_frame hframe).streams.at Stream.Sound.empty request.key).le_maxGeneration hold)
          (lt_of_lt_of_le (maxGeneration_lt_of_advancing ht hnew) (hstream.le_maxGeneration hpending'.stored))
      obtain ⟨stream, hfind, hmem⟩ := find_of_mem_streamAt hother
      rw [streamAt_of_find hfind] at hbelow
      have hcandidate : (⟨request.key, other.id, u.evictionPriority request.key stream other now,
          other.evidence.observedAt⟩ : EvictionCandidate) ∈
            u.evictionCandidates (some request.key) (some (t.evidenceOf request).id) now :=
        mem_evictionCandidates.mpr ⟨stream, hfind, by simp, other, hmem, by simpa using Ne.symm hne,
          isEvictable_of_below hbelow, rfl, rfl, rfl⟩
      rw [Scan.bestBy_eq_none.mp hnone] at hcandidate
      cases hcandidate
    have hone : u.streamSize request.key ≤ 1 := by
      have hids : ((u.streamAt request.key).records.map StoredEvidence.id).Nodup := hstream.ids
      rw [eq_replicate_of_mem (forall_mem_map.mpr honly), nodup_replicate, length_map] at hids
      exact hids
    -- so no stream may hold a record, and there was none to evict
    have hempty : ∀ key, (t.streamAt key).records = [] := by
      intro key
      have hwithin := h.stream key
      rw [streamSize, ← hframe.streamAt] at hwithin
      exact eq_nil_of_length_eq_zero (by omega)
    cases hevicts with
    | refl => rfl
    | @step _ _ _ _ candidate _ hpick _ _ =>
      obtain ⟨stream, hfind, _, victim, hvictim, hallowed, _⟩ :=
        mem_evictionCandidates.mp (pick_mem_candidates hpick)
      rw [← streamAt_of_find hfind] at hvictim
      exfalso
      by_cases hkey : candidate.key = request.key
      · rw [hkey, insertAdmitted, evidenceOf_key, streamAt_insertInStream, hempty] at hvictim
        exact hallowed (congrArg some ((mem_singleton.mp hvictim).symm ▸ storedOf_id ..).symm)
      · rw [insertAdmitted, evidenceOf_key, streamAt_insertInStream_of_ne _ _ _ hkey, hempty] at hvictim
        cases hvictim

end

end Registry

/-- An admission keeps every active record, unless the admitted record is newer in the same stream, or is active in the
    same group with a higher authority. Where the record budget refuses it, the registry was within its record bounds
    or the record is of another group. -/
theorem active_evidence_survives_admission {offered : Set Bytes} (hinj : Set.InjOn Digest256.of offered)
    {s : Registry} (hs : Reach offered s) {request : AdmissionRequest} {now : Tick}
    (hoffered : (s.evidenceOf request).encode ∈ offered)
    {device : DeviceIncarnationRef} {kind : CapabilityKind} {fact : DerivedFact}
    (hroom : (s.admitRequest request now).1.reason = .rejectedRecordBudgetExhausted →
      s.RecordsWithin ∨ ¬ (request.device = device ∧ request.kind = kind))
    (hfact : fact ∈ (s.derive device kind now 0).facts) (hactive : fact.state = .active) :
    fact.record ∈ ((s.admitRequest request now).2.streamAt fact.record.evidence.key).records ∨
    (∃ newer ∈ ((s.admitRequest request now).2.streamAt fact.record.evidence.key).records,
      newer.lifecycle = .admitted ∧ fact.record.evidence.generation < newer.evidence.generation) ∨
    (∃ higher ∈ ((s.admitRequest request now).2.derive device kind now 0).facts, higher.state = .active ∧
      higher.record.id = (s.evidenceOf request).id ∧
      fact.record.evidence.authority < higher.record.evidence.authority) := by
  have hsound := hs.sound hinj
  obtain ⟨key, rfl, rfl, hleads⟩ := leads_of_active hfact hactive
  have hkey : fact.record.evidence.key = key := by
    obtain ⟨stream, hfind, hmem⟩ := find_of_mem_streamAt hleads.stored
    exact (hsound.streams key stream hfind).keyed _ hmem
  rw [hkey]
  have hregistered : ∀ t, s.registerIncarnation request.device = .ok t →
      fact.record ∈ (t.streamAt key).records :=
    fun t ht => (registerIncarnation_evidence ht).streamAt key ▸ hleads.stored
  generalize hop : s.admitRequest request now = result at hroom
  cases s.admitRequest_view hop with
  | @fenced t _ _ hreg _ => exact .inl (hregistered t hreg)
  | @duplicate t ht _ | @rejected t ht _ _ _ => exact .inl (hregistered t ht.registered)
  | @retained t ht _ _ _ => exact .inl (mem_retainRejected (s := t.countRejected) (hregistered t ht.registered) _ _)
  | @exhausted t u ids ht hnew hbudgeted =>
    refine .inl ?_
    have hevicts := evicts_of_budget hbudgeted
    rcases hroom rfl with hwithin | hgroup
    · cases hwithin.exhausted hinj hsound hoffered ht hnew hbudgeted
      refine mem_rollback hnew (hregistered t ht.registered) (fun _ => rfl) (fun hother => ?_)
      rw [insertAdmitted, evidenceOf_key, streamAt_insertInStream_of_ne _ _ _ hother]
      exact hregistered t ht.registered
    · have hother : key ≠ request.key := by
        rintro rfl
        exact hgroup ⟨rfl, rfl⟩
      rcases hleads.budgeted hinj hsound hoffered ht hnew hother hevicts with hkept | ⟨-, hdevice, hkind, -⟩
      · exact (u.streamAt_rollbackAdmission_of_ne _ hother).symm ▸ hkept.stored
      · exact absurd ⟨hdevice, hkind⟩ hgroup
  | @accepted t u ids ht hnew hbudgeted =>
    have hevicts := evicts_of_budget hbudgeted
    have hat : (u.settleAccepted request.key now).streamAt key = u.streamAt key :=
      (refreshConflict_evidence u.countAccepted _ _ _).streamAt key
    by_cases hown : key = request.key
    · -- superseded in its own stream
      subst hown
      have hstored := ((hsound.inserted hoffered ht hnew).evicts hinj (storedOf_id ..) hevicts).stored
      refine .inr (.inl ⟨_, hat ▸ hstored, rfl, ?_⟩)
      exact lt_of_le_of_lt (((hsound.of_frame (registerIncarnation_evidence ht.registered)).streams.at
        Stream.Sound.empty request.key).le_maxGeneration (hregistered t ht.registered))
        (maxGeneration_lt_of_advancing ht hnew)
    · rcases hleads.budgeted hinj hsound hoffered ht hnew hown hevicts with hkept | ⟨hu, hdevice, hkind, hauthority⟩
      · exact .inl (hat ▸ hkept.stored)
      · refine .inr (.inr ?_)
        obtain ⟨_, _, hsettled⟩ := u.countAccepted.refreshConflict_frame request.key.device request.key.kind now
        have hfinal := hu.of_eq (t := u.settleAccepted request.key now)
          (by rw [settleAccepted, hsettled]; rfl) (by rw [settleAccepted, hsettled]; rfl)
          (by rw [settleAccepted, hsettled]; rfl) (by rw [settleAccepted, hsettled]; rfl)
        obtain ⟨higher, hmem, hrecord, hstate⟩ := hfinal.active
        rw [show request.key.device = key.device from hdevice, show request.key.kind = key.kind from hkind] at hmem
        refine ⟨higher, hmem, hstate, ?_, ?_⟩
        · rw [hrecord, storedOf_id, evidenceOf_registered ht.registered]
        · rw [hrecord]
          exact hauthority
  | _ => exact .inl hleads.stored

/-- A second source on the lab's device, of higher authority. -/
def Lab.probe : SourcePolicy := ⟨⟨text "probe", Or.inr (by decide)⟩, .synthetic, .operator, .trusted, 0, false⟩

/-- Two sources and room for one record. -/
def Lab.tightPolicy : RegistryPolicy :=
  { sources := [sourcePolicy, probe], limits := { maxRecords := 1 } }

/-- A report of lower authority does not fit and is refused; the record that fills the registry stays. -/
theorem active_evidence_survives_refusal :
    let before := (init Lab.tightPolicy).step (.admitRequest { Lab.request 0 1 5 with source := ⟨Lab.probe.id, 1⟩ } 5)
    let after := before.admitRequest (Lab.request 0 1 6) 6
    after.1.reason = .rejectedRecordBudgetExhausted ∧
    ∃ fact ∈ (before.derive (Lab.device 0) .packetClassification 6 0).facts, fact.state = .active ∧
      (fact.record ∈ (after.2.streamAt fact.record.evidence.key).records ∨
      (∃ newer ∈ (after.2.streamAt fact.record.evidence.key).records,
        newer.lifecycle = .admitted ∧ fact.record.evidence.generation < newer.evidence.generation) ∨
      (∃ higher ∈ (after.2.derive (Lab.device 0) .packetClassification 6 0).facts, higher.state = .active ∧
        higher.record.id = (before.evidenceOf (Lab.request 0 1 6)).id ∧
        fact.record.evidence.authority < higher.record.evidence.authority)) := by
  intro before after
  have hdistinct : Set.InjOn Digest256.of
      {((init Lab.tightPolicy).evidenceOf { Lab.request 0 1 5 with source := ⟨Lab.probe.id, 1⟩ }).encode,
        (before.evidenceOf (Lab.request 0 1 6)).encode} :=
    Set.injOn_pair.mpr (fun hsame => absurd hsame (by decide +kernel))
  have hwithin : before.Within := (Within.init _).step ⟨by decide, by decide, by decide, by decide⟩ trivial
  have hactive : ∃ fact ∈ (before.derive (Lab.device 0) .packetClassification 6 0).facts, fact.state = .active := by
    decide +kernel
  obtain ⟨fact, hfact, hactive⟩ := hactive
  exact ⟨by decide +kernel, fact, hfact, hactive, active_evidence_survives_admission hdistinct
    (.step (.init Lab.tightPolicy) (fun _ _ h => by cases h) (fun _ _ h => by cases h; exact .inl rfl))
    (.inr rfl) (fun _ => .inl hwithin.records) hfact hactive⟩

/-- A report of higher authority outranks the only record that fits, which goes: no newer record of its
    stream is left behind. -/
theorem outranked_evidence_evicted :
    let before := (init Lab.tightPolicy).step (.admitRequest (Lab.request 0 1 5) 5)
    let after := before.admitRequest { Lab.request 0 1 6 with source := ⟨Lab.probe.id, 1⟩ } 6
    (before.derive (Lab.device 0) .packetClassification 6 0).facts.map
      (fun fact => (fact.record.evidence.key, fact.state)) = [((Lab.request 0 1 5).key, .active)] ∧
    after.1.ok = true ∧ (after.2.streamAt (Lab.request 0 1 5).key).records = [] := by
  decide +kernel

end Ocreg
