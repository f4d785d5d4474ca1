/-
Module: Ocreg.Proofs.DeliveryOrder
Purpose: The order of delivery does not change the answers. Different orders store a record as superseded or as rejected;
  what is shown of a stream is the same in every order, and answers are made of that.
-/
import Ocreg.Proofs.Answers
import Ocreg.Proofs.Delivery

namespace Ocreg

open List Registry Lab

variable {requests first second : List AdmissionRequest} {offered : Set Bytes}

/-! ### Insertion in order -/

/-- Two insertions by different ranks commute. -/
theorem orderedInsert_comm {α κ : Type} [LinearOrder κ] (rank : α → κ) {a b : α} (hne : rank a ≠ rank b) (l : List α) :
    (l.orderedInsert (fun a b => rank a ≤ rank b) a).orderedInsert (fun a b => rank a ≤ rank b) b =
      (l.orderedInsert (fun a b => rank a ≤ rank b) b).orderedInsert (fun a b => rank a ≤ rank b) a := by
  induction l with
  | nil =>
    rcases lt_or_gt_of_ne hne with hlt | hlt
    · simp [orderedInsert, hlt.le, not_le.mpr hlt]
    · simp [orderedInsert, hlt.le, not_le.mpr hlt]
  | cons c l ih =>
    by_cases ha : rank a ≤ rank c
    · by_cases hb : rank b ≤ rank c
      · rcases lt_or_gt_of_ne hne with hlt | hlt
        · simp [orderedInsert, ha, hb, hlt.le, not_le.mpr hlt]
        · simp [orderedInsert, ha, hb, hlt.le, not_le.mpr hlt]
      · have hab : ¬ rank b ≤ rank a := fun hle => hb (hle.trans ha)
        simp [orderedInsert, ha, hb, hab]
    · by_cases hb : rank b ≤ rank c
      · have hba : ¬ rank a ≤ rank b := fun hle => ha (hle.trans hb)
        simp [orderedInsert, ha, hb, hba]
      · simp [orderedInsert, ha, hb, ih]

theorem insertRecord_eq (record : StoredEvidence) (records : List StoredEvidence) :
    insertRecord record records = records.orderedInsert (fun a b => a.rank ≤ b.rank) record := by
  induction records with
  | nil => rfl
  | cons other records ih =>
    rw [insertRecord, orderedInsert]
    by_cases hless : generationLess other record = true
    · have hnot : ¬ record.rank ≤ other.rank := not_le.mpr ((generationLess_iff other record).mp hless)
      rw [if_pos hless, if_neg hnot, ih]
    · have hle : record.rank ≤ other.rank := not_lt.mp (fun hlt => hless ((generationLess_iff other record).mpr hlt))
      rw [if_neg hless, if_pos hle]

/-! ### One stream -/

theorem map_shown_foldl (maxGeneration : RecordGeneration) (news : List StoredEvidence)
    (records : List StoredEvidence) :
    (news.foldl (fun records record => insertRecord record records) records).map (StoredEvidence.shown maxGeneration) =
      (news.map (StoredEvidence.shown maxGeneration)).foldl
        (fun shown new => shown.orderedInsert (fun a b => Shown.rank a ≤ Shown.rank b) new)
        (records.map (StoredEvidence.shown maxGeneration)) := by
  induction news generalizing records with
  | nil => rfl
  | cons new news ih =>
    rw [foldl_cons, ih, insertRecord_eq, map_cons, foldl_cons]
    congr 1
    apply map_orderedInsert
    · exact fun _ _ => Iff.rfl
    · exact fun _ _ => Iff.rfl

namespace Registry

variable {s t : Registry} {now : Tick} {start stream : Stream} {request : AdmissionRequest}

/-- The request is stored when the stream is as given. -/
def enters (s : Registry) (now : Tick) (stream : Stream) (request : AdmissionRequest) : Bool :=
  s.registers now request && !decide (s.FencedAt request.key request.generation) &&
    !stream.records.any (fun record => record.id == (s.evidenceOf request).id)

theorem generation_ne_zero_of_registers (h : s.registers now request = true) : request.generation ≠ 0 := by
  rw [registers, Option.isNone_iff_eq_none] at h
  exact generation_ne_zero_of_accepted h

theorem received_of_not_enters (h : s.enters now stream request = false) : s.received now stream request = stream := by
  have hreceipt : s.receipt now stream request ≠ .rejected ∧ s.receipt now stream request ≠ .accepted := by
    rw [enters, registers] at h
    rw [receipt]
    cases hrefusal : s.admissionRefusal request now with
    | some refusal => simp
    | none =>
      by_cases hfenced : s.FencedAt request.key request.generation
      · simp [hfenced]
      · cases hduplicate : stream.records.any (fun record => record.id == (s.evidenceOf request).id) with
        | true => simp [hfenced]
        | false => simp [hrefusal, hfenced, hduplicate] at h
  rw [received]
  split
  next hrejected => exact absurd hrejected hreceipt.1
  next haccepted => exact absurd haccepted hreceipt.2
  next => rfl

theorem receipt_of_enters (h : s.enters now stream request = true) : s.receipt now stream request =
      if request.generation ≤ stream.maxGeneration then .rejected else .accepted := by
  rw [enters, Bool.and_eq_true, Bool.and_eq_true, Bool.not_eq_true', Bool.not_eq_true', decide_eq_false_iff_not] at h
  obtain ⟨⟨hregisters, hfenced⟩, hduplicate⟩ := h
  have hpositive := generation_ne_zero_of_registers hregisters
  rw [registers, Option.isNone_iff_eq_none] at hregisters
  rw [receipt, hregisters, if_neg (by decide), if_neg hfenced, hduplicate, if_neg Bool.false_ne_true]
  by_cases hle : request.generation ≤ stream.maxGeneration
  · have hnonzero : stream.maxGeneration ≠ 0 := by
      intro hzero
      rw [hzero] at hle
      exact hpositive (le_antisymm hle UInt64.zero_le)
    rw [if_pos hle, if_pos ⟨hnonzero, hle⟩]
  · rw [if_neg hle, if_neg (fun hboth => hle hboth.2)]

/-- A stream after some requests: the records they added, with their standing. A rejected record of a new
    generation is below the maximum by now. -/
structure Grown (s : Registry) (now : Tick) (start : Stream) (done : List AdmissionRequest)
    (news : List StoredEvidence) (stream : Stream) : Prop where
  records : stream.records = news.foldl (fun records record => insertRecord record records) start.records
  evidence : news.map StoredEvidence.evidence = (done.filter (s.enters now start)).map s.evidenceOf
  level : stream.maxGeneration =
    (done.filter (s.enters now start)).foldl (fun level request => max level request.generation) start.maxGeneration
  standing : ∀ new ∈ news,
    new.lifecycle = .rejected ∧
      (start.maxGeneration < new.evidence.generation → new.evidence.generation < stream.maxGeneration) ∨
    new.lifecycle = .admitted ∧ start.maxGeneration < new.evidence.generation

/-- The largest of some generations, from a first one. -/
theorem level_spec (requests : List AdmissionRequest) (level : RecordGeneration) :
    let top := requests.foldl (fun level request => max level request.generation) level
    level ≤ top ∧ (∀ request ∈ requests, request.generation ≤ top) ∧
      (top = level ∨ ∃ request ∈ requests, request.generation = top) := by
  induction requests generalizing level with
  | nil => exact ⟨le_refl _, (fun _ h => nomatch h), .inl rfl⟩
  | cons request requests ih =>
    obtain ⟨hstart, hall, hattained⟩ := ih (max level request.generation)
    refine ⟨(le_max_left _ _).trans hstart, ?_, ?_⟩
    · intro other hother
      rcases mem_cons.mp hother with rfl | hlater
      · exact (le_max_right _ _).trans hstart
      · exact hall other hlater
    · rcases hattained with heq | ⟨other, hother, heq⟩
      · rcases max_choice level request.generation with hmax | hmax
        · exact .inl (heq.trans hmax)
        · exact .inr ⟨request, mem_cons_self, (heq.trans hmax).symm⟩
      · exact .inr ⟨other, mem_cons_of_mem _ hother, heq⟩

theorem mem_foldl_insertRecord {record : StoredEvidence} (news records : List StoredEvidence) :
    record ∈ news.foldl (fun records record => insertRecord record records) records ↔
      record ∈ news ∨ record ∈ records := by
  induction news generalizing records with
  | nil => simp
  | cons new news ih =>
    rw [foldl_cons, ih, mem_insertRecord, mem_cons]
    tauto

variable {done : List AdmissionRequest} {news : List StoredEvidence}

section

variable (h : Grown s now start done news stream)
  (hfresh : ∀ other ∈ done, (s.evidenceOf other).id ≠ (s.evidenceOf request).id)

include h hfresh

/-- A request whose id none of the earlier ones has enters the stream as it enters the stream at the start. -/
theorem Grown.enters : s.enters now stream request = s.enters now start request := by
  have hany : stream.records.any (fun record => record.id == (s.evidenceOf request).id) =
      start.records.any (fun record => record.id == (s.evidenceOf request).id) := by
    rw [Bool.eq_iff_iff, any_eq_true, any_eq_true, h.records]
    constructor
    · rintro ⟨record, hrecord, hid⟩
      rcases (mem_foldl_insertRecord news start.records).mp hrecord with hnew | hold
      · have hmem : record.evidence ∈ news.map StoredEvidence.evidence := mem_map_of_mem hnew
        rw [h.evidence] at hmem
        obtain ⟨other, hother, heq⟩ := mem_map.mp hmem
        have hsame : (s.evidenceOf other).id = (s.evidenceOf request).id := by
          rw [heq]
          exact beq_iff_eq.mp hid
        exact absurd hsame (hfresh other (mem_filter.mp hother).1)
      · exact ⟨record, hold, hid⟩
    · rintro ⟨record, hrecord, hid⟩
      exact ⟨record, (mem_foldl_insertRecord news start.records).mpr (.inr hrecord), hid⟩
  rw [Registry.enters, Registry.enters, hany]

/-- One more request, of a generation and an id that none of the earlier ones has. -/
theorem Grown.step (hgeneration : ∀ other ∈ done, other.generation ≠ request.generation) :
    ∃ news', Grown s now start (done ++ [request]) news' (s.received now stream request) := by
  have henters := h.enters hfresh
  obtain ⟨hstart, hall, hattained⟩ := level_spec (done.filter (s.enters now start)) start.maxGeneration
  rw [← h.level] at hstart hall hattained
  cases hrequest : s.enters now start request with
  | false =>
    rw [hrequest] at henters
    refine ⟨news, ?_⟩
    rw [received_of_not_enters henters]
    have hfilter : (done ++ [request]).filter (s.enters now start) = done.filter (s.enters now start) := by
      simp [filter_append, hrequest]
    exact ⟨h.records, by rw [hfilter, h.evidence], by rw [hfilter, h.level], h.standing⟩
  | true =>
    rw [hrequest] at henters
    have hfilter : (done ++ [request]).filter (s.enters now start) = done.filter (s.enters now start) ++ [request] := by
      simp [filter_append, hrequest]
    have hreceipt := receipt_of_enters henters
    by_cases hle : request.generation ≤ stream.maxGeneration
    · rw [if_pos hle] at hreceipt
      rw [received, hreceipt]
      refine ⟨news ++ [storedOf (s.evidenceOf request) .rejected
        (generationRejection stream (s.evidenceOf request)) now], ?_, ?_, ?_, ?_⟩
      · rw [foldl_append, ← h.records]
        rfl
      · rw [hfilter, map_append, map_append, h.evidence]
        rfl
      · rw [hfilter, foldl_append, ← h.level]
        exact (max_eq_left hle).symm
      · intro new hnew
        rcases mem_append.mp hnew with hold | hlast
        · exact h.standing new hold
        · rw [mem_singleton.mp hlast]
          refine .inl ⟨rfl, ?_⟩
          intro (habove : start.maxGeneration < request.generation)
          -- a maximum above the start was attained by another request, of another generation
          refine lt_of_le_of_ne hle ?_
          intro (heq : request.generation = stream.maxGeneration)
          rcases hattained with hsame | ⟨other, hother, hothers⟩
          · rw [heq, hsame] at habove
            exact lt_irrefl _ habove
          · exact hgeneration other (mem_filter.mp hother).1 (hothers.trans heq.symm)
    · rw [if_neg hle] at hreceipt
      rw [received, hreceipt]
      have hlt := not_le.mp hle
      refine ⟨news ++ [storedOf (s.evidenceOf request) .admitted (acceptanceReason stream) now], ?_, ?_, ?_, ?_⟩
      · rw [foldl_append, ← h.records]
        rfl
      · rw [hfilter, map_append, map_append, h.evidence]
        rfl
      · rw [hfilter, foldl_append, ← h.level]
        exact (max_eq_right hlt.le).symm
      · intro new hnew
        rcases mem_append.mp hnew with hold | hlast
        · rcases h.standing new hold with ⟨hrejected, hbelow⟩ | hadmitted
          · exact .inl ⟨hrejected, fun habove => (hbelow habove).trans hlt⟩
          · exact .inr hadmitted
        · rw [mem_singleton.mp hlast]
          exact .inr ⟨rfl, lt_of_le_of_lt hstart hlt⟩

end

/-- Requests of different generations and ids, one after the other. -/
theorem grown_foldl (s : Registry) (now : Tick) (start : Stream)
    (hdistinct : requests.Pairwise (fun a b => a.generation ≠ b.generation ∧
        (s.evidenceOf a).id ≠ (s.evidenceOf b).id)) :
    ∃ news, Grown s now start requests news (requests.foldl (s.received now) start) := by
  induction requests using reverseRecOn with
  | nil => exact ⟨[], rfl, rfl, rfl, fun _ h => nomatch h⟩
  | append_singleton done request ih =>
    obtain ⟨hdone, -, hlast⟩ := pairwise_append.mp hdistinct
    obtain ⟨news, hgrown⟩ := ih hdone
    rw [foldl_append]
    apply hgrown.step
    · exact fun other hother => (hlast other hother request mem_cons_self).2
    · exact fun other hother => (hlast other hother request mem_cons_self).1

/-- What is shown of new evidence in a stream that went from one maximum to another: only the one that attained the
    new maximum stands. -/
def mark (low top : RecordGeneration) (evidence : CapabilityEvidence) : Shown :=
  (evidence, if low < evidence.generation ∧ evidence.generation = top then some .admitted else none)

theorem Grown.shown_new (h : Grown s now start done news stream) {new : StoredEvidence} (hnew : new ∈ news) :
    new.shown stream.maxGeneration = mark start.maxGeneration stream.maxGeneration new.evidence := by
  have hle : new.evidence.generation ≤ stream.maxGeneration := by
    have hmem : new.evidence ∈ news.map StoredEvidence.evidence := mem_map_of_mem hnew
    rw [h.evidence] at hmem
    obtain ⟨request, hrequest, heq⟩ := mem_map.mp hmem
    rw [← heq, h.level]
    exact (level_spec (done.filter (s.enters now start)) start.maxGeneration).2.1 request hrequest
  rw [StoredEvidence.shown, mark]
  rcases h.standing new hnew with ⟨hrejected, hbelow⟩ | ⟨hadmitted, habove⟩
  · have hnot : ¬ (start.maxGeneration < new.evidence.generation ∧
        new.evidence.generation = stream.maxGeneration) := by
      rintro ⟨habove, htop⟩
      exact absurd htop (ne_of_lt (hbelow habove))
    rw [hrejected, if_neg hnot]
  · rw [hadmitted]
    dsimp only
    by_cases htop : new.evidence.generation = stream.maxGeneration
    · rw [if_neg (fun hboth => absurd htop (ne_of_lt hboth.2)), if_pos ⟨habove, htop⟩]
    · have hlt := lt_of_le_of_ne hle htop
      have hnonzero : stream.maxGeneration ≠ 0 := (lt_of_le_of_lt UInt64.zero_le hlt).ne'
      rw [if_pos ⟨hnonzero, hlt⟩, if_neg (fun hboth => htop hboth.2)]

theorem Grown.view (h : Grown s now start done news stream) : stream.view = ((done.filter (s.enters now start)).map
        (fun request => mark start.maxGeneration stream.maxGeneration (s.evidenceOf request))).foldl
      (fun shown new => shown.orderedInsert (fun a b => Shown.rank a ≤ Shown.rank b) new)
      (start.records.map (StoredEvidence.shown stream.maxGeneration)) := by
  have hmarks : news.map (StoredEvidence.shown stream.maxGeneration) = (done.filter (s.enters now start)).map
        (fun request => mark start.maxGeneration stream.maxGeneration (s.evidenceOf request)) := by
    have hcomposed := congrArg (map (mark start.maxGeneration stream.maxGeneration)) h.evidence
    rw [map_map, map_map] at hcomposed
    refine Eq.trans ?_ hcomposed
    exact map_congr_left fun new hnew => h.shown_new hnew
  rw [Stream.view, h.records, map_shown_foldl, hmarks]

/-- A stream shows the same after the same requests in another order. -/
theorem view_received_perm (s : Registry) (now : Tick) (start : Stream) (hperm : first.Perm second)
    (hdistinct : first.Pairwise (fun a b => a.generation ≠ b.generation ∧ (s.evidenceOf a).id ≠ (s.evidenceOf b).id)) :
    (first.foldl (s.received now) start).view = (second.foldl (s.received now) start).view := by
  have hsymm : Std.Symm (fun a b : AdmissionRequest =>
      a.generation ≠ b.generation ∧ (s.evidenceOf a).id ≠ (s.evidenceOf b).id) :=
    ⟨fun a b hab => ⟨hab.1.symm, hab.2.symm⟩⟩
  obtain ⟨news, hfirst⟩ := grown_foldl s now start hdistinct
  obtain ⟨news', hsecond⟩ := grown_foldl s now start ((hperm.pairwise_iff (hsymm.symm _ _)).mp hdistinct)
  have hfilter := hperm.filter (s.enters now start)
  have hlevel : (first.foldl (s.received now) start).maxGeneration =
      (second.foldl (s.received now) start).maxGeneration := by
    rw [hfirst.level, hsecond.level]
    apply hfilter.foldl_eq'
    intro a _ b _ level
    exact max_right_comm level a.generation b.generation
  rw [hfirst.view, hsecond.view, hlevel]
  refine (hfilter.map _).foldl_eq' ?_ _
  intro a ha b hb shown
  obtain ⟨request, hrequest, rfl⟩ := mem_map.mp ha
  obtain ⟨other, hother, rfl⟩ := mem_map.mp hb
  by_cases hsame : request = other
  · rw [hsame]
  · apply orderedInsert_comm
    have hne := hdistinct.forall (mem_filter.mp hrequest).1 (mem_filter.mp hother).1 hsame
    intro hrank
    exact hne.1 (congrArg (fun rank => (ofLex rank).1) hrank)

/-! ### The whole registry -/

/-- Requests for registered devices leave every current incarnation. -/
theorem deliver_current (now : Tick) (h : ∀ request ∈ requests, (s.findDevice request.device.device).isSome)
    (device : DeviceIdentity) : ((s.deliver now requests).findDevice device).map DeviceIncarnationEntry.current =
      (s.findDevice device).map DeviceIncarnationEntry.current := by
  rw [deliver_findDevice]
  cases hfind : s.findDevice device with
  | none =>
    have hnone : requests.filter (fun request =>
        s.registers now request && request.device.device == device) = [] := by
      rw [filter_eq_nil_iff]
      intro request hrequest hnamed
      have hdevice : request.device.device = device := beq_iff_eq.mp (Bool.and_eq_true_iff.mp hnamed).2
      have hsome := h request hrequest
      rw [hdevice, hfind] at hsome
      cases hsome
    rw [hnone]
    rfl
  | some entry =>
    generalize requests.filter (fun request =>
      s.registers now request && request.device.device == device) = named
    have hkept : ∀ (named : List AdmissionRequest) (entry : DeviceIncarnationEntry),
        (named.foldl (fun entry request => some (seen request.device entry)) (some entry)).map
          DeviceIncarnationEntry.current = some entry.current := by
      intro named
      induction named with
      | nil => exact fun _ => rfl
      | cons request named ih =>
        intro entry
        rw [foldl_cons, ih, seen]
        split
        · rfl
        · rfl
    exact hkept named entry

/-- Requests of one stream and different generations have different records. -/
theorem evidence_id_ne (hinj : Set.InjOn Digest256.of offered) {a b : AdmissionRequest}
    (ha : (s.evidenceOf a).encode ∈ offered) (hb : (s.evidenceOf b).encode ∈ offered)
    (hne : a.generation ≠ b.generation) : (s.evidenceOf a).id ≠ (s.evidenceOf b).id :=
  fun hid => hne (CapabilityEvidence.generation_eq_of_encode_eq (hinj ha hb hid))

theorem agree_deliver (hperm : first.Perm second)
    (hdistinct : first.Pairwise (fun a b => a.key = b.key →
      a.generation ≠ b.generation ∧ (s.evidenceOf a).id ≠ (s.evidenceOf b).id))
    (hregistered : ∀ request ∈ first, (s.findDevice request.device.device).isSome) (now : Tick) :
    Agree (s.deliver now first) (s.deliver now second) := by
  have hone := Settled.deliver s now first
  have htwo := Settled.deliver s now second
  constructor
  · exact htwo.policy.trans hone.policy.symm
  · exact htwo.epoch.trans hone.epoch.symm
  · exact htwo.ruleGeneration.trans hone.ruleGeneration.symm
  · exact htwo.policyRevision.trans hone.policyRevision.symm
  · exact htwo.bootEpoch.trans hone.bootEpoch.symm
  · exact htwo.resolutions.trans hone.resolutions.symm
  · exact htwo.evictions.trans hone.evictions.symm
  · intro device
    rw [deliver_current now hregistered,
      deliver_current now (fun request hrequest => hregistered request (hperm.mem_iff.mpr hrequest))]
  · intro key
    rw [deliver_streamAt, deliver_streamAt]
    symm
    apply view_received_perm s now (s.streamAt key) (hperm.filter _)
    refine (hdistinct.filter (fun request => request.key == key)).imp_of_mem ?_
    intro a b ha hb hab
    exact hab ((beq_iff_eq.mp (mem_filter.mp ha).2).trans (beq_iff_eq.mp (mem_filter.mp hb).2).symm)

end Registry

/-- Whatever the registry, requests of pairwise distinct (stream, generation) for registered devices, admitted at one
    tick while no bound is reached, lead in every order to the same answers. -/
theorem delivery_order_irrelevant (s : Registry) (now : Tick) {offered : Set Bytes}
    {first second : List AdmissionRequest} (hperm : first.Perm second) (hinj : Set.InjOn Digest256.of offered)
    (hoffered : ∀ request ∈ first, (s.evidenceOf request).encode ∈ offered)
    (hdistinct : first.Pairwise (fun a b => (a.key, a.generation) ≠ (b.key, b.generation)))
    (hregistered : ∀ request ∈ first, (s.findDevice request.device.device).isSome)
    (hfirst : s.RoomyAlong now first) (hsecond : s.RoomyAlong now second) :
    (∀ query tick, ((s.admitRequests now second).query query tick).value?.map QueryResult.gist =
        ((s.admitRequests now first).query query tick).value?.map QueryResult.gist) ∧
      (∀ requirement tick, ((s.admitRequests now second).evaluate requirement tick).1.gist =
        ((s.admitRequests now first).evaluate requirement tick).1.gist) := by
  rw [admitRequests_roomy hfirst, admitRequests_roomy hsecond]
  have hapart : first.Pairwise (fun a b => a.key = b.key →
      a.generation ≠ b.generation ∧ (s.evidenceOf a).id ≠ (s.evidenceOf b).id) := by
    refine hdistinct.imp_of_mem ?_
    intro a b ha hb hab hkey
    have hgeneration : a.generation ≠ b.generation := fun hsame => hab (Prod.ext hkey hsame)
    exact ⟨hgeneration, evidence_id_ne hinj (hoffered a ha) (hoffered b hb) hgeneration⟩
  have hagree := agree_deliver hperm hapart hregistered now
  exact ⟨hagree.query, hagree.decideRequirement⟩

/-- One device is registered and nothing stored. -/
def Lab.registered : Registry := (init policy).step (.setDeviceIncarnation (device 0).device 1 5)

/-- Two reports of one device: what is stored depends on the order, the answers do not. -/
theorem delivery_order_irrelevant_two_reports :
    let ascending := registered.admitRequests 5 [request 0 1 5, request 0 2 5]
    let descending := registered.admitRequests 5 [request 0 2 5, request 0 1 5]
    ascending.flattenRecords ≠ descending.flattenRecords ∧
      (∀ query tick, (descending.query query tick).value?.map QueryResult.gist =
        (ascending.query query tick).value?.map QueryResult.gist) := by
  intro ascending descending
  have hinj : Set.InjOn Digest256.of {(registered.evidenceOf (request 0 1 5)).encode,
      (registered.evidenceOf (request 0 2 5)).encode} :=
    Set.injOn_pair.mpr (fun hsame => absurd hsame (by decide +kernel))
  refine ⟨by decide +kernel, (delivery_order_irrelevant registered 5 (Perm.swap _ _ []) hinj ?_ ?_ ?_ ?_ ?_).1⟩
  · intro request hrequest
    rcases mem_pair.mp hrequest with rfl | rfl
    · exact .inl rfl
    · exact .inr rfl
  · decide +kernel
  · decide +kernel
  · refine ⟨roomy_of_isOk ?_ ?_ ?_ ?_, roomy_of_isOk ?_ ?_ ?_ ?_, trivial⟩ <;> decide +kernel
  · refine ⟨roomy_of_isOk ?_ ?_ ?_ ?_, roomy_of_isOk ?_ ?_ ?_ ?_, trivial⟩ <;> decide +kernel

end Ocreg
