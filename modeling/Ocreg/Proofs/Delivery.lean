/-
Module: Ocreg.Proofs.Delivery
Purpose: Admission while no bound is reached. A request then has one effect on its own stream, which the policy, the
  tombstones and that stream decide, and the effect of a list of requests is taken stream by stream.
-/
import Ocreg.Lib.Runs
import Ocreg.Registry.Step

namespace Ocreg

open List

variable {key : EvidenceKey}

/-! ### The effect of one request -/

/-- What becomes of a request when no bound is in the way. -/
inductive Receipt where
  | refused | fenced | duplicate | rejected | accepted
deriving DecidableEq

namespace Registry

section

variable (s : Registry) (now : Tick) (stream : Stream) (request : AdmissionRequest)

/-- Decided by policy, tombstones and the request's stream alone. -/
def receipt : Receipt :=
  if (s.admissionRefusal request now).isSome then .refused
  else if s.FencedAt request.key request.generation then .fenced
  else if stream.records.any (fun record => record.id == (s.evidenceOf request).id) then .duplicate
  else if stream.maxGeneration ≠ 0 ∧ request.generation ≤ stream.maxGeneration then .rejected
  else .accepted

/-- The stream after the request. -/
def received : Stream :=
  match s.receipt now stream request with
  | .rejected =>
    ⟨insertRecord (storedOf (s.evidenceOf request) .rejected
      (generationRejection stream (s.evidenceOf request)) now) stream.records, stream.maxGeneration⟩
  | .accepted =>
    ⟨insertRecord (storedOf (s.evidenceOf request) .admitted (acceptanceReason stream) now) stream.records,
      request.generation⟩
  | _ => stream

end

/-- A device's entry after an incarnation was seen. -/
def seen (device : DeviceIncarnationRef) : Option DeviceIncarnationEntry → DeviceIncarnationEntry
  | none => ⟨device.device, device.incarnation, [device.incarnation]⟩
  | some entry =>
    if entry.history.contains device.incarnation then entry
    else { entry with history := sortIncarnations (entry.history ++ [device.incarnation]) }

/-- Registration of an incarnation, without bounds. -/
def entered (s : Registry) (device : DeviceIncarnationRef) : Registry :=
  { s with
    incarnationTable := s.incarnationTable.insert device.device (seen device (s.findDevice device.device))
    nextIncarnation := s.nextAfter device.incarnation }

/-- Admission without bounds on records, streams, devices and incarnations. -/
def delivered (s : Registry) (now : Tick) (request : AdmissionRequest) : Registry :=
  let t := s.entered request.device
  match s.receipt now (s.streamAt request.key) request with
  | .refused => s.countRejected
  | .fenced => t.countRejected
  | .duplicate => { t with counters := { t.counters with admissionsIdempotent := t.counters.admissionsIdempotent + 1 } }
  | .rejected => t.countRejected.retainRejected (s.evidenceOf request) now
  | .accepted => (t.insertAdmitted (s.evidenceOf request) now).settleAccepted request.key now

/-- No bound stands in the way of the request. -/
structure Roomy (s : Registry) (request : AdmissionRequest) : Prop where
  device : ∃ t, s.registerIncarnation request.device = .ok t
  stream : s.findStream request.key = none → s.countStreams < s.policy.limits.maxStreams.toNat
  total : s.totalRecords < s.policy.limits.maxRecords.toNat
  records : (s.streamAt request.key).records.length < s.policy.limits.maxRecordsPerStream.toNat

variable {s t u : Registry} {request : AdmissionRequest} {now : Tick}

/-- The bounds as tests. -/
theorem roomy_of_isOk (hdevice : (s.registerIncarnation request.device).isOk = true)
    (hstreams : s.countStreams < s.policy.limits.maxStreams.toNat)
    (htotal : s.totalRecords < s.policy.limits.maxRecords.toNat)
    (hrecords : (s.streamAt request.key).records.length < s.policy.limits.maxRecordsPerStream.toNat) :
    s.Roomy request := by
  refine ⟨?_, fun _ => hstreams, htotal, hrecords⟩
  cases hregister : s.registerIncarnation request.device with
  | ok t => exact ⟨t, rfl⟩
  | error refusal =>
    rw [hregister] at hdevice
    cases hdevice

theorem registerIncarnation_entered {device : DeviceIncarnationRef} (h : s.registerIncarnation device = .ok t) :
    t = s.entered device := by
  rw [entered]
  cases registerView_of_ok h with
  | entered hnone _ =>
    rw [hnone]
    rfl
  | known hsome hknown =>
    rw [hsome, seen, if_pos (contains_iff_mem.mpr hknown), SortedMap.insert_find?_self hsome]
  | added hsome hnew _ => rw [hsome, seen, if_neg (fun hknown => hnew (contains_iff_mem.mp hknown))]

/-- With both record bounds kept nothing is evicted. -/
theorem enforceBudget_within {id : EvidenceId} (htotal : s.totalRecords ≤ s.policy.limits.maxRecords.toNat)
    (hstream : s.streamSize key ≤ s.policy.limits.maxRecordsPerStream.toNat) :
    s.enforceBudget key id now = (true, s, []) := by
  have hrecords : recordsOver s = false := decide_eq_false (not_lt.mpr htotal)
  have hover : streamOver key s = false := decide_eq_false (not_lt.mpr hstream)
  have hfirst : budgetLoop recordsOver none id now (s.totalRecords + 1) s [] = (true, s, []) := by
    rw [budgetLoop, hrecords, if_neg Bool.false_ne_true]
  rw [enforceBudget, hfirst]
  dsimp only
  rw [budgetLoop, hover, if_neg Bool.false_ne_true]

theorem streamRefusal_roomy (h : s.Roomy request) : (s.entered request.device).streamRefusal request =
      if s.FencedAt request.key request.generation then
        some ⟨.rejectedRetiredStream, text "stream is retired at this generation or later"⟩
      else none := by
  have hroom : ¬ ((s.entered request.device).findStream request.key = none ∧
      (s.entered request.device).countStreams ≥ (s.entered request.device).policy.limits.maxStreams.toNat) := by
    rintro ⟨hnone, hfull⟩
    exact absurd (h.stream hnone) (not_lt.mpr hfull)
  rw [streamRefusal, if_neg hroom]
  rfl

/-- With room, an admission is a delivery. -/
theorem admitRequest_roomy (h : s.Roomy request) (now : Tick) :
    (s.admitRequest request now).2 = s.delivered now request := by
  obtain ⟨t, hregistered⟩ := h.device
  have hentered := registerIncarnation_entered hregistered
  subst hentered
  rw [admitRequest, delivered, receipt]
  cases hrefusal : s.admissionRefusal request now with
  | some refusal => rfl
  | none =>
    dsimp only
    rw [hregistered, if_neg (by decide)]
    dsimp only
    rw [streamRefusal_roomy h]
    by_cases hfenced : s.FencedAt request.key request.generation
    · rw [if_pos hfenced, if_pos hfenced]
      rfl
    · rw [if_neg hfenced, if_neg hfenced]
      dsimp only
      rw [admitToStream]
      have hduplicate : (s.entered request.device).isDuplicate ((s.entered request.device).evidenceOf request) =
          (s.streamAt request.key).records.any (fun record => record.id == (s.evidenceOf request).id) := rfl
      rw [hduplicate]
      split
      · rfl
      · by_cases hregression : (s.streamAt request.key).maxGeneration ≠ 0 ∧
            request.generation ≤ (s.streamAt request.key).maxGeneration
        · have hregression' : (s.entered request.device).isRegression
              ((s.entered request.device).evidenceOf request) := hregression
          have hretains : (s.entered request.device).retainsRejected
              ((s.entered request.device).evidenceOf request).key := ⟨h.records, h.total⟩
          rw [if_pos hregression, if_pos hregression', admitRejected, if_pos hretains]
          rfl
        · have hadvances : ¬ (s.entered request.device).isRegression
              ((s.entered request.device).evidenceOf request) := hregression
          have hbudget : ((s.entered request.device).insertAdmitted (s.evidenceOf request) now).enforceBudget
              request.key (s.evidenceOf request).id now =
                (true, (s.entered request.device).insertAdmitted (s.evidenceOf request) now, []) := by
            apply enforceBudget_within
            · exact h.total
            · rw [streamSize, insertAdmitted, evidenceOf_key, streamAt_insertInStream, length_insertRecord]
              exact h.records
          have hevidence : (s.entered request.device).evidenceOf request = s.evidenceOf request := rfl
          rw [if_neg hregression, if_neg hadvances, admitAdvancing, hevidence, evidenceOf_key, hbudget]

/-! ### What a delivery leaves alone -/

/-- Everything an admission under the bounds does not touch. -/
structure Settled (s t : Registry) : Prop where
  policy : t.policy = s.policy
  epoch : t.epoch = s.epoch
  ruleGeneration : t.ruleGeneration = s.ruleGeneration
  policyRevision : t.policyRevision = s.policyRevision
  bootEpoch : t.bootEpoch = s.bootEpoch
  storeGeneration : t.storeGeneration = s.storeGeneration
  logicalTick : t.logicalTick = s.logicalTick
  tombstones : t.tombstones = s.tombstones
  resolutions : t.resolutionTable = s.resolutionTable
  evictions : t.evictionTable = s.evictionTable

namespace Settled

theorem refl (s : Registry) : Settled s s := ⟨rfl, rfl, rfl, rfl, rfl, rfl, rfl, rfl, rfl, rfl⟩

theorem trans (hst : Settled s t) (htu : Settled t u) : Settled s u where
  policy := htu.policy.trans hst.policy
  epoch := htu.epoch.trans hst.epoch
  ruleGeneration := htu.ruleGeneration.trans hst.ruleGeneration
  policyRevision := htu.policyRevision.trans hst.policyRevision
  bootEpoch := htu.bootEpoch.trans hst.bootEpoch
  storeGeneration := htu.storeGeneration.trans hst.storeGeneration
  logicalTick := htu.logicalTick.trans hst.logicalTick
  tombstones := htu.tombstones.trans hst.tombstones
  resolutions := htu.resolutions.trans hst.resolutions
  evictions := htu.evictions.trans hst.evictions

theorem refreshed (s : Registry) (device : DeviceIncarnationRef) (kind : CapabilityKind) (now : Tick) :
    Settled s (s.refreshConflict device kind now) := by
  obtain ⟨conflicts, dropped, hrefresh⟩ := s.refreshConflict_frame device kind now
  rw [hrefresh]
  exact ⟨rfl, rfl, rfl, rfl, rfl, rfl, rfl, rfl, rfl, rfl⟩

theorem delivered (s : Registry) (now : Tick) (request : AdmissionRequest) : Settled s (s.delivered now request) := by
  rw [Registry.delivered]
  split
  iterate 3 exact ⟨rfl, rfl, rfl, rfl, rfl, rfl, rfl, rfl, rfl, rfl⟩
  iterate 2
    refine Settled.trans ?_ (.refreshed _ _ _ _)
    exact ⟨rfl, rfl, rfl, rfl, rfl, rfl, rfl, rfl, rfl, rfl⟩

/-- Refusals, tombstones and the evidence of a request are as before. -/
theorem verdict (h : Settled s t) : t.admissionRefusal = s.admissionRefusal ∧ t.FencedAt = s.FencedAt ∧
    t.evidenceOf = s.evidenceOf := by
  cases s
  cases t
  obtain ⟨hpolicy, hepoch, _, hrevision, hboot, _, _, htombstones, _, _⟩ := h
  dsimp only at hpolicy hepoch hrevision hboot htombstones
  subst hpolicy hepoch hrevision hboot htombstones
  exact ⟨rfl, rfl, rfl⟩

theorem receipt (h : Settled s t) : t.receipt = s.receipt := by
  funext now stream request
  obtain ⟨hrefusal, hfenced, hevidence⟩ := h.verdict
  simp only [Registry.receipt, hrefusal, hfenced, hevidence]

/-- The effect of a request on a stream is the same before and after other requests. -/
theorem received (h : Settled s t) : t.received = s.received := by
  funext now stream request
  rw [Registry.received, Registry.received, h.receipt, h.verdict.2.2]

end Settled

/-! ### Stream by stream -/

section

variable (s) (now)

/-- A delivery puts its request into its own stream. -/
theorem delivered_streamAt_self (request : AdmissionRequest) :
    (s.delivered now request).streamAt request.key = s.received now (s.streamAt request.key) request := by
  rw [delivered, received]
  cases s.receipt now (s.streamAt request.key) request with
  | refused | fenced | duplicate => rfl
  | _ =>
    refine ((refreshConflict_evidence _ _ _ _).streamAt request.key).trans ?_
    exact streamAt_insertInStream _ request.key _ _

theorem delivered_streamAt_of_ne (hkey : key ≠ request.key) :
    (s.delivered now request).streamAt key = s.streamAt key := by
  rw [delivered]
  cases s.receipt now (s.streamAt request.key) request with
  | refused | fenced | duplicate => rfl
  | _ =>
    refine ((refreshConflict_evidence _ _ _ _).streamAt key).trans ?_
    exact streamAt_insertInStream_of_ne _ _ _ hkey

/-- The requests one after the other. -/
def deliver (s : Registry) (now : Tick) (requests : List AdmissionRequest) : Registry :=
  requests.foldl (fun s request => s.delivered now request) s

theorem Settled.deliver (requests : List AdmissionRequest) : Settled s (s.deliver now requests) := by
  induction requests generalizing s with
  | nil => exact .refl s
  | cons request requests ih => exact (Settled.delivered s now request).trans (ih (s.delivered now request))

/-- A stream after a list of requests: those that name it, one after the other. -/
theorem deliver_streamAt (requests : List AdmissionRequest) (key : EvidenceKey) :
    (s.deliver now requests).streamAt key =
      (requests.filter (fun request => request.key == key)).foldl (s.received now) (s.streamAt key) := by
  induction requests generalizing s with
  | nil => rfl
  | cons request requests ih =>
    refine (ih (s.delivered now request)).trans ?_
    rw [(Settled.delivered s now request).received]
    by_cases hkey : request.key = key
    · subst hkey
      rw [filter_cons_of_pos (by simp), foldl_cons, delivered_streamAt_self]
    · rw [filter_cons_of_neg (by simp [hkey]), delivered_streamAt_of_ne s now (Ne.symm hkey)]

end

section

variable (s) (now) (requests : List AdmissionRequest)

/-- The requests admitted one after the other, at one tick. -/
def admitRequests : Registry :=
  requests.foldl (fun s request => (s.admitRequest request now).2) s

/-- Every request finds room when its turn comes. -/
def RoomyAlong : Prop :=
  Runs.Along (fun s request => (s.admitRequest request now).2) Roomy s requests

end

theorem admitRequests_roomy {requests : List AdmissionRequest} (h : s.RoomyAlong now requests) :
    s.admitRequests now requests = s.deliver now requests := by
  induction requests generalizing s with
  | nil => rfl
  | cons request requests ih =>
    refine (ih h.2).trans ?_
    dsimp only
    rw [admitRequest_roomy h.1 now]
    rfl

/-! ### Devices -/

/-- The request gets as far as registering its device. -/
def registers (s : Registry) (now : Tick) (request : AdmissionRequest) : Bool := (s.admissionRefusal request now).isNone

theorem receipt_refused {stream : Stream} :
    s.receipt now stream request = .refused ↔ s.registers now request = false := by
  rw [receipt, registers]
  cases s.admissionRefusal request now with
  | some refusal => exact iff_of_true rfl rfl
  | none =>
    refine iff_of_false ?_ (by decide)
    rw [if_neg (by decide)]
    split
    · decide
    · split
      · decide
      · split
        · decide
        · decide

section

variable (s) (now : Tick) (request : AdmissionRequest)

/-- A delivery registers the device of a request that is not refused. -/
theorem delivered_registered : (s.delivered now request).incarnationTable =
        (if s.registers now request then s.entered request.device else s).incarnationTable ∧
      (s.delivered now request).nextIncarnation =
        (if s.registers now request then s.entered request.device else s).nextIncarnation := by
  have hrefreshed : ∀ (t : Registry) (device : DeviceIncarnationRef) (kind : CapabilityKind),
      (t.refreshConflict device kind now).incarnationTable = t.incarnationTable ∧
        (t.refreshConflict device kind now).nextIncarnation = t.nextIncarnation := by
    intro t device kind
    obtain ⟨_, _, hrefresh⟩ := t.refreshConflict_frame device kind now
    rw [hrefresh]
    exact ⟨rfl, rfl⟩
  cases hregisters : s.registers now request with
  | false =>
    rw [delivered, receipt_refused.mpr hregisters]
    exact ⟨rfl, rfl⟩
  | true =>
    rw [delivered, if_pos rfl]
    split
    next hreceipt =>
      rw [receipt_refused.mp hreceipt] at hregisters
      cases hregisters
    · exact ⟨rfl, rfl⟩
    · exact ⟨rfl, rfl⟩
    · exact hrefreshed _ _ _
    · exact hrefreshed _ _ _

theorem delivered_findDevice (device : DeviceIdentity) : (s.delivered now request).findDevice device =
      if s.registers now request && request.device.device == device then
        some (seen request.device (s.findDevice device))
      else s.findDevice device := by
  rw [findDevice, (delivered_registered s now request).1]
  cases s.registers now request with
  | false => rfl
  | true =>
    rw [if_pos rfl, entered, SortedMap.find?_insert, Bool.true_and]
    by_cases hdevice : request.device.device = device
    · rw [if_pos hdevice.symm, if_pos (beq_iff_eq.mpr hdevice), hdevice]
    · rw [if_neg (Ne.symm hdevice), if_neg (fun h => hdevice (beq_iff_eq.mp h))]
      rfl

end

theorem Settled.registers (h : Settled s t) : t.registers = s.registers := by
  funext now request
  rw [Registry.registers, h.verdict.1]
  rfl

/-- A device after a list of requests: those that name it and are not refused, one after the other. -/
theorem deliver_findDevice (s : Registry) (now : Tick) (requests : List AdmissionRequest) (device : DeviceIdentity) :
    (s.deliver now requests).findDevice device =
      (requests.filter (fun request => s.registers now request && request.device.device == device)).foldl
        (fun entry request => some (seen request.device entry)) (s.findDevice device) := by
  induction requests generalizing s with
  | nil => rfl
  | cons request requests ih =>
    refine (ih (s.delivered now request)).trans ?_
    rw [(Settled.delivered s now request).registers, delivered_findDevice]
    rw [filter_cons]
    split
    · rfl
    · rfl

end Registry

end Ocreg
