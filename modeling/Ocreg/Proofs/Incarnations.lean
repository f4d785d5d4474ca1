/-
Module: Ocreg.Proofs.Incarnations
Purpose: The incarnation counter and the device table. Histories only grow, every incarnation that is entered raises the
  counter above it, and streams and tombstones belong to incarnations that were entered. As long as the counter has not
  run over, a new incarnation is therefore fresh.
-/
import Ocreg.Proofs.SourcePolicies

namespace Ocreg

open List Registry SortedMap Lab

variable {entry : DeviceIncarnationEntry} {incarnation : IncarnationId} {op : Op} {key : EvidenceKey}

namespace Registry

variable {s t u : Registry} {device : DeviceIncarnationRef}

/-! ### What enters the device table -/

/-- The incarnations a device has had. -/
def historyOf (s : Registry) (device : DeviceIdentity) : List IncarnationId :=
  ((s.findDevice device).map DeviceIncarnationEntry.history).getD []

/-- The incarnation an operation enters in the device table, unless a bound stops it. -/
def enrolls (s : Registry) : Op → Option DeviceIncarnationRef
  | .admitRequest request now => if s.admissionRefusal request now = none then some request.device else none
  | .beginDeviceIncarnation device _ => some ⟨device, s.freshIncarnation⟩
  | .setDeviceIncarnation device incarnation _ => if incarnation = 0 then none else some ⟨device, incarnation⟩
  | _ => none

/-- One incarnation more is in the histories, and the counter has seen it. -/
structure Enrolled (device : DeviceIncarnationRef) (s t : Registry) : Prop where
  history : ∀ other incarnation, incarnation ∈ t.historyOf other ↔
    incarnation ∈ s.historyOf other ∨ other = device.device ∧ incarnation = device.incarnation
  next : t.nextIncarnation = s.nextAfter device.incarnation

theorem historyOf_congr (h : t.incarnationTable = s.incarnationTable) : t.historyOf = s.historyOf := by
  funext device
  rw [historyOf, findDevice, h]
  rfl

theorem Enrolled.congr (h : Enrolled device s t) (htable : u.incarnationTable = t.incarnationTable)
    (hnext : u.nextIncarnation = t.nextIncarnation) : Enrolled device s u where
  history := by
    rw [historyOf_congr htable]
    exact h.history
  next := hnext.trans h.next

/-- An entry is written whose history has the new incarnation beside those of the old entry. -/
theorem Enrolled.of_insert (htable : t.incarnationTable = s.incarnationTable.insert device.device entry)
    (hhistory : ∀ incarnation, incarnation ∈ entry.history ↔ incarnation ∈ s.historyOf device.device ∨
        incarnation = device.incarnation)
    (hnext : t.nextIncarnation = s.nextAfter device.incarnation) : Enrolled device s t := by
  refine ⟨?_, hnext⟩
  intro other incarnation
  rw [historyOf, findDevice, htable, find?_insert]
  by_cases hother : other = device.device
  · subst hother
    rw [if_pos rfl]
    simpa using hhistory incarnation
  · rw [if_neg hother]
    simp only [hother, false_and, or_false]
    rfl

theorem historyOf_none {device : DeviceIdentity} (h : s.findDevice device = none) : s.historyOf device = [] := by
  rw [historyOf, h]
  rfl

theorem historyOf_some {device : DeviceIdentity} (h : s.findDevice device = some entry) :
    s.historyOf device = entry.history := by
  rw [historyOf, h]
  rfl

theorem registerIncarnation_enrolled (h : s.registerIncarnation device = .ok t) : Enrolled device s t := by
  cases registerView_of_ok h with
  | entered hnone _ =>
    refine Enrolled.of_insert rfl ?_ rfl
    intro incarnation
    rw [historyOf_none hnone]
    simp
  | known hsome hknown =>
    refine ⟨?_, rfl⟩
    intro other incarnation
    constructor
    · exact Or.inl
    · rintro (hold | ⟨rfl, rfl⟩)
      · exact hold
      · exact (historyOf_some hsome).symm ▸ hknown
  | added hsome _ _ =>
    refine Enrolled.of_insert rfl ?_ rfl
    intro incarnation
    rw [historyOf_some hsome]
    simp [mem_sortIncarnations]

section

variable (s)

/-- The counter is raised past what it hands out. -/
theorem nextAfter_fresh : s.nextAfter s.freshIncarnation = s.freshIncarnation + 1 := by
  rw [nextAfter, nextSeen, freshIncarnation]
  split
  next hzero => rw [hzero, if_pos (by decide)]
  next => rw [if_pos le_rfl]

theorem refreshConflict_devices (device : DeviceIncarnationRef) (kind : CapabilityKind) (now : Tick) :
    (s.refreshConflict device kind now).incarnationTable = s.incarnationTable ∧
      (s.refreshConflict device kind now).nextIncarnation = s.nextIncarnation := by
  obtain ⟨_, _, hrefresh⟩ := s.refreshConflict_frame device kind now
  rw [hrefresh]
  exact ⟨rfl, rfl⟩

/-- An admission that gets to its stream registers its incarnation; another leaves the device table alone. -/
theorem admitRequest_devices (request : AdmissionRequest) (now : Tick) :
    ((∀ t, s.admissionRefusal request now = none → s.registerIncarnation request.device ≠ .ok t) ∧
      (s.admitRequest request now).2.incarnationTable = s.incarnationTable ∧
      (s.admitRequest request now).2.nextIncarnation = s.nextIncarnation) ∨
    s.admissionRefusal request now = none ∧ ∃ t, s.registerIncarnation request.device = .ok t ∧
      (s.admitRequest request now).2.incarnationTable = t.incarnationTable ∧
      (s.admitRequest request now).2.nextIncarnation = t.nextIncarnation := by
  generalize hop : s.admitRequest request now = result
  cases s.admitRequest_view hop with
  | refused hrefused =>
    refine .inl ⟨?_, rfl, rfl⟩
    intro t haccepted
    rw [hrefused] at haccepted
    cases haccepted
  | unregistered _ hbound =>
    refine .inl ⟨?_, rfl, rfl⟩
    intro t _ hregistered
    rw [hbound] at hregistered
    cases hregistered
  | fenced haccepted hregistered _ => exact .inr ⟨haccepted, _, hregistered, rfl, rfl⟩
  | duplicate ht _ | rejected ht _ _ _ => exact .inr ⟨ht.accepted, _, ht.registered, rfl, rfl⟩
  | @retained t ht _ _ _ =>
    refine .inr ⟨ht.accepted, t, ht.registered, ?_⟩
    exact refreshConflict_devices _ _ _ _
  | @exhausted t u ids ht _ hbudget =>
    refine .inr ⟨ht.accepted, t, ht.registered, ?_⟩
    obtain ⟨_, _, _, _, _, rfl⟩ := (evicts_of_budget hbudget).frame
    exact ⟨rfl, rfl⟩
  | @accepted t u ids ht _ hbudget =>
    refine .inr ⟨ht.accepted, t, ht.registered, ?_⟩
    obtain ⟨_, _, _, _, _, rfl⟩ := (evicts_of_budget hbudget).frame
    exact refreshConflict_devices _ _ _ _

theorem refreshAllConflicts_devices (now : Tick) : (s.refreshAllConflicts now).incarnationTable = s.incarnationTable ∧
      (s.refreshAllConflicts now).nextIncarnation = s.nextIncarnation := by
  obtain ⟨_, _, hrefresh⟩ := s.refreshAllConflicts_frame now
  rw [hrefresh]
  exact ⟨rfl, rfl⟩

/-- A device's next incarnation fails, or is entered and made the current one. -/
theorem beginDeviceIncarnation_cases (device : DeviceIdentity) (now : Tick) :
    ((s.beginDeviceIncarnation device now).1.ok = false ∧ (s.beginDeviceIncarnation device now).2 = s) ∨
    (s.beginDeviceIncarnation device now).1 = .success s.freshIncarnation .ok ∧
      Enrolled ⟨device, s.freshIncarnation⟩ s (s.beginDeviceIncarnation device now).2 ∧
      ((s.beginDeviceIncarnation device now).2.findDevice device).map DeviceIncarnationEntry.current =
        some s.freshIncarnation := by
  generalize hop : s.beginDeviceIncarnation device now = result
  cases s.beginDeviceIncarnation_view hop with
  | entered hnone _ =>
    refine .inr ⟨rfl, ?_, ?_⟩
    · refine Enrolled.of_insert rfl ?_ s.nextAfter_fresh.symm
      intro incarnation
      rw [historyOf_none hnone]
      simp
    · rw [findDevice, bumpPolicyRevision]
      dsimp only
      rw [find?_insert_self]
      rfl
  | begun hsome _ =>
    refine .inr ⟨rfl, ?_, ?_⟩
    · refine Enrolled.of_insert (refreshAllConflicts_devices _ now).1 ?_
        ((refreshAllConflicts_devices _ now).2.trans s.nextAfter_fresh.symm)
      intro incarnation
      rw [historyOf_some hsome]
      simp [mem_sortIncarnations]
    · rw [findDevice, (refreshAllConflicts_devices _ now).1, bumpPolicyRevision]
      dsimp only
      rw [find?_insert_self]
      rfl
  | _ => exact .inl ⟨rfl, rfl⟩

end

/-- Making an incarnation current leaves the histories alone. -/
theorem setCurrent_enrolled {target : DeviceIncarnationRef} (h : Enrolled device s t) :
    Enrolled device s (t.setCurrent target) := by
  rw [setCurrent]
  cases hentry : t.findDevice target.device with
  | none => exact h
  | some entry =>
    refine ⟨?_, h.next⟩
    intro other incarnation
    rw [← h.history, historyOf, historyOf, findDevice]
    dsimp only
    rw [find?_insert]
    by_cases hother : other = target.device
    · rw [if_pos hother, hother, hentry]
      rfl
    · rw [if_neg hother]
      rfl

theorem setDeviceIncarnation_cases (s : Registry) (device : DeviceIdentity) (incarnation : IncarnationId) (now : Tick) :
    (s.setDeviceIncarnation device incarnation now).2 = s ∨
      incarnation ≠ 0 ∧ Enrolled ⟨device, incarnation⟩ s (s.setDeviceIncarnation device incarnation now).2 := by
  generalize hop : s.setDeviceIncarnation device incarnation now = result
  cases s.setDeviceIncarnation_view hop with
  | refused => exact .inl rfl
  | kept hnonzero hregistered _ => exact .inr ⟨hnonzero, registerIncarnation_enrolled hregistered⟩
  | changed hnonzero hregistered _ =>
    have henrolled := registerIncarnation_enrolled hregistered
    refine .inr ⟨hnonzero, ?_⟩
    exact (setCurrent_enrolled henrolled).congr (refreshAllConflicts_devices _ now).1
      (refreshAllConflicts_devices _ now).2

/-- Only admissions, incarnations and adoption touch the device table. -/
theorem Touches.devices (h : Touches s op t) (hop : op.editsDevices = false)
    (hadmitted : ∀ request now, op ≠ .admitRequest request now) :
    t.incarnationTable = s.incarnationTable ∧ t.nextIncarnation = s.nextIncarnation := by
  cases h with
  | admitted _ => exact absurd rfl (hadmitted _ _)
  | incarnated hedits _ _ _ _ _ _ => exact absurd hedits (by simp [hop])
  | _ => exact ⟨rfl, rfl⟩

/-- An operation other than adoption leaves the histories and the counter alone, or enters the incarnation it is
    about. -/
theorem step_enrolled (s : Registry) (hadopt : op.Ordinary) :
    ((s.step op).historyOf = s.historyOf ∧ (s.step op).nextIncarnation = s.nextIncarnation) ∨
      ∃ device, s.enrolls op = some device ∧ Enrolled device s (s.step op) := by
  rcases op.made_or .admitRequest with ⟨request, now, rfl⟩ | hadmitted
  · rcases s.admitRequest_devices request now with ⟨_, htable, hnext⟩ | ⟨haccepted, t, hregistered, htable, hnext⟩
    · exact .inl ⟨historyOf_congr htable, hnext⟩
    · exact .inr ⟨request.device, if_pos haccepted, (registerIncarnation_enrolled hregistered).congr htable hnext⟩
  · cases hop : op.editsDevices with
    | false =>
      obtain ⟨htable, hnext⟩ := (s.step_touches hadopt).devices hop hadmitted
      exact .inl ⟨historyOf_congr htable, hnext⟩
    | true =>
      cases op with
      | beginDeviceIncarnation device now =>
        rcases s.beginDeviceIncarnation_cases device now with ⟨_, hsame⟩ | ⟨_, henrolled, _⟩
        · rw [step, hsame]
          exact .inl ⟨rfl, rfl⟩
        · exact .inr ⟨_, rfl, henrolled⟩
      | setDeviceIncarnation device incarnation now =>
        rcases s.setDeviceIncarnation_cases device incarnation now with hsame | ⟨hnonzero, henrolled⟩
        · rw [step, hsame]
          exact .inl ⟨rfl, rfl⟩
        · exact .inr ⟨_, if_neg hnonzero, henrolled⟩
      | _ => cases hop

/-! ### The counter ahead of everything -/

/-- The counter is above every incarnation that a history, a stream or a tombstone has. -/
structure Ahead (s : Registry) : Prop where
  histories : ∀ device, ∀ incarnation ∈ s.historyOf device, incarnation < s.nextIncarnation
  streams : s.AllStreams (fun key _ => key.device.incarnation < s.nextIncarnation)
  tombstones : ∀ key tombstone, s.findTombstone key = some tombstone → key.device.incarnation < s.nextIncarnation

/-- A counter that does not run over rises above what it sees. -/
theorem lt_nextAfter (s : Registry) (hlast : incarnation ≠ lastIncarnation) :
    s.nextIncarnation ≤ s.nextAfter incarnation ∧ incarnation < s.nextAfter incarnation :=
  (nextSeen_le_iff hlast).mp le_rfl

/-- Streams an admission leaves were there before, or are of the incarnation it registered. -/
theorem find_streams_admitRequest {request : AdmissionRequest} {now : Tick} {stream : Stream}
    (h : (s.admitRequest request now).2.streams.find? key = some stream) : (∃ old, s.streams.find? key = some old) ∨
      key = request.key ∧ ∃ t, s.admissionRefusal request now = none ∧
        s.registerIncarnation request.device = .ok t := by
  refine admitRequest_allStreams (P := fun key _ => (∃ old, s.streams.find? key = some old) ∨
    key = request.key ∧ ∃ t, s.admissionRefusal request now = none ∧ s.registerIncarnation request.device = .ok t)
    ?_ ?_ ?_ ?_ ?_ key stream h
  · exact fun key old hfind => .inl ⟨old, hfind⟩
  · exact fun t haccepted hregistered => .inr ⟨rfl, t, haccepted, hregistered⟩
  · exact fun _ _ _ hold => hold
  · exact fun _ _ _ _ hold => hold
  · exact fun _ _ _ _ _ hold => hold

theorem Ahead.init (policy : RegistryPolicy) : (init policy).Ahead where
  histories _ _ hmem := nomatch hmem
  streams _ _ hfind := nomatch hfind
  tombstones _ _ hfind := nomatch hfind

section

variable (h : s.Ahead) (hle : s.nextIncarnation ≤ t.nextIncarnation)
include h hle

/-- Everything of the counter's registry is of an incarnation below the new counter. -/
theorem Ahead.below :
    ((∃ stream, s.streams.find? key = some stream) ∨ ∃ tombstone, s.findTombstone key = some tombstone) →
      key.device.incarnation < t.nextIncarnation := by
  rintro (⟨stream, hfind⟩ | ⟨tombstone, hfind⟩)
  · exact (h.streams key stream hfind).trans_le hle
  · exact (h.tombstones key tombstone hfind).trans_le hle

/-- Entering an incarnation below the last one keeps the counter ahead, where streams and tombstones are old or of that
    incarnation. -/
theorem Ahead.grown (hhistories : ∀ device, ∀ incarnation ∈ t.historyOf device, incarnation < t.nextIncarnation)
    (hstreams : ∀ key stream, t.streams.find? key = some stream → ((∃ old, s.streams.find? key = some old) ∨
      ∃ old, s.findTombstone key = some old) ∨ key.device.incarnation < t.nextIncarnation)
    (htombstones : ∀ key tombstone, t.findTombstone key = some tombstone → (∃ old, s.streams.find? key = some old) ∨
      ∃ old, s.findTombstone key = some old) :
    t.Ahead where
  histories := hhistories
  streams key stream hfind := by
    rcases hstreams key stream hfind with hold | hnew
    · exact h.below hle hold
    · exact hnew
  tombstones key tombstone hfind := h.below hle (htombstones key tombstone hfind)

end

/-- A step other than adoption that does not enter the last incarnation keeps the counter ahead. -/
theorem Ahead.step (h : s.Ahead) (hadopt : op.Ordinary)
    (hlast : ∀ device, s.enrolls op = some device → device.incarnation ≠ lastIncarnation) : (s.step op).Ahead := by
  -- the counter does not fall, and is above what the step enters
  have hcounter : s.nextIncarnation ≤ (s.step op).nextIncarnation ∧
      ∀ device, ∀ incarnation ∈ (s.step op).historyOf device, incarnation < (s.step op).nextIncarnation := by
    rcases s.step_enrolled hadopt with ⟨hhistory, hnext⟩ | ⟨device, henrolls, henrolled⟩
    · rw [hhistory, hnext]
      exact ⟨le_rfl, h.histories⟩
    · obtain ⟨hle, hlt⟩ := s.lt_nextAfter (hlast device henrolls)
      rw [henrolled.next]
      refine ⟨hle, ?_⟩
      intro other incarnation hmem
      rcases (henrolled.history other incarnation).mp hmem with hold | ⟨_, rfl⟩
      · exact (h.histories other incarnation hold).trans_le hle
      · exact hlt
  obtain ⟨hle, hhistories⟩ := hcounter
  rcases s.step_cases hadopt with ⟨request, now, rfl, hstep⟩ | ⟨retirement, now, rfl, hstep⟩ | hframe
  · refine h.grown hle hhistories ?_ ?_
    · intro key stream hfind
      rcases find_streams_admitRequest hfind with hold | ⟨rfl, t, haccepted, hregistered⟩
      · exact .inl (.inl hold)
      · right
        rcases s.admitRequest_devices request now with ⟨hstopped, _⟩ | ⟨_, u, hregistered, htable, hnext⟩
        · exact absurd hregistered (hstopped t haccepted)
        · have henrolled := (registerIncarnation_enrolled hregistered).congr htable hnext
          exact hhistories request.device.device request.device.incarnation
            ((henrolled.history _ _).mpr (.inr ⟨rfl, rfl⟩))
    · intro key tombstone hfind
      rw [step, findTombstone, tombstones_admitRequest] at hfind
      exact .inr ⟨tombstone, hfind⟩
  · refine h.grown hle hhistories ?_ ?_
    · intro key stream hfind
      exact .inl (.inl ((s.find_retire retirement now key).1 stream hfind))
    · intro key tombstone hfind
      rcases (s.find_retire retirement now key).2 tombstone hfind with hold | ⟨_, _, _, hstream⟩
      · exact .inr ⟨tombstone, hold⟩
      · exact .inl hstream
  · refine h.grown hle hhistories ?_ ?_
    · intro key stream hfind
      rw [hframe.streams] at hfind
      exact .inl (.inl ⟨stream, hfind⟩)
    · intro key tombstone hfind
      rw [findTombstone, hframe.tombstones] at hfind
      exact .inr ⟨tombstone, hfind⟩

theorem Ahead.congr (h : s.Ahead) (htable : t.incarnationTable = s.incarnationTable)
    (hnext : t.nextIncarnation = s.nextIncarnation) (hstreams : t.streams = s.streams)
    (htombstones : t.tombstones = s.tombstones) : t.Ahead where
  histories := by
    rw [historyOf_congr htable, hnext]
    exact h.histories
  streams := by
    rw [AllStreams, hstreams, hnext]
    exact h.streams
  tombstones key tombstone hfind := by
    rw [findTombstone, htombstones] at hfind
    rw [hnext]
    exact h.tombstones key tombstone hfind

end Registry

/-! ### Stored states -/

/-- The counter of a stored state is above every incarnation that a history, a record or a tombstone of it has. -/
structure RegistryState.Ahead (state : RegistryState) : Prop where
  histories : ∀ entry ∈ state.incarnations, ∀ incarnation ∈ entry.history, incarnation < state.nextIncarnation
  records : ∀ record ∈ state.records, record.evidence.key.device.incarnation < state.nextIncarnation
  tombstones : ∀ tombstone ∈ state.tombstones, tombstone.key.device.incarnation < state.nextIncarnation

namespace Registry

variable {s : Registry}

/-- What such a state restores to has its counter ahead too. A counter of zero is restored as one. -/
theorem Ahead.adopt {state : RegistryState} (h : state.Ahead) : (Registry.adopt state).Ahead := by
  have hle : ∀ incarnation : IncarnationId, incarnation < state.nextIncarnation →
      incarnation < (Registry.adopt state).nextIncarnation := by
    intro incarnation hlt
    rw [Registry.adopt]
    dsimp only
    rw [if_neg (fun hzero => absurd (hzero ▸ hlt) UInt64.not_lt_zero)]
    exact hlt
  constructor
  · intro device incarnation hmem
    cases hentry : (Registry.adopt state).findDevice device with
    | none =>
      rw [historyOf_none hentry] at hmem
      cases hmem
    | some entry =>
      rw [historyOf_some hentry] at hmem
      have hlisted := (SortedMap.find?_foldl_insert_mem DeviceIncarnationEntry.device state.incarnations hentry).1
      exact hle incarnation (h.histories entry hlisted incarnation hmem)
  · intro key stream hfind
    obtain ⟨record, hrecord⟩ := exists_mem_restored hfind
    obtain ⟨hlisted, rfl⟩ := (mem_restored hfind).mp hrecord
    exact hle _ (h.records record hlisted)
  · intro key tombstone hfind
    obtain ⟨hlisted, rfl⟩ := SortedMap.find?_foldl_insert_mem RetirementRecord.key state.tombstones hfind
    exact hle _ (h.tombstones tombstone hlisted)

/-- Registries whose counter has not run over: no operation entered the last incarnation, and the stored states that
    came in had their counters ahead. -/
inductive Paced : Registry → Prop
  | init (policy : RegistryPolicy) : Paced (init policy)
  | restore (policy : RegistryPolicy) {state : RegistryState} (hstate : state.Ahead) :
      Paced (restore policy state)
  | step {s : Registry} (hs : Paced s) {op : Op}
      (hlast : ∀ device, s.enrolls op = some device → device.incarnation ≠ lastIncarnation)
      (hadopted : ∀ state now, op = .adoptState state now → state.Ahead) : Paced (s.step op)

theorem Paced.ahead (h : s.Paced) : s.Ahead := by
  induction h with
  | init policy => exact .init policy
  | restore policy hstate => exact (Ahead.adopt hstate).congr rfl rfl rfl rfl
  | @step s _ op hlast hadopted ih =>
    rcases op.made_or .adoptState with ⟨state, now, rfl⟩ | hadopt
    · have hrefresh := refreshAllConflicts_devices (s.rebooted state now) (resumeTick state now)
      have hevidence := refreshAllConflicts_evidence (resumeTick state now) (.refl (s.rebooted state now))
      exact (Ahead.adopt (hadopted state now rfl)).congr hrefresh.1 hrefresh.2 hevidence.streams hevidence.tombstones
    · exact ih.step hadopt hlast

/-! ### New incarnations -/

/-- What a new incarnation of a device is: not zero, in no history, without records and tombstones of its own, and
    once it is the current one nothing that is stored for the device is active. -/
structure BeginsFresh (s : Registry) (device : DeviceIdentity) (now : Tick) (incarnation : IncarnationId) : Prop where
  nonzero : incarnation ≠ 0
  unseen : ∀ other, incarnation ∉ s.historyOf other
  unattached : ∀ key : EvidenceKey, key.device = ⟨device, incarnation⟩ →
    (s.streamAt key).records = [] ∧ s.findTombstone key = none
  inactive : ∀ old kind tick override,
    ∀ fact ∈ ((s.beginDeviceIncarnation device now).2.derive ⟨device, old⟩ kind tick override).facts,
      fact.state ≠ .active

/-- The counter that is handed out is above everything below it. -/
theorem le_freshIncarnation (s : Registry) : s.nextIncarnation ≤ s.freshIncarnation := by
  rw [freshIncarnation]
  split
  next hzero =>
    rw [hzero]
    decide
  next => exact le_rfl

theorem freshIncarnation_ne_zero (s : Registry) : s.freshIncarnation ≠ 0 := by
  rw [freshIncarnation]
  split
  · decide
  next hzero => exact hzero

end Registry

/-- As long as the counter has not run over, a device's next incarnation is fresh. -/
theorem new_incarnation_fresh {s : Registry} (hs : s.Paced) {device : DeviceIdentity} {now : Tick}
    {incarnation : IncarnationId} (hok : (s.beginDeviceIncarnation device now).1 = .success incarnation .ok) :
    s.BeginsFresh device now incarnation := by
  have hahead := hs.ahead
  rcases s.beginDeviceIncarnation_cases device now with ⟨hfailed, _⟩ | ⟨hsuccess, _, hcurrent⟩
  · rw [hok] at hfailed
    cases hfailed
  rw [hok] at hsuccess
  cases hsuccess
  have hstreams : (s.beginDeviceIncarnation device now).2.streams = s.streams := by
    have hframe : EvidenceFrame s (s.step (.beginDeviceIncarnation device now)) :=
      s.step_frame (by simp) (by simp) nofun
    exact hframe.streams
  have hfresh : ∀ old : IncarnationId, old < s.nextIncarnation → old ≠ s.freshIncarnation :=
    fun old hlt => (hlt.trans_le s.le_freshIncarnation).ne
  constructor
  · exact s.freshIncarnation_ne_zero
  · intro other hmem
    exact hfresh _ (hahead.histories other _ hmem) rfl
  · intro key hkey
    have hdevice : key.device.incarnation = s.freshIncarnation := by rw [hkey]
    constructor
    · cases hfind : s.streams.find? key with
      | none => rw [streamAt_of_find_none hfind]; rfl
      | some stream => exact absurd hdevice (hfresh _ (hahead.streams key stream hfind))
    · cases hfind : s.findTombstone key with
      | none => rfl
      | some tombstone => exact absurd hdevice (hfresh _ (hahead.tombstones key tombstone hfind))
  · intro old kind tick override fact hfact hactive
    obtain ⟨key, stream, entry, hfind, hdevice, _, _, heligible⟩ :=
      passes_of_fact hfact (.inl hactive)
    have hbelow : key.device.incarnation < s.nextIncarnation := by
      rw [findStream, hstreams] at hfind
      exact hahead.streams key stream hfind
    -- only records of the current incarnation are active, and nothing is of that one yet
    have hold := heligible.current
    rw [hdevice, hcurrent] at hold
    rw [hdevice] at hbelow
    exact hfresh _ hbelow (Option.some_inj.mp hold).symm

namespace Lab

/-- The report is of its device's first incarnation. -/
theorem oneReport_paced : oneReport.Paced := by
  apply Paced.step (.init policy)
  · intro device henrolls
    have hdevice : (init policy).enrolls (.admitRequest (request 0 1 5) 5) = some (Lab.device 0) := by
      decide +kernel
    rw [hdevice] at henrolls
    cases henrolls
    decide
  · intro state now h
    cases h

end Lab

/-- The second incarnation of the device is fresh. -/
theorem second_incarnation_fresh :
    (oneReport.beginDeviceIncarnation (device 0).device 6).1 = .success 2 .ok ∧
      oneReport.BeginsFresh (device 0).device 6 2 := by
  have hok : (oneReport.beginDeviceIncarnation (device 0).device 6).1 = .success 2 .ok := by decide +kernel
  exact ⟨hok, new_incarnation_fresh oneReport_paced hok⟩

/-- When the last incarnation was set in between, the counter has run over: the device begins the incarnation it began
    with, and its report is active again. -/
theorem wrapped_incarnation_reused :
    let s := oneReport.step (.setDeviceIncarnation (device 0).device lastIncarnation 6)
    s.Reachable ∧ (s.beginDeviceIncarnation (device 0).device 7).1 = .success 1 .ok ∧
      1 ∈ s.historyOf (device 0).device ∧ (device 0).incarnation = 1 ∧
      (((s.beginDeviceIncarnation (device 0).device 7).2.derive (device 0) .packetClassification 8 0).facts.map
        DerivedFact.state) = [.active] := by
  refine ⟨((Reachable.init policy).step _).step _, ?_⟩
  decide +kernel

end Ocreg
