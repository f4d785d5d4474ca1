/-
Module: Ocreg.Proofs.Interleaving
Purpose: Concurrent ingest. Sequences of requests that share no stream, admitted one by one in any interleaving:
  streams, devices, counters and conflicts end up the same, and so does the whole snapshot unless the next incarnation
  wraps around at different points.
-/
import Ocreg.Lib.Interleave
import Ocreg.Proofs.ConflictTable
import Ocreg.Proofs.Delivery

namespace Ocreg

open List Registry Lab

variable {xs ys incarnations : List IncarnationId} {offered : Set Bytes}

/-! ### Receipts -/

/-- The record goes into its stream. -/
def Receipt.stored : Receipt → Bool
  | .rejected | .accepted => true
  | _ => false

/-- The counter a receipt moves. -/
def Receipt.count (receipt : Receipt) (counters : RegistryCounters) : RegistryCounters :=
  match receipt with
  | .refused | .fenced | .rejected => { counters with admissionsRejected := counters.admissionsRejected + 1 }
  | .duplicate => { counters with admissionsIdempotent := counters.admissionsIdempotent + 1 }
  | .accepted => { counters with admissionsAccepted := counters.admissionsAccepted + 1 }

/-- The group of the request's stream. -/
def AdmissionRequest.owner (request : AdmissionRequest) : DeviceIncarnationRef × CapabilityKind :=
  (request.device, request.kind)

theorem Receipt.count_comm (a b : Receipt) (counters : RegistryCounters) :
    b.count (a.count counters) = a.count (b.count counters) := by
  cases a <;> cases b <;> rfl

namespace Registry

variable {s t : Registry} {now : Tick} {request : AdmissionRequest} {requests others : List AdmissionRequest}

/-- What becomes of each request, one after the other. -/
def receipts (s : Registry) (now : Tick) : List AdmissionRequest → List (AdmissionRequest × Receipt)
  | [] => []
  | request :: rest =>
    (request, s.receipt now (s.streamAt request.key) request) :: (s.delivered now request).receipts now rest

/-- What becomes of the requests of one stream. -/
def receiptsIn (s : Registry) (now : Tick) (stream : Stream) :
    List AdmissionRequest → List (AdmissionRequest × Receipt)
  | [] => []
  | request :: rest =>
    (request, s.receipt now stream request) :: s.receiptsIn now (s.received now stream request) rest

theorem Settled.receiptsIn (h : Settled s t) (now : Tick) (stream : Stream) (requests : List AdmissionRequest) :
    t.receiptsIn now stream requests = s.receiptsIn now stream requests := by
  induction requests generalizing stream with
  | nil => rfl
  | cons request requests ih => rw [Registry.receiptsIn, Registry.receiptsIn, h.receipt, h.received, ih]

theorem receipts_filter (s : Registry) (now : Tick) (requests : List AdmissionRequest) (key : EvidenceKey) :
    (s.receipts now requests).filter (fun entry => entry.1.key == key) =
      s.receiptsIn now (s.streamAt key) (requests.filter (fun request => request.key == key)) := by
  induction requests generalizing s with
  | nil => rfl
  | cons request requests ih =>
    rw [receipts]
    by_cases hkey : request.key = key
    · subst hkey
      rw [filter_cons_of_pos (by simp), filter_cons_of_pos (by simp), receiptsIn, ih,
        delivered_streamAt_self, (Settled.delivered s now request).receiptsIn]
    · rw [filter_cons_of_neg (by simp [hkey]), filter_cons_of_neg (by simp [hkey]), ih,
        delivered_streamAt_of_ne s now (Ne.symm hkey), (Settled.delivered s now request).receiptsIn]

/-- Stream by stream the same requests in the same order: each has the same receipt. -/
theorem receipts_perm (s : Registry) (now : Tick) (h : ∀ key, requests.filter (fun request => request.key == key) =
      others.filter (fun request => request.key == key)) :
    (s.receipts now requests).Perm (s.receipts now others) := by
  apply perm_of_filter_eq fun entry => entry.1.key
  intro key
  rw [receipts_filter, receipts_filter, h]

/-! ### Counters -/

/-- The conflict table is below its bound. -/
def TableRoom (s : Registry) : Prop := s.conflictTable.length < s.policy.limits.maxConflictGroups.toNat

theorem refreshedConflicts_counters (h : s.TableRoom) (device : DeviceIncarnationRef) (kind : CapabilityKind) :
    (s.refreshedConflicts device kind now).2 = s.counters := by
  generalize hop : s.refreshedConflicts device kind now = result
  cases s.refreshedConflicts_view hop with
  | dropped _ _ hfull => exact absurd h (not_lt.mpr hfull)
  | _ => rfl

theorem delivered_counters (h : s.TableRoom) (now : Tick) (request : AdmissionRequest) :
    (s.delivered now request).counters = (s.receipt now (s.streamAt request.key) request).count s.counters := by
  rw [delivered]
  cases s.receipt now (s.streamAt request.key) request with
  | refused | fenced | duplicate => rfl
  | _ =>
    apply refreshedConflicts_counters
    exact h

/-- Every delivery of the list finds room in the conflict table. -/
def TableRoomAlong (s : Registry) (now : Tick) (requests : List AdmissionRequest) : Prop :=
  Runs.Along (fun s request => s.delivered now request) (fun s _ => s.TableRoom) s requests

theorem deliver_counters (h : s.TableRoomAlong now requests) : (s.deliver now requests).counters =
      (s.receipts now requests).foldl (fun counters entry => entry.2.count counters) s.counters := by
  induction requests generalizing s with
  | nil => rfl
  | cons request requests ih =>
    refine (ih h.2).trans ?_
    rw [delivered_counters h.1, receipts, foldl_cons]

/-! ### Conflicts -/

section

variable (h : (s.conflictTable.map ConflictGroup.owner).Nodup)
include h

theorem mem_refreshConflict (hroom : s.TableRoom) (device : DeviceIncarnationRef) (kind : CapabilityKind) (now : Tick)
    (group : ConflictGroup) : group ∈ (s.refreshConflict device kind now).conflictTable ↔
      if group.owner = (device, kind) then (s.refreshConflict device kind now).Describes now group
      else group ∈ s.conflictTable := by
  refine (mem_refreshedConflicts h hroom).trans ?_
  split
  next howner =>
    rw [Describes, derive_refreshConflict]
    obtain ⟨rfl, rfl⟩ := Prod.mk.inj howner
    constructor
    · rintro (⟨_, hne⟩ | hderived)
      · exact absurd howner hne
      · exact hderived
    · exact Or.inr
  next hother =>
    constructor
    · rintro (⟨hgroup, _⟩ | ⟨_, rfl⟩)
      · exact hgroup
      · exact absurd rfl hother
    · exact fun hgroup => .inl ⟨hgroup, hother⟩

/-- A delivery that stores its record replaces what the table says about its group, and no other changes it. -/
theorem mem_conflicts_delivered (hroom : s.TableRoom) (now : Tick) (request : AdmissionRequest)
    (group : ConflictGroup) : group ∈ (s.delivered now request).conflictTable ↔
      if (s.receipt now (s.streamAt request.key) request).stored = true ∧ group.owner = request.owner then
        (s.delivered now request).Describes now group
      else group ∈ s.conflictTable := by
  rw [delivered]
  cases s.receipt now (s.streamAt request.key) request with
  | rejected | accepted =>
    simp only [Receipt.stored, true_and]
    apply mem_refreshConflict
    · exact h
    · exact hroom
  | _ =>
    rw [if_neg (by simp [Receipt.stored])]
    exact Iff.rfl

theorem owners_delivered (now : Tick)
    (request : AdmissionRequest) : ((s.delivered now request).conflictTable.map ConflictGroup.owner).Nodup := by
  rw [delivered]
  split
  · exact h
  · exact h
  · exact h
  · apply Grouped.owners_refreshed
    exact h
  · apply Grouped.owners_refreshed
    exact h

end

/-- A delivery leaves the derivation of every group it does not store into, if the device is registered. -/
theorem derive_delivered {device : DeviceIncarnationRef} {kind : CapabilityKind}
    (hdevice : (s.findDevice device.device).isSome = true)
    (hother : ¬ ((s.receipt now (s.streamAt request.key) request).stored = true ∧ (device, kind) = request.owner))
    (tick override : Tick) :
    (s.delivered now request).derive device kind tick override = s.derive device kind tick override := by
  have hsettled := Settled.delivered s now request
  have hraw : (s.delivered now request).rawFacts device kind tick override = s.rawFacts device kind tick override := by
    apply rawFacts_group_congr hsettled.policy hsettled.bootEpoch
    · rw [delivered_findDevice]
      split
      · obtain ⟨entry, hentry⟩ := Option.isSome_iff_exists.mp hdevice
        rw [hentry, Option.map_some, Option.map_some, seen]
        split
        · rfl
        · rfl
      · rfl
    · intro key hkeyDevice hkeyKind
      by_cases hkey : key = request.key
      · subst hkey
        have hnot : ¬ (s.receipt now (s.streamAt request.key) request).stored = true :=
          fun hstored => hother ⟨hstored, Prod.ext hkeyDevice.symm hkeyKind.symm⟩
        rw [delivered_streamAt_self, received]
        cases hreceipt : s.receipt now (s.streamAt request.key) request with
        | refused | fenced | duplicate => rfl
        | _ => exact absurd (by rw [hreceipt]; rfl) hnot
      · exact delivered_streamAt_of_ne s now hkey
  rw [derive, hraw]
  rfl

theorem findDevice_delivered_isSome {device : DeviceIdentity} (h : (s.findDevice device).isSome = true) (now : Tick)
    (request : AdmissionRequest) : ((s.delivered now request).findDevice device).isSome = true := by
  rw [delivered_findDevice]
  split
  · rfl
  · exact h

/-- Some request of the group was stored. -/
def Touched (entries : List (AdmissionRequest × Receipt)) (owner : DeviceIncarnationRef × CapabilityKind) : Prop :=
  ∃ entry ∈ entries, entry.2.stored = true ∧ owner = entry.1.owner

theorem touched_cons {entry : AdmissionRequest × Receipt} {entries : List (AdmissionRequest × Receipt)}
    {owner : DeviceIncarnationRef × CapabilityKind} :
    Touched (entry :: entries) owner ↔ (entry.2.stored = true ∧ owner = entry.1.owner) ∨ Touched entries owner := by
  simp only [Touched, mem_cons, exists_eq_or_imp]

theorem derive_deliver (device : DeviceIncarnationRef) (kind : CapabilityKind)
    (hdevice : (s.findDevice device.device).isSome = true)
    (h : ¬ Touched (s.receipts now requests) (device, kind)) (tick override : Tick) :
    (s.deliver now requests).derive device kind tick override = s.derive device kind tick override := by
  induction requests generalizing s with
  | nil => rfl
  | cons request requests ih =>
    rw [receipts, touched_cons, not_or] at h
    refine (ih (findDevice_delivered_isSome hdevice now request) h.2).trans ?_
    exact derive_delivered hdevice h.1 tick override

/-- A stored record's device is registered. -/
theorem findDevice_of_stored (h : (s.receipt now (s.streamAt request.key) request).stored = true) :
    ((s.delivered now request).findDevice request.device.device).isSome = true := by
  have hregisters : s.registers now request = true := by
    cases hcase : s.registers now request with
    | true => rfl
    | false =>
      rw [receipt_refused.mpr hcase] at h
      cases h
  rw [delivered_findDevice, hregisters, Bool.true_and, if_pos (beq_self_eq_true _)]
  rfl

open Classical in
/-- The table after a list of requests: what is derived in the end for the groups that were stored into, and what it
    said before about all others. -/
theorem mem_conflicts_deliver (howners : (s.conflictTable.map ConflictGroup.owner).Nodup)
    (hroom : s.TableRoomAlong now requests) (group : ConflictGroup) : group ∈ (s.deliver now requests).conflictTable ↔
      if Touched (s.receipts now requests) group.owner then (s.deliver now requests).Describes now group
      else group ∈ s.conflictTable := by
  induction requests generalizing s with
  | nil =>
    rw [if_neg (by simp [Touched, receipts])]
    exact Iff.rfl
  | cons request requests ih =>
    refine (ih (owners_delivered howners now request) hroom.2).trans ?_
    rw [receipts, touched_cons]
    by_cases hrest : Touched ((s.delivered now request).receipts now requests) group.owner
    · rw [if_pos hrest, if_pos (.inr hrest)]
      rfl
    · rw [if_neg hrest, mem_conflicts_delivered howners hroom.1]
      by_cases hstored : (s.receipt now (s.streamAt request.key) request).stored = true ∧ group.owner = request.owner
      · rw [if_pos hstored, if_pos (.inl hstored)]
        -- nothing after the request changes what its group derives
        have hdevice : ((s.delivered now request).findDevice group.device.device).isSome = true := by
          have hsame : group.device = request.device := congrArg Prod.fst hstored.2
          rw [hsame]
          exact findDevice_of_stored hstored.1
        have hderive := derive_deliver group.device group.kind hdevice hrest now 0
        rw [Describes, Describes, ← hderive]
        rfl
      · rw [if_neg hstored, if_neg (fun hor => hor.elim hstored hrest)]

theorem grouped_deliver (h : Grouped s.conflictTable) (now : Tick) (requests : List AdmissionRequest) :
    Grouped (s.deliver now requests).conflictTable := by
  induction requests generalizing s with
  | nil => exact h
  | cons request requests ih =>
    refine ih (s := s.delivered now request) ?_
    rw [delivered]
    split
    · exact h
    · exact h
    · exact h
    · apply Grouped.refreshed
      exact h
    · apply Grouped.refreshed
      exact h

end Registry

/-- Tables in order with the same entries are equal, when no two contents have one digest. -/
theorem Grouped.eq_of_mem_iff {xs ys : List ConflictGroup} (hx : Grouped xs) (hy : Grouped ys)
    (hinj : Set.InjOn Digest256.of offered) (hoffered : ∀ group ∈ xs, group.content ∈ offered)
    (h : ∀ group, group ∈ xs ↔ group ∈ ys) : xs = ys := by
  have hperm : xs.Perm ys :=
    (perm_ext_iff_of_nodup (Nodup.of_map _ hx.owners) (Nodup.of_map _ hy.owners)).mpr h
  refine hperm.eq_of_pairwise ?_ hx.ascends hy.ascends
  intro a b ha hb hab hba
  have hb := (h b).mpr hb
  have hid : Digest256.of a.content = Digest256.of b.content := by
    rw [← hx.ids a ha, ← hx.ids b hb]
    exact le_antisymm hab hba
  have hcontent := hinj (hoffered a ha) (hoffered b hb) hid
  exact inj_on_of_nodup_map hx.owners ha hb (ConflictGroup.content_injective hcontent).1

/-! ### Devices -/

theorem sortIncarnations_perm (h : xs.Perm ys) : sortIncarnations xs = sortIncarnations ys := by
  have hperm : (sortIncarnations xs).Perm (sortIncarnations ys) :=
    ((perm_insertionSort _ xs).trans h).trans (perm_insertionSort _ ys).symm
  refine hperm.eq_of_pairwise ?_ (Scan.insertionSort_ascends id xs) (Scan.insertionSort_ascends id ys)
  exact fun _ _ _ _ => le_antisymm

namespace Registry

variable {s t : Registry} {now : Tick} {request : AdmissionRequest} {requests others : List AdmissionRequest}

/-- A registered device takes incarnations in any order. -/
theorem seen_comm (a b : DeviceIncarnationRef) (entry : DeviceIncarnationEntry) :
    seen b (some (seen a (some entry))) = seen a (some (seen b (some entry))) := by
  by_cases ha : a.incarnation ∈ entry.history
  · by_cases hb : b.incarnation ∈ entry.history
    · simp [seen, ha, hb]
    · simp [seen, ha, hb, mem_sortIncarnations]
  · by_cases hb : b.incarnation ∈ entry.history
    · simp [seen, ha, hb, mem_sortIncarnations]
    · by_cases hab : a.incarnation = b.incarnation
      · simp [seen, hb, hab]
      · simp only [seen, contains_iff_mem, ha, hb, if_false, mem_sortIncarnations, mem_append,
          mem_singleton, hab, Ne.symm hab, false_or]
        congr 1
        apply sortIncarnations_perm
        have hinner : ∀ i : IncarnationId, (sortIncarnations (entry.history ++ [i])).Perm (entry.history ++ [i]) :=
          fun i => perm_insertionSort _ _
        refine ((hinner _).append_right _).trans (Perm.trans ?_ ((hinner _).append_right _).symm)
        rw [append_assoc, append_assoc]
        exact perm_append_comm.append_left _

theorem findDevice_deliver_eq (s : Registry) (now : Tick) (hperm : requests.Perm others)
    (hone : ∀ a ∈ requests, ∀ b ∈ requests,
      a.device.device = b.device.device → s.findDevice a.device.device = none →
        a.device.incarnation = b.device.incarnation) (device : DeviceIdentity) :
    (s.deliver now requests).findDevice device = (s.deliver now others).findDevice device := by
  rw [deliver_findDevice, deliver_findDevice]
  have hfilter := hperm.filter (fun request => s.registers now request && request.device.device == device)
  have hnamed : ∀ request ∈ requests.filter (fun request =>
      s.registers now request && request.device.device == device),
      request ∈ requests ∧ request.device.device = device := by
    intro request hrequest
    obtain ⟨hmem, htest⟩ := mem_filter.mp hrequest
    exact ⟨hmem, beq_iff_eq.mp (Bool.and_eq_true_iff.mp htest).2⟩
  generalize requests.filter (fun request => s.registers now request && request.device.device == device) = named
    at hfilter hnamed
  generalize others.filter (fun request => s.registers now request && request.device.device == device) = names
    at hfilter
  cases hfind : s.findDevice device with
  | some entry =>
    have hsome : ∀ (named : List AdmissionRequest) (entry : DeviceIncarnationEntry),
        named.foldl (fun entry request => some (seen request.device entry)) (some entry) =
          some (named.foldl (fun entry request => seen request.device (some entry)) entry) := by
      intro named
      induction named with
      | nil => exact fun _ => rfl
      | cons request named ih => exact fun entry => ih (seen request.device (some entry))
    rw [hsome, hsome]
    congr 1
    apply hfilter.foldl_eq'
    intro a _ b _ entry
    exact seen_comm a.device b.device entry
  | none =>
    -- the first incarnation is the only one
    have hkept : ∀ (ref : DeviceIncarnationRef) (named : List AdmissionRequest),
        (∀ request ∈ named, request.device = ref) → named ≠ [] →
          named.foldl (fun entry request => some (seen request.device entry)) none =
            some ⟨ref.device, ref.incarnation, [ref.incarnation]⟩ := by
      intro ref named hall hne
      obtain ⟨first, rest, rfl⟩ := exists_cons_of_ne_nil hne
      rw [foldl_cons, hall first mem_cons_self, seen]
      have hrest : ∀ request ∈ rest, request.device = ref :=
        fun request hrequest => hall request (mem_cons_of_mem first hrequest)
      clear hall hne
      induction rest with
      | nil => rfl
      | cons request rest ih =>
        rw [foldl_cons, hrest request mem_cons_self, seen, if_pos (contains_iff_mem.mpr (mem_singleton_self _))]
        exact ih fun other hother => hrest other (mem_cons_of_mem request hother)
    by_cases hempty : named = []
    · subst hempty
      rw [hfilter.nil_eq]
    · obtain ⟨first, hfirst⟩ := exists_mem_of_ne_nil named hempty
      have hall : ∀ request ∈ named, request.device = first.device := by
        intro request hrequest
        obtain ⟨hin, hdevice⟩ := hnamed request hrequest
        obtain ⟨hfirstIn, hfirstDevice⟩ := hnamed first hfirst
        have hincarnation := hone request hin first hfirstIn (hdevice.trans hfirstDevice.symm) (hdevice ▸ hfind)
        calc request.device = ⟨request.device.device, request.device.incarnation⟩ := rfl
          _ = ⟨first.device.device, first.device.incarnation⟩ := by rw [hdevice, hfirstDevice, hincarnation]
          _ = first.device := rfl
      rw [hkept first.device named hall hempty, hkept first.device names
        (fun request hrequest => hall request (hfilter.mem_iff.mpr hrequest)) (fun hnil => hempty (by
          subst hnil
          exact hfilter.eq_nil))]

/-! ### Snapshots -/

theorem flattenRecords_eq (h : ∀ key, t.streamAt key = s.streamAt key) : t.flattenRecords = s.flattenRecords := by
  have hread : ∀ s : Registry, s.flattenRecords = s.streams.entries.flatMap (fun entry => entry.2.records) := by
    intro s
    rw [flattenRecords, SortedMap.values, flatMap_map]
  rw [hread, hread]
  apply SortedMap.flatMap_entries_eq (d := Stream.empty)
  · exact fun _ => rfl
  · intro key
    have hstream : (t.streams.find? key).getD Stream.empty = (s.streams.find? key).getD Stream.empty := h key
    dsimp only
    rw [hstream]

/-- Stream by stream the same requests in the same order, one incarnation for a new device and room in the conflict
    table: the snapshots are equal up to the next incarnation. -/
theorem toState_eq_iff_next (hgrouped : Grouped s.conflictTable)
    (hkeys : ∀ key, requests.filter (fun request => request.key == key) = others.filter
        (fun request => request.key == key))
    (hone : ∀ a ∈ requests, ∀ b ∈ requests, a.device.device = b.device.device → s.findDevice a.device.device = none →
        a.device.incarnation = b.device.incarnation)
    (hroom : s.TableRoomAlong now requests) (hroom' : s.TableRoomAlong now others)
    (hinj : Set.InjOn Digest256.of offered)
    (hoffered : ∀ group ∈ (s.deliver now requests).conflictTable, group.content ∈ offered) :
    (s.deliver now requests).toState = (s.deliver now others).toState ↔
      (s.deliver now requests).nextIncarnation = (s.deliver now others).nextIncarnation := by
  have hone' := Settled.deliver s now requests
  have htwo := Settled.deliver s now others
  have hstreams : ∀ key, (s.deliver now requests).streamAt key = (s.deliver now others).streamAt key := by
    intro key
    rw [deliver_streamAt, deliver_streamAt, hkeys]
  have hdevices := findDevice_deliver_eq s now (perm_of_filter_eq AdmissionRequest.key hkeys) hone
  have hreceipts := receipts_perm s now hkeys
  have hcounters : (s.deliver now requests).counters = (s.deliver now others).counters := by
    rw [deliver_counters hroom, deliver_counters hroom']
    apply hreceipts.foldl_eq'
    intro a _ b _ counters
    exact Receipt.count_comm a.2 b.2 counters
  have hderive : (s.deliver now requests).derive = (s.deliver now others).derive := by
    funext device kind tick override
    have hraw : (s.deliver now requests).rawFacts device kind tick override =
        (s.deliver now others).rawFacts device kind tick override := by
      apply rawFacts_group_congr (hone'.policy.trans htwo.policy.symm) (hone'.bootEpoch.trans htwo.bootEpoch.symm)
      · rw [hdevices]
      · exact fun key _ _ => hstreams key
    rw [derive, hraw]
    rfl
  have hconflicts : (s.deliver now requests).conflictTable = (s.deliver now others).conflictTable := by
    apply Grouped.eq_of_mem_iff (grouped_deliver hgrouped now requests)
      (grouped_deliver hgrouped now others) hinj hoffered
    intro group
    rw [mem_conflicts_deliver hgrouped.owners hroom, mem_conflicts_deliver hgrouped.owners hroom']
    have htouched : Touched (s.receipts now requests) group.owner ↔ Touched (s.receipts now others) group.owner := by
      simp only [Touched, hreceipts.mem_iff]
    simp only [Describes, hderive]
    by_cases hmine : Touched (s.receipts now requests) group.owner
    · rw [if_pos hmine, if_pos (htouched.mp hmine)]
    · rw [if_neg hmine, if_neg (fun htheirs => hmine (htouched.mpr htheirs))]
  have htable : (s.deliver now requests).incarnationTable = (s.deliver now others).incarnationTable :=
    SortedMap.ext_find? hdevices
  constructor
  · exact congrArg RegistryState.nextIncarnation
  · intro hnext
    rw [toState, toState, hone'.policy, hone'.epoch, hone'.ruleGeneration, hone'.policyRevision, hone'.bootEpoch,
      hone'.storeGeneration, hone'.logicalTick, hnext, htable, flattenRecords_eq hstreams, flattenTombstones,
      flattenTombstones, hone'.tombstones, hconflicts, hone'.resolutions, hone'.evictions, hcounters, htwo.policy,
      htwo.epoch, htwo.ruleGeneration, htwo.policyRevision, htwo.bootEpoch, htwo.storeGeneration, htwo.logicalTick,
      htwo.tombstones, htwo.resolutions, htwo.evictions]

end Registry

/-! ### The next incarnation -/

theorem foldl_nextSeen_le_iff (h : ∀ i ∈ incarnations, i ≠ lastIncarnation) {next bound : IncarnationId} :
    incarnations.foldl nextSeen next ≤ bound ↔ next ≤ bound ∧ ∀ i ∈ incarnations, i < bound := by
  induction incarnations generalizing next with
  | nil => simp
  | cons i incarnations ih =>
    rw [foldl_cons, ih (fun j hj => h j (mem_cons_of_mem i hj)), nextSeen_le_iff (h i mem_cons_self)]
    simp only [mem_cons, forall_eq_or_imp]
    exact and_assoc

/-- A list whose incarnations are all covered by another leaves no greater counter. -/
theorem foldl_nextSeen_le (hx : ∀ i ∈ xs, i ≠ lastIncarnation) (hy : ∀ i ∈ ys, i ≠ lastIncarnation)
    (hcovered : ∀ b ∈ xs, ∃ c ∈ ys, b ≤ c) (next : IncarnationId) :
    xs.foldl nextSeen next ≤ ys.foldl nextSeen next := by
  obtain ⟨hnext, hbelow⟩ := (foldl_nextSeen_le_iff hy).mp (le_refl (ys.foldl nextSeen next))
  apply (foldl_nextSeen_le_iff hx).mpr
  refine ⟨hnext, fun b hb => ?_⟩
  obtain ⟨c, hc, hle⟩ := hcovered b hb
  exact lt_of_le_of_lt hle (hbelow c hc)

/-- The incarnations after the last wrap. -/
def sinceWrap (incarnations : List IncarnationId) : List IncarnationId :=
  incarnations.rtakeWhile (fun i => i != lastIncarnation)

theorem sinceWrap_ne {i : IncarnationId} (h : i ∈ sinceWrap incarnations) : i ≠ lastIncarnation := by
  simpa using mem_rtakeWhile_imp h

/-- A wrap forgets everything before it. -/
theorem foldl_nextSeen_wrapped (h : lastIncarnation ∈ incarnations) (next : IncarnationId) :
    incarnations.foldl nextSeen next = (sinceWrap incarnations).foldl nextSeen 0 := by
  obtain ⟨xs, a, ys, rfl, ha, hys⟩ := exists_last_failing (p := fun i => i != lastIncarnation)
    ⟨lastIncarnation, h, by simp⟩
  have hlast : a = lastIncarnation := by simpa using ha
  rw [sinceWrap, rtakeWhile_split (p := fun i => i != lastIncarnation) ha hys, foldl_append, foldl_cons,
      hlast, nextSeen_last]

namespace Registry

variable {ι : Type} [DecidableEq ι] {s : Registry} {now : Tick} {sequences : ι → List AdmissionRequest}
  {l l' : List (ι × AdmissionRequest)} {requests : List AdmissionRequest}

section

variable (s) (now)

/-- The incarnations that requests register. -/
def incarnationsOf (requests : List AdmissionRequest) : List IncarnationId :=
  (requests.filter (s.registers now)).map (fun request => request.device.incarnation)

theorem deliver_nextIncarnation (requests : List AdmissionRequest) :
    (s.deliver now requests).nextIncarnation = (s.incarnationsOf now requests).foldl nextSeen s.nextIncarnation := by
  induction requests generalizing s with
  | nil => rfl
  | cons request requests ih =>
    refine (ih (s.delivered now request)).trans ?_
    rw [(delivered_registered s now request).2, incarnationsOf, (Settled.delivered s now request).registers,
      incarnationsOf, filter_cons]
    cases s.registers now request <;> rfl

/-- Whenever a sequence registers the last incarnation, what it registers after that covers what any other sequence
    registers after its own last one. -/
def WrapsCovered (sequences : ι → List AdmissionRequest) : Prop :=
  ∀ i j, i ≠ j → lastIncarnation ∈ s.incarnationsOf now (sequences i) →
    ∀ b ∈ sinceWrap (s.incarnationsOf now (sequences j)), ∃ c ∈ sinceWrap (s.incarnationsOf now (sequences i)), b ≤ c

/-- The registered incarnations interleave as the requests do. -/
theorem incarnations_interleave (h : Interleaves sequences l) :
    ∃ tagged : List (ι × IncarnationId), Interleaves (fun i => s.incarnationsOf now (sequences i)) tagged ∧
      tagged.map Prod.snd = s.incarnationsOf now (l.map Prod.snd) := by
  refine ⟨_, h.image (s.registers now) (fun request => request.device.incarnation), ?_⟩
  rw [incarnationsOf, map_map, filter_map, map_map]
  rfl

end

/-- With every wrap covered, the tail of one interleaving is covered by the tail of another. -/
theorem WrapsCovered.tail_covered (hcovered : s.WrapsCovered now sequences) (h : Interleaves sequences l)
    (h' : Interleaves sequences l') (hwraps : lastIncarnation ∈ s.incarnationsOf now (l'.map Prod.snd)) :
    ∀ b ∈ sinceWrap (s.incarnationsOf now (l.map Prod.snd)),
      ∃ c ∈ sinceWrap (s.incarnationsOf now (l'.map Prod.snd)), b ≤ c := by
  intro b hb
  obtain ⟨tagged, htagged, hmap⟩ := incarnations_interleave s now h
  obtain ⟨tagged', htagged', hmap'⟩ := incarnations_interleave s now h'
  rw [sinceWrap, ← hmap] at hb
  obtain ⟨j, hj⟩ := htagged.mem_tail hb
  obtain ⟨i, ⟨a, ha, hlast⟩, htail⟩ := htagged'.exists_tail (p := fun i => i != lastIncarnation)
    ⟨lastIncarnation, by rw [hmap']; exact hwraps, by simp⟩
  have heq : a = lastIncarnation := by simpa using hlast
  rw [hmap'] at htail
  by_cases hij : i = j
  · subst hij
    exact ⟨b, htail b hj, le_refl b⟩
  · obtain ⟨c, hc, hle⟩ := hcovered i j hij (heq ▸ ha) b hj
    exact ⟨c, htail c hc, hle⟩

theorem incarnationsOf_append (s : Registry) (now : Tick) (xs ys : List AdmissionRequest) :
    s.incarnationsOf now (xs ++ ys) = s.incarnationsOf now xs ++ s.incarnationsOf now ys := by
  rw [incarnationsOf, filter_append, map_append]
  rfl

theorem incarnationsOf_perm (s : Registry) (now : Tick) (h : Interleaves sequences l) (h' : Interleaves sequences l') :
    (s.incarnationsOf now (l.map Prod.snd)).Perm (s.incarnationsOf now (l'.map Prod.snd)) :=
  (((h.perm h').map Prod.snd).filter _).map _

/-- If the counter does not depend on the order, every wrap is covered. -/
theorem wrapsCovered_of_eq (h : Interleaves sequences l)
    (hsame : ∀ l', Interleaves sequences l' → (s.deliver now (l'.map Prod.snd)).nextIncarnation =
      (s.deliver now (l.map Prod.snd)).nextIncarnation) : s.WrapsCovered now sequences := by
  intro i j _ hwraps b hb
  obtain ⟨front, li, hli, hmapi⟩ := h.exists_last i
  obtain ⟨back, lj, hlj, hmapj⟩ := h.exists_last j
  have heq := (hsame li hli).trans (hsame lj hlj).symm
  have hwrapsj : lastIncarnation ∈ s.incarnationsOf now (lj.map Prod.snd) := by
    apply (incarnationsOf_perm s now hli hlj).mem_iff.mp
    rw [hmapi, incarnationsOf_append]
    exact mem_append_right _ hwraps
  rw [deliver_nextIncarnation, deliver_nextIncarnation, foldl_nextSeen_wrapped hwrapsj, hmapi, incarnationsOf_append,
    foldl_append, foldl_nextSeen_wrapped hwraps] at heq
  have hin : b ∈ sinceWrap (s.incarnationsOf now (lj.map Prod.snd)) := by
    obtain ⟨xs, ys, hsplit, hpb, hys⟩ := mem_rtakeWhile.mp hb
    refine mem_rtakeWhile.mpr ⟨s.incarnationsOf now back ++ xs, ys, ?_, hpb, hys⟩
    rw [hmapj, incarnationsOf_append, hsplit, append_assoc]
  have hbelow : b < (sinceWrap (s.incarnationsOf now (sequences i))).foldl nextSeen 0 := by
    rw [heq]
    exact ((foldl_nextSeen_le_iff (fun _ => sinceWrap_ne)).mp (le_refl _)).2 b hin
  by_contra hno
  have hall : ∀ c ∈ sinceWrap (s.incarnationsOf now (sequences i)), c < b :=
    fun c hc => not_le.mp (fun hle => hno ⟨c, hc, hle⟩)
  have hle := (foldl_nextSeen_le_iff (fun _ => sinceWrap_ne)).mpr ⟨UInt64.zero_le, hall⟩
  exact absurd hbelow (not_lt.mpr hle)

theorem WrapsCovered.nextIncarnation_le (hcovered : s.WrapsCovered now sequences) (h : Interleaves sequences l)
    (h' : Interleaves sequences l') :
    (s.deliver now (l.map Prod.snd)).nextIncarnation ≤ (s.deliver now (l'.map Prod.snd)).nextIncarnation := by
  have hperm := incarnationsOf_perm s now h h'
  rw [deliver_nextIncarnation, deliver_nextIncarnation]
  by_cases hwraps : lastIncarnation ∈ s.incarnationsOf now (l.map Prod.snd)
  · have hwraps' := hperm.mem_iff.mp hwraps
    rw [foldl_nextSeen_wrapped hwraps, foldl_nextSeen_wrapped hwraps']
    exact foldl_nextSeen_le (fun _ => sinceWrap_ne) (fun _ => sinceWrap_ne) (hcovered.tail_covered h h' hwraps') 0
  · apply foldl_nextSeen_le
    · exact fun i hi heq => hwraps (heq ▸ hi)
    · exact fun i hi heq => hwraps (hperm.mem_iff.mpr (heq ▸ hi))
    · exact fun b hb => ⟨b, hperm.mem_iff.mp hb, le_refl b⟩

/-! ### Concurrent ingest -/

/-- No bound stands in the way of the request, that of the conflict table included. -/
def Spare (s : Registry) (request : AdmissionRequest) : Prop := s.Roomy request ∧ s.TableRoom

/-- Every request finds room when its turn comes. -/
def SpareAlong (s : Registry) (now : Tick) (requests : List AdmissionRequest) : Prop :=
  Runs.Along (fun s request => (s.admitRequest request now).2) Spare s requests

theorem SpareAlong.tableRoom (h : s.SpareAlong now requests) : s.TableRoomAlong now requests := by
  induction requests generalizing s with
  | nil => exact trivial
  | cons request requests ih =>
    have hrest : (s.admitRequest request now).2.SpareAlong now requests := h.2
    rw [admitRequest_roomy h.1.1 now] at hrest
    exact ⟨h.1.2, ih hrest⟩

theorem SpareAlong.admitRequests (h : s.SpareAlong now requests) :
    s.admitRequests now requests = s.deliver now requests :=
  admitRequests_roomy (Runs.Along.mono (fun _ _ hspare => hspare.1) h)

end Registry

/-- From every registry that comes about, sequences of requests that share no stream, name one incarnation for each new
    device and reach no bound end in the same snapshot in every interleaving exactly when every wrap of the incarnation
    counter is covered. -/
theorem interleaving_irrelevant_iff {ι : Type} [DecidableEq ι] {s : Registry} (hs : s.Grounded) (now : Tick)
    {offered : Set Bytes} {sequences : ι → List AdmissionRequest} {serial : List (ι × AdmissionRequest)}
    (hserial : Interleaves sequences serial)
    (hkeys : ∀ i j, ∀ a ∈ sequences i, ∀ b ∈ sequences j, a.key = b.key → i = j)
    (hdevices : ∀ i j, ∀ a ∈ sequences i, ∀ b ∈ sequences j, a.device.device = b.device.device →
      s.findDevice a.device.device = none → a.device.incarnation = b.device.incarnation)
    (hroom : ∀ l, Interleaves sequences l → s.SpareAlong now (l.map Prod.snd))
    (hinj : Set.InjOn Digest256.of offered)
    (hoffered : ∀ l, Interleaves sequences l →
      ∀ group ∈ (s.admitRequests now (l.map Prod.snd)).conflictTable, group.content ∈ offered) :
    (∀ l, Interleaves sequences l → (s.admitRequests now (l.map Prod.snd)).toState =
        (s.admitRequests now (serial.map Prod.snd)).toState) ↔ s.WrapsCovered now sequences := by
  have hnext : ∀ l, Interleaves sequences l → ((s.admitRequests now (l.map Prod.snd)).toState =
        (s.admitRequests now (serial.map Prod.snd)).toState ↔
      (s.deliver now (l.map Prod.snd)).nextIncarnation = (s.deliver now (serial.map Prod.snd)).nextIncarnation) := by
    intro l hl
    have hcontent := hoffered l hl
    rw [(hroom l hl).admitRequests] at hcontent
    rw [(hroom l hl).admitRequests, (hroom serial hserial).admitRequests]
    apply toState_eq_iff_next hs.grouped ?_ ?_ (hroom l hl).tableRoom (hroom serial hserial).tableRoom hinj
      hcontent
    · intro key
      apply hl.filter_eq hserial
      intro i j a ha b hb hakey hbkey
      exact hkeys i j a ha b hb ((beq_iff_eq.mp hakey).trans (beq_iff_eq.mp hbkey).symm)
    · intro a ha b hb
      obtain ⟨i, hi⟩ := hl.mem_map_iff.mp ha
      obtain ⟨j, hj⟩ := hl.mem_map_iff.mp hb
      exact hdevices i j a hi b hj
  constructor
  · intro hsame
    exact wrapsCovered_of_eq hserial fun l hl => (hnext l hl).mp (hsame l hl)
  · intro hcovered l hl
    apply (hnext l hl).mpr
    exact le_antisymm (hcovered.nextIncarnation_le hl hserial) (hcovered.nextIncarnation_le hserial hl)

namespace Lab

/-- A report of the given incarnation of a device. -/
def incarnated (unit : UInt32) (incarnation : IncarnationId) : AdmissionRequest :=
  { request unit 1 5 with device := { device unit with incarnation } }

/-- One report each from two sources of requests. -/
def pair (a b : AdmissionRequest) : Bool → List AdmissionRequest
  | false => [a]
  | true => [b]

theorem pair_interleaves (a b : AdmissionRequest) : Interleaves (pair a b) [(false, a), (true, b)] ∧
    Interleaves (pair a b) [(true, b), (false, a)] := by
  constructor
  · intro i
    cases i <;> rfl
  · intro i
    cases i <;> rfl

/-- Two reports can come in two orders. -/
theorem pair_cases {a b : AdmissionRequest} {l : List (Bool × AdmissionRequest)} (h : Interleaves (pair a b) l) :
    l = [(false, a), (true, b)] ∨ l = [(true, b), (false, a)] := by
  have hperm := h.perm (pair_interleaves a b).1
  obtain ⟨x, y, rfl⟩ := length_eq_two.mp hperm.length_eq
  rcases mem_pair.mp (hperm.mem_iff.mp mem_cons_self) with rfl | rfl
  · rw [singleton_perm_singleton.mp hperm.cons_inv]
    exact .inl rfl
  · rw [singleton_perm_singleton.mp (hperm.trans (Perm.swap _ _ [])).cons_inv]
    exact .inr rfl

end Lab

/-- A report of the last incarnation of one device and one of incarnation five of another: which comes first decides
    the next incarnation. -/
theorem wrapped_incarnation_order :
    let a := incarnated 0 lastIncarnation
    let b := incarnated 1 5
    Interleaves (pair a b) [(false, a), (true, b)] ∧ Interleaves (pair a b) [(true, b), (false, a)] ∧
      ((init policy).admitRequests 5 [a, b]).toState.nextIncarnation = 6 ∧
      ((init policy).admitRequests 5 [b, a]).toState.nextIncarnation = 0 := by
  intro a b
  refine ⟨(pair_interleaves a b).1, (pair_interleaves a b).2, ?_, ?_⟩
  · decide +kernel
  · decide +kernel

/-- Reports of two devices. -/
theorem interleaving_irrelevant_two_devices :
    ((init policy).admitRequests 5 [incarnated 1 5, incarnated 0 1]).toState =
      ((init policy).admitRequests 5 [incarnated 0 1, incarnated 1 5]).toState := by
  have hboth : ∀ (P : List (Bool × AdmissionRequest) → Prop),
      P [(false, incarnated 0 1), (true, incarnated 1 5)] →
      P [(true, incarnated 1 5), (false, incarnated 0 1)] →
      ∀ l, Interleaves (pair (incarnated 0 1) (incarnated 1 5)) l → P l := by
    intro P hfirst hsecond l hl
    rcases pair_cases hl with rfl | rfl
    · exact hfirst
    · exact hsecond
  have hspare : ∀ {s : Registry} {request : AdmissionRequest}, (s.registerIncarnation request.device).isOk = true →
      s.countStreams < s.policy.limits.maxStreams.toNat → s.totalRecords < s.policy.limits.maxRecords.toNat →
      (s.streamAt request.key).records.length < s.policy.limits.maxRecordsPerStream.toNat →
      s.conflictTable.length < s.policy.limits.maxConflictGroups.toNat → s.Spare request :=
    fun hdevice hstreams htotal hrecords htable => ⟨roomy_of_isOk hdevice hstreams htotal hrecords, htable⟩
  refine (interleaving_irrelevant_iff (.init policy) 5 (pair_interleaves _ _).1 ?_ ?_ ?_
    (Set.injOn_empty Digest256.of) ?_).mpr ?_ _ (pair_interleaves _ _).2
  · decide +kernel
  · decide +kernel
  · apply hboth
    · refine ⟨hspare ?_ ?_ ?_ ?_ ?_, hspare ?_ ?_ ?_ ?_ ?_, trivial⟩ <;> decide +kernel
    · refine ⟨hspare ?_ ?_ ?_ ?_ ?_, hspare ?_ ?_ ?_ ?_ ?_, trivial⟩ <;> decide +kernel
  · apply hboth
    · have hempty : ((init policy).admitRequests 5
          [incarnated 0 1, incarnated 1 5]).conflictTable = [] := by decide +kernel
      exact fun group hgroup => nomatch hempty ▸ hgroup
    · have hempty : ((init policy).admitRequests 5
          [incarnated 1 5, incarnated 0 1]).conflictTable = [] := by decide +kernel
      exact fun group hgroup => nomatch hempty ▸ hgroup
  · intro i j _ hlast
    have hnone : ∀ i, lastIncarnation ∉ (init policy).incarnationsOf 5
        (pair (incarnated 0 1) (incarnated 1 5) i) := by decide +kernel
    exact absurd hlast (hnone i)

end Ocreg
