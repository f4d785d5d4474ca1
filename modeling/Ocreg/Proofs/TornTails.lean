/-
Module: Ocreg.Proofs.TornTails
Purpose: Entries written by one lifetime of a store and a part of another one: the scanner finds the whole entries and
  nothing else, as long as the length of their payloads fits the field that the header has for it.
-/
import Ocreg.Proofs.JournalScans

namespace Ocreg

open List FrameLog Lab

variable {tail : Bytes} {entry : JournalHeader × Bytes} {entries : List (JournalHeader × Bytes)}
  {limits : StoreLimits} {offered : Set Bytes}

/-! ### Calls of append -/

/-- A call of `append`, with the generation of the state the store was last given. -/
structure Appending where
  kind : JournalKind
  payload : Bytes
  now : Tick
  generation : StoreGeneration

namespace Store

section

variable (store : Store) (appending : Appending)

/-- The store when it is asked to append. -/
def given : Store := { store with generation := appending.generation }

def appendCall : Call :=
  (store.given appending).append appending.kind appending.payload appending.now {}

/-- The entry the call writes. -/
def entryAt : JournalHeader × Bytes :=
  ((store.given appending).nextHeader appending.kind appending.payload appending.now, appending.payload)

end

/-- Calls one after the other, as long as each returns a token: the store and the files after them. -/
def appends : Store → Disk → List Appending → Option (Store × Disk)
  | store, disk, [] => some (store, disk)
  | store, disk, appending :: rest =>
    let call := store.appendCall appending
    if call.outcome.ok then call.store.appends (disk.after call.steps) rest else none

/-- The entries the calls write. -/
def entriesOf : Store → List Appending → List (JournalHeader × Bytes)
  | _, [] => []
  | store, appending :: rest => store.entryAt appending :: (store.appendCall appending).store.entriesOf rest

end Store

/-- An entry as it stands in the file. -/
def entryFrame (entry : JournalHeader × Bytes) : Bytes := journalFrame entry.1 entry.2

/-- The payload of the last state among the entries. -/
def lastSnapshot (entries : List (JournalHeader × Bytes)) : Bytes :=
  ((entries.filter (fun entry => entry.1.kind = .stateSnapshot)).getLast?.map Prod.snd).getD []

/-- What a call that returns a token did. -/
structure Appended (store : Store) (appending : Appending) (call : Call) : Prop where
  steps : call.steps = [.openJournal, .appendJournal (entryFrame (store.entryAt appending))]
  options : call.store.options = store.options
  sequence : call.store.sequence = store.sequence + 1
  entryCount : call.store.entryCount = store.entryCount + 1
  bound : appending.payload.length ≤ store.options.limits.maxJournalEntryBytes.toNat
  room : store.entryCount < store.options.limits.maxJournalEntries.toNat

variable {store final : Store} {appending : Appending} {appendings : List Appending} {disk after : Disk}

theorem appended_of_ok (h : (store.appendCall appending).outcome.ok = true) :
    Appended store appending (store.appendCall appending) := by
  by_cases hentry : appending.payload.length ≤ store.options.limits.maxJournalEntryBytes.toNat
  · have hview : Store.AppendView (store.given appending) appending.kind appending.payload appending.now {}
        (store.appendCall appending) := Store.append_view rfl hentry
    generalize store.appendCall appending = call at h hview ⊢
    cases hview with
    | refused reason detail hroom | torn reason detail kept hroom hfault => cases h
    | appended token hroom => exact ⟨rfl, rfl, rfl, rfl, hentry, hroom.2⟩
  · have hlong : (store.given appending).options.limits.maxJournalEntryBytes.toNat < appending.payload.length :=
      not_le.mp hentry
    rw [Store.appendCall, Store.append, if_pos hlong] at h
    cases h

/-- Successful calls add their entries to the journal, each within the bound. -/
theorem appends_eq_some (h : store.appends disk appendings = some (final, after)) :
    after.journalBytes = disk.journalBytes ++ (store.entriesOf appendings).flatMap entryFrame ∧
      ∀ appending ∈ appendings, appending.payload.length ≤ store.options.limits.maxJournalEntryBytes.toNat := by
  induction appendings generalizing store disk with
  | nil =>
    cases h
    exact ⟨(append_nil _).symm, nofun⟩
  | cons appending appendings ih =>
    rw [Store.appends] at h
    split at h
    · rename_i hok
      have happended := appended_of_ok hok
      obtain ⟨hbytes, hbounds⟩ := ih h
      rw [happended.options] at hbounds
      refine ⟨?_, ?_⟩
      · rw [hbytes, happended.steps, Store.entriesOf, flatMap_cons, ← append_assoc]
        rfl
      · intro other hother
        rcases mem_cons.mp hother with rfl | hrest
        · exact happended.bound
        · exact hbounds other hrest
    · cases h

/-- A store whose counters agree, as they do when it is bound. -/
def Store.Counted (store : Store) : Prop := store.sequence.toNat = store.entryCount

theorem bind_counted {options : StoreOptions} (h : Store.bind options disk = .success store .ok) :
    store.options = options ∧ store.Counted := by
  rw [Store.bind] at h
  split at h
  · cases h
  · cases h
    exact ⟨rfl, rfl⟩

/-- Entries written while the generations do not fall follow on one another. -/
theorem entriesOf_ordered (hcounted : store.Counted) (h : store.appends disk appendings = some (final, after))
    (hgenerations : appendings.Pairwise (fun a b => a.generation ≤ b.generation)) :
    (store.entriesOf appendings).Pairwise (fun a b => a.1.Precedes b.1) ∧
      ∀ entry ∈ store.entriesOf appendings, store.sequence < entry.1.sequence ∧
        ∃ appending ∈ appendings, entry.1.storeGeneration = appending.generation := by
  induction appendings generalizing store disk with
  | nil => exact ⟨Pairwise.nil, nofun⟩
  | cons appending appendings ih =>
    rw [Store.appends] at h
    split at h
    · rename_i hok
      have happended := appended_of_ok hok
      obtain ⟨hfirst, hrest⟩ := pairwise_cons.mp hgenerations
      have hroom := happended.room
      have hmax := store.options.limits.maxJournalEntries.toNat_lt
      have hnext : (store.sequence + 1).toNat = store.sequence.toNat + 1 := by
        rw [Store.Counted] at hcounted
        rw [UInt64.toNat_add, UInt64.toNat_one, Nat.mod_eq_of_lt (by omega)]
      have hless : store.sequence < store.sequence + 1 := by
        rw [UInt64.lt_iff_toNat_lt, hnext]
        exact Nat.lt_succ_self _
      have hagain : (store.appendCall appending).store.Counted := by
        rw [Store.Counted, happended.sequence, happended.entryCount, hnext, hcounted]
      obtain ⟨hpairwise, hlater⟩ := ih hagain h hrest
      rw [happended.sequence] at hlater
      refine ⟨pairwise_cons.mpr ⟨?_, hpairwise⟩, ?_⟩
      · intro entry hentry
        obtain ⟨hsequence, other, hother, hgeneration⟩ := hlater entry hentry
        refine ⟨hsequence, ?_⟩
        rw [hgeneration]
        exact hfirst other hother
      · intro entry hentry
        rcases mem_cons.mp hentry with rfl | hentry
        · exact ⟨hless, appending, mem_cons_self, rfl⟩
        · obtain ⟨hsequence, other, hother, hgeneration⟩ := hlater entry hentry
          exact ⟨lt_trans hless hsequence, other, mem_cons_of_mem _ hother, hgeneration⟩
    · cases h

/-! ### Scanning entries that follow on one another -/

section Scanning

variable {frames : List ((JournalHeader × Bytes) × Nat)}

section

variable (frames)

theorem accepted_concat (frame : (JournalHeader × Bytes) × Nat) (scan : JournalScan)
    : scan.accepted (frames ++ [frame]) =
      scan.accepted frames ++ (if (scanRead frames scan).Follows frame.1 then [frame.1] else []) := by
  induction frames generalizing scan with
  | nil => exact append_nil _
  | cons first frames ih =>
    rw [cons_append, JournalScan.accepted, ih, JournalScan.accepted, append_assoc]
    rfl

/-- What the scanner knows after entries all of which it applied. -/
structure Applied : Prop where
  accepted : JournalScan.accepted {} frames = frames.map Prod.fst
  validBytes : (scanRead frames {}).validBytes = (frames.map Prod.snd).sum
  sequence : ∀ last ∈ frames.getLast?, (scanRead frames {}).previousSequence = last.1.1.sequence
  generation : (scanRead frames {}).previousGeneration = (frames.getLast?.map (·.1.1.storeGeneration)).getD 0
  newest : (scanRead frames {}).lastSnapshotGeneration ≤ (scanRead frames {}).previousGeneration
  payload : (scanRead frames {}).lastSnapshotPayload = lastSnapshot (frames.map Prod.fst)

end

theorem lastSnapshot_concat (entries : List (JournalHeader × Bytes)) (entry : JournalHeader × Bytes) :
    lastSnapshot (entries ++ [entry]) = if entry.1.kind = .stateSnapshot then entry.2 else lastSnapshot entries := by
  rw [lastSnapshot, filter_append, filter_singleton]
  by_cases hkind : entry.1.kind = .stateSnapshot
  · rw [if_pos hkind, decide_eq_true hkind, cond_true, getLast?_concat]
    rfl
  · rw [if_neg hkind, decide_eq_false hkind, cond_false, append_nil]
    rfl

/-- Entries that follow on one another are all applied. -/
theorem applied_of_ordered (h : frames.Pairwise (fun a b => a.1.1.Precedes b.1.1)) : Applied frames := by
  induction frames using reverseRecOn with
  | nil =>
    exact ⟨rfl, rfl, fun last hlast => absurd hlast (Option.not_mem_none last), rfl, le_refl _, rfl⟩
  | append_singleton frames frame ih =>
    obtain ⟨hbefore, -, hlast⟩ := pairwise_append.mp h
    have happlied := ih hbefore
    have hfollows : (scanRead frames {}).Follows frame.1 := by
      constructor
      · rintro ⟨hle, hvalid⟩
        rw [entriesValid_scanRead, happlied.accepted, length_map] at hvalid
        have hpositive : 0 < frames.length := lt_of_lt_of_eq hvalid (Nat.zero_add _)
        obtain ⟨last, hmem⟩ :=
          Option.isSome_iff_exists.mp (getLast?_isSome.mpr (ne_nil_of_length_pos hpositive))
        have hprecedes := hlast last (mem_of_getLast? hmem) frame mem_cons_self
        rw [happlied.sequence last hmem] at hle
        exact absurd hprecedes.1 (not_lt.mpr hle)
      · rw [happlied.generation]
        cases hmem : frames.getLast? with
        | none => exact fun hlt => UInt64.not_lt_zero hlt
        | some last => exact not_lt.mpr (hlast last (mem_of_getLast? hmem) frame mem_cons_self).2
    have hnewest : (scanRead frames {}).lastSnapshotGeneration ≤ frame.1.1.storeGeneration :=
      le_trans happlied.newest (not_lt.mp hfollows.2)
    have hstep : scanRead (frames ++ [frame]) {} = (scanRead frames {}).accept frame.1.1 frame.1.2 frame.2 := by
      rw [scanRead_concat, JournalScan.take_of_follows hfollows]
    refine ⟨?_, ?_, ?_, ?_, ?_, ?_⟩
    · rw [accepted_concat, happlied.accepted, if_pos hfollows, map_append]
      rfl
    · rw [← scanRead_position, hstep]
      rfl
    · intro last hmem
      rw [getLast?_concat, Option.mem_some_iff] at hmem
      rw [hstep, ← hmem]
      rfl
    · rw [hstep, getLast?_concat]
      rfl
    · rw [hstep, JournalScan.accept]
      dsimp only
      split
      · exact le_refl _
      · exact hnewest
    · rw [hstep, map_append, map_singleton, lastSnapshot_concat, ← happlied.payload, JournalScan.accept]
      dsimp only
      by_cases hkind : frame.1.1.kind = .stateSnapshot
      · rw [if_pos hkind, if_pos ⟨hkind, hnewest⟩]
      · rw [if_neg hkind, if_neg (fun h => hkind h.1)]

end Scanning

/-! ### The length of the payload in the header -/

section Lengths

variable {header : JournalHeader} {payload rest : Bytes}

/-- A header says how long its payload is up to the width of its field, and has the payload's digest. -/
structure Declares (header : JournalHeader) (payload : Bytes) : Prop where
  version : header.formatVersion = kStoreFormatVersion.toUInt16
  length : header.payloadLen = UInt32.ofNat payload.length
  digest : header.payloadDigest = Digest256.of payload

theorem Declares.toNat_length (h : Declares header payload) : header.payloadLen.toNat = payload.length % 2 ^ 32 := by
  rw [h.length]
  exact UInt32.toNat_ofNat'

theorem Declares.describes (h : Declares header payload) (hword : payload.length < 2 ^ 32)
    (hbound : payload.length ≤ limits.maxJournalEntryBytes.toNat) : header.Describes limits payload where
  version := h.version
  length := h.toNat_length.trans (Nat.mod_eq_of_lt hword)
  digest := h.digest
  bound := hbound

/-- What the scanner takes for the entry of a header. -/
theorem journalFront_serialize {size : Nat} (hversion : header.formatVersion = kStoreFormatVersion.toUInt16)
    (h : journalFront limits (header.serialize ++ rest) = .frame entry size) :
    header.payloadLen.toNat + 8 ≤ rest.length ∧
      Digest256.of (rest.take header.payloadLen.toNat) = header.payloadDigest := by
  obtain ⟨-, hparse, -, hsize, htotal, hpayload, -, hdigest⟩ := journalFront_eq_frame.mp h
  rw [parseJournalHeader_serialize hversion] at hparse
  cases hparse
  rw [kJournalHeaderSize, drop_left' (JournalHeader.length_serialize _)] at hpayload
  rw [hpayload] at hdigest
  rw [length_append, JournalHeader.length_serialize, htotal, kJournalHeaderSize, kJournalTrailerSize] at hsize
  exact ⟨by omega, hdigest⟩

section

variable (hinj : Set.InjOn Digest256.of offered) (hpayload : payload ∈ offered)
  (hcut : payload.take (payload.length % 2 ^ 32) ∈ offered) (h : Declares header payload)

include hinj hpayload hcut h

/-- The scanner takes no entry where a payload does not fit the field for its length. -/
theorem journalFront_overlong (hlong : 2 ^ 32 ≤ payload.length) {part : Bytes} (hpart : part <+: payload ++ rest) :
    ∃ stop, journalFront limits (header.serialize ++ part) = .stop stop := by
  cases hfront : journalFront limits (header.serialize ++ part) with
  | stop reason => exact ⟨reason, rfl⟩
  | frame entry size =>
    obtain ⟨hsize, hdigest⟩ := journalFront_serialize h.version hfront
    have hshort : payload.length % 2 ^ 32 < payload.length :=
      lt_of_lt_of_le (Nat.mod_lt _ (Nat.two_pow_pos 32)) hlong
    have htaken : part.take (payload.length % 2 ^ 32) = payload.take (payload.length % 2 ^ 32) := by
      obtain ⟨after, hafter⟩ := hpart
      rw [h.toNat_length] at hsize
      calc part.take (payload.length % 2 ^ 32)
          = (part ++ after).take (payload.length % 2 ^ 32) := (take_append_of_le_length (by omega)).symm
        _ = (payload ++ rest).take (payload.length % 2 ^ 32) := by rw [hafter]
        _ = payload.take (payload.length % 2 ^ 32) := take_append_of_le_length hshort.le
    rw [h.toNat_length, htaken, h.digest] at hdigest
    have hsame := congrArg length (hinj hcut hpayload hdigest)
    rw [length_take] at hsame
    omega

/-- No strict beginning of an entry is taken for one. -/
theorem journalFront_cut {kept : Nat} (hkept : kept < (journalFrame header payload).length) :
    ∃ stop, journalFront limits ((journalFrame header payload).take kept) = .stop stop := by
  rw [length_journalFrame] at hkept
  by_cases hheader : kept < 72
  · refine ⟨⟨false, none⟩, ?_⟩
    rw [journalFront, if_pos (by rw [length_take, kJournalHeaderSize]; omega)]
  · rw [take_journalFrame (not_lt.mp hheader)]
    by_cases hlong : 2 ^ 32 ≤ payload.length
    · exact journalFront_overlong hinj hpayload hcut h hlong <| take_prefix _ _
    · cases hfront : journalFront limits (header.serialize ++
          (payload ++ (Writer.u32 (crc32c payload) ++ Writer.u32 0)).take (kept - 72)) with
      | stop reason => exact ⟨reason, rfl⟩
      | frame entry size =>
        -- the entry would have to end within the bytes that are there
        obtain ⟨hsize, -⟩ := journalFront_serialize h.version hfront
        rw [h.toNat_length, Nat.mod_eq_of_lt (not_le.mp hlong), length_take] at hsize
        omega

end

end Lengths

/-! ### Torn tails -/

section Tails

theorem entriesOf_payloads (store : Store) (appendings : List Appending) :
    (store.entriesOf appendings).map Prod.snd = appendings.map Appending.payload := by
  induction appendings generalizing store with
  | nil => rfl
  | cons appending appendings ih =>
    rw [Store.entriesOf, map_cons, map_cons, ih]
    rfl

theorem entriesOf_declares (h : entry ∈ store.entriesOf appendings) : Declares entry.1 entry.2 := by
  induction appendings generalizing store with
  | nil => cases h
  | cons appending appendings ih =>
    rcases mem_cons.mp h with rfl | h
    · exact ⟨rfl, rfl, rfl⟩
    · exact ih h

section

variable (entries)

theorem map_fst_frames : (entries.map (fun entry => (entry, (entryFrame entry).length))).map Prod.fst = entries := by
  rw [map_map]
  exact map_id _

theorem sum_frames : ((entries.map (fun entry => (entry, (entryFrame entry).length))).map Prod.snd).sum =
      (entries.flatMap entryFrame).length := by
  rw [map_map, length_flatMap]
  rfl

end

section Whole

variable (hordered : entries.Pairwise (fun a b => a.1.Precedes b.1))
  (hdeclares : ∀ entry ∈ entries, Declares entry.1 entry.2) (hword : ∀ entry ∈ entries, entry.2.length < 2 ^ 32)
  (hbound : ∀ entry ∈ entries, entry.2.length ≤ limits.maxJournalEntryBytes.toNat)
  (htail : tail ≠ [] → ∃ stop, journalFront limits tail = .stop stop)
include hdeclares hword hbound htail

/-- Entries whose payloads fit the field for their length are read one after the other. -/
theorem read_entries : (read (journalFront limits) (entries.flatMap entryFrame ++ tail)).1 =
      entries.map (fun entry => (entry, (entryFrame entry).length)) := by
  have hframed : ∀ entry ∈ entries, Framed (journalFront limits) entryFrame id entry := by
    intro entry hentry
    constructor
    · apply ne_nil_of_length_pos
      rw [entryFrame, length_journalFrame]
      exact Nat.succ_pos _
    · exact journalFront_frame ((hdeclares entry hentry).describes (hword entry hentry) (hbound entry hentry))
  have hrest : (read (journalFront limits) tail).1 = [] := by
    by_cases hne : tail = []
    · rw [hne]
      rfl
    · obtain ⟨stop, hstop⟩ := htail hne
      rw [read_stop hne hstop]
  rw [read_flatMap (journalFront_positive limits) hframed, hrest, append_nil]
  rfl

include hordered in
/-- Whole entries that follow on one another, whose payloads fit the field for their length, are recovered. -/
theorem scanJournal_recovers :
    let data := entries.flatMap entryFrame ++ tail
    acceptedEntries limits data = entries ∧ (scanJournal data limits).lastSnapshotPayload = lastSnapshot entries ∧
      (scanJournal data limits).validBytes = (entries.flatMap entryFrame).length ∧
      (scanJournal data limits).bytesDiscarded = tail.length := by
  intro data
  have hread := read_entries hdeclares hword hbound htail
  have happlied : Applied (entries.map (fun entry => (entry, (entryFrame entry).length))) := by
    apply applied_of_ordered
    rw [pairwise_map]
    exact hordered
  have hsums := scanJournal_sums limits data
  rw [hread] at hsums
  refine ⟨?_, ?_, ?_, ?_⟩
  · rw [acceptedEntries, hread, happlied.accepted, map_fst_frames]
  · rw [hsums.payload, happlied.payload, map_fst_frames]
  · rw [hsums.validBytes, happlied.validBytes, sum_frames]
  · have hlength := hsums.length
    rw [hsums.position, sum_frames, length_append] at hlength
    omega

end Whole

theorem entryFrame_append (entry : JournalHeader × Bytes) (rest : Bytes) : entryFrame entry ++ rest =
    entry.1.serialize ++ (entry.2 ++ ((Writer.u32 (crc32c entry.2) ++ Writer.u32 0) ++ rest)) := by
  simp only [entryFrame, journalFrame, append_assoc]

/-- Where a payload does not fit the field for its length, the entries end. -/
theorem journalFront_overlong_entry (hinj : Set.InjOn Digest256.of offered)
    (hpayload : entry.2 ∈ offered) (hcut : entry.2.take (entry.2.length % 2 ^ 32) ∈ offered)
    (h : Declares entry.1 entry.2) (hlong : 2 ^ 32 ≤ entry.2.length) (rest : Bytes) :
    ∃ stop, journalFront limits (entryFrame entry ++ rest) = .stop stop := by
  rw [entryFrame_append]
  exact journalFront_overlong hinj hpayload hcut h hlong prefix_rfl

/-- The scanner does not come past an entry whose payload does not fit the field for its length. -/
theorem accepted_ne_of_overlong (hinj : Set.InjOn Digest256.of offered)
    (hoffered : ∀ entry ∈ entries, entry.2 ∈ offered ∧ entry.2.take (entry.2.length % 2 ^ 32) ∈ offered)
    (hordered : entries.Pairwise (fun a b => a.1.Precedes b.1))
    (hdeclares : ∀ entry ∈ entries, Declares entry.1 entry.2)
    (hbound : ∀ entry ∈ entries, entry.2.length ≤ limits.maxJournalEntryBytes.toNat)
    (hlong : ∃ entry ∈ entries, 2 ^ 32 ≤ entry.2.length) :
    acceptedEntries limits (entries.flatMap entryFrame ++ tail) ≠ entries := by
  -- the entries before the first one that is too long are recovered, and the scanner stops there
  obtain ⟨entry, hfirst⟩ := Option.isSome_iff_exists.mp
    (find?_isSome.mpr (hlong.imp fun entry h => ⟨h.1, decide_eq_true h.2⟩))
  obtain ⟨hentry, before, rest, hsplit, hbefore⟩ := find?_eq_some_iff_append.mp hfirst
  have hsub : before ⊆ entries := by
    rw [hsplit]
    exact subset_append_left _ _
  have hmem : entry ∈ entries := mem_of_find?_eq_some hfirst
  have hdata : entries.flatMap entryFrame ++ tail =
      before.flatMap entryFrame ++ (entryFrame entry ++ (rest.flatMap entryFrame ++ tail)) := by
    rw [hsplit, flatMap_append, flatMap_cons, append_assoc, append_assoc]
  have hword : ∀ other ∈ before, other.2.length < 2 ^ 32 := by
    intro other hother
    have hshort := hbefore other hother
    rw [Bool.not_eq_true', decide_eq_false_iff_not, not_le] at hshort
    exact hshort
  have hstop : ∃ stop, journalFront limits (entryFrame entry ++ (rest.flatMap entryFrame ++ tail)) = .stop stop :=
    journalFront_overlong_entry hinj (hoffered entry hmem).1 (hoffered entry hmem).2 (hdeclares entry hmem)
      (of_decide_eq_true hentry) _
  obtain ⟨haccepted, -⟩ := scanJournal_recovers (hordered.sublist (hsplit ▸ sublist_append_left _ _))
    (fun other hother => hdeclares other (hsub hother)) hword (fun other hother => hbound other (hsub hother))
    (fun _ => hstop)
  rw [hdata, haccepted, hsplit]
  intro hsame
  have hlength := congrArg length hsame
  rw [length_append, length_cons] at hlength
  omega

/-- The scanner recovers exactly the whole entries that one lifetime wrote on an empty journal from them and a part of
    one more, whenever every payload is shorter than what the 32 bits for its length can say, and only then. -/
theorem torn_tail_recovery_iff {options : StoreOptions} {last : Appending} {kept : Nat}
    (hinj : Set.InjOn Digest256.of offered)
    (hoffered : ∀ appending ∈ appendings ++ [last], appending.payload ∈ offered ∧
      appending.payload.take (appending.payload.length % 2 ^ 32) ∈ offered)
    (hbind : Store.bind options disk = .success store .ok) (hempty : disk.journalBytes = [])
    (hwritten : store.appends disk appendings = some (final, after))
    (hgenerations : appendings.Pairwise (fun a b => a.generation ≤ b.generation))
    (hkept : kept < (entryFrame (final.entryAt last)).length) :
    let data := after.journalBytes ++ (entryFrame (final.entryAt last)).take kept
    let scan := scanJournal data options.limits
    (acceptedEntries options.limits data = store.entriesOf appendings ∧ scan.entriesValid = appendings.length ∧
        scan.lastSnapshotPayload = lastSnapshot (store.entriesOf appendings) ∧
        scan.validBytes = after.journalBytes.length ∧ scan.bytesDiscarded = kept) ↔
      ∀ appending ∈ appendings, appending.payload.length < 2 ^ 32 := by
  intro data scan
  obtain ⟨hoptions, hcounted⟩ := bind_counted hbind
  obtain ⟨hbytes, hbounds⟩ := appends_eq_some hwritten
  rw [hempty, nil_append] at hbytes
  rw [hoptions] at hbounds
  have hordered := (entriesOf_ordered hcounted hwritten hgenerations).1
  have hpayloads := entriesOf_payloads store appendings
  have hdeclares : ∀ entry ∈ store.entriesOf appendings, Declares entry.1 entry.2 := fun _ => entriesOf_declares
  -- every fact about the payloads of the calls is one about the payloads of the entries
  have hall : ∀ P : Bytes → Prop, (∀ appending ∈ appendings, P appending.payload) ↔
      ∀ entry ∈ store.entriesOf appendings, P entry.2 := by
    intro P
    rw [← forall_mem_map, ← hpayloads, forall_mem_map]
  have hbound := (hall (fun payload => payload.length ≤ options.limits.maxJournalEntryBytes.toNat)).mp hbounds
  have hlength : ((entryFrame (final.entryAt last)).take kept).length = kept := length_take_of_le hkept.le
  constructor
  · rintro ⟨haccepted, -⟩
    rw [hall (fun payload => payload.length < 2 ^ 32)]
    by_contra hlong
    push Not at hlong
    rw [show data = _ from congrArg (· ++ _) hbytes] at haccepted
    refine accepted_ne_of_overlong hinj ?_ hordered hdeclares hbound hlong haccepted
    exact (hall (fun payload => payload ∈ offered ∧ payload.take (payload.length % 2 ^ 32) ∈ offered)).mp
      (fun appending happending => hoffered appending (mem_append_left _ happending))
  · intro hword
    rw [hall (fun payload => payload.length < 2 ^ 32)] at hword
    have htail : (entryFrame (final.entryAt last)).take kept ≠ [] →
        ∃ stop, journalFront options.limits ((entryFrame (final.entryAt last)).take kept) = .stop stop := by
      obtain ⟨hpayload, hcut⟩ := hoffered last (mem_append_right _ mem_cons_self)
      exact fun _ => journalFront_cut hinj hpayload hcut ⟨rfl, rfl, rfl⟩ hkept
    obtain ⟨haccepted, hsnapshot, hvalid, hdiscarded⟩ := scanJournal_recovers hordered hdeclares hword hbound htail
    rw [← hbytes] at haccepted hsnapshot hvalid hdiscarded
    refine ⟨haccepted, ?_, hsnapshot, hvalid, hdiscarded.trans hlength⟩
    rw [← length_acceptedEntries, haccepted, ← length_map Prod.snd, hpayloads, length_map]

end Tails

/-! ### A payload whose length is cut to zero -/

/-- A payload of a multiple of so many bytes is declared empty, and its own first bytes stand where the scanner looks
    for the checksum of an empty payload. -/
theorem journalFront_emptied (h : Declares entry.1 entry.2)
    (hlength : entry.2.length % 2 ^ 32 = 0) (hlong : 8 ≤ entry.2.length) (hcrc : crc32c [] ≠ getU32 entry.2 0)
    (rest : Bytes) : journalFront limits (entryFrame entry ++ rest) = .stop ⟨true, some .storePayloadCorrupt⟩ := by
  have hdata := entryFrame_append entry rest
  have hwide : 80 ≤ (entryFrame entry ++ rest).length := by
    rw [length_append, entryFrame, length_journalFrame]
    omega
  have hfound : getU32 (entryFrame entry ++ rest) 72 = getU32 entry.2 0 := by
    rw [hdata, getU32_skip _ (by rw [JournalHeader.length_serialize]), JournalHeader.length_serialize,
      getU32_within _ (by omega)]
  have hparse : parseJournalHeader (entryFrame entry ++ rest) = .ok entry.1 := by
    rw [hdata, parseJournalHeader_serialize h.version]
  rw [journalFront, if_neg (by rw [kJournalHeaderSize]; omega), hparse]
  dsimp only
  rw [h.toNat_length, hlength, if_neg (Nat.not_lt_zero _),
    if_neg (by rw [kJournalHeaderSize, kJournalTrailerSize]; omega), take_zero, kJournalHeaderSize, hfound,
    if_pos hcrc]

/-- Nothing is recovered from a journal that starts with such an entry. -/
theorem scanJournal_nothing {data : Bytes} {stop : JournalStop} (hne : data ≠ [])
    (hstop : journalFront limits data = .stop stop) :
    (scanJournal data limits).entriesValid = 0 ∧ (scanJournal data limits).bytesDiscarded = data.length := by
  have hread : (read (journalFront limits) data).1 = [] := by rw [read_stop hne hstop]
  have hsums := scanJournal_sums limits data
  rw [hread] at hsums
  have hposition : (scanJournal data limits).position = 0 := hsums.position
  refine ⟨hsums.entriesValid, ?_⟩
  have hlength := hsums.length
  omega

namespace Lab

/-- Options that allow entries of more bytes than a header can say. -/
def wide : StoreOptions :=
  { options with limits := { maxJournalEntryBytes := 0x200000000, maxJournalBytes := 0x400000000 } }

/-- As many bytes as the field for the length has values. -/
@[irreducible] def longPayload : Bytes := [1, 0, 0, 0] ++ replicate (2 ^ 32 - 4) 0

theorem length_longPayload : longPayload.length = 2 ^ 32 := by
  rw [longPayload, length_append, length_replicate]
  rfl

def longAppending : Appending where
  kind := .admission
  payload := longPayload
  now := 0
  generation := 1

end Lab

/-- A payload that `append` returned a token for is discarded, with everything in the journal. -/
theorem long_payload_discarded :
    ∃ final after, Store.bind wide {} = .success { options := wide } .ok ∧
      Store.appends { options := wide } {} [longAppending] = some (final, after) ∧
      after.journalBytes.length = 2 ^ 32 + 80 ∧
      (scanJournal after.journalBytes wide.limits).entriesValid = 0 ∧
      (scanJournal after.journalBytes wide.limits).bytesDiscarded = 2 ^ 32 + 80 := by
  have hok : (Store.appendCall { options := wide } longAppending).outcome.ok = true := by
    have hlength : longAppending.payload.length = 2 ^ 32 := length_longPayload
    apply (Store.append_ok_iff (by rw [hlength]; decide)).mpr
    rw [hlength]
    decide
  have hwritten : Store.appends { options := wide } {} [longAppending] =
      some ((Store.appendCall { options := wide } longAppending).store,
        Disk.after {} (Store.appendCall { options := wide } longAppending).steps) := by
    rw [Store.appends, if_pos hok, Store.appends]
  obtain ⟨hbytes, -⟩ := appends_eq_some hwritten
  rw [Store.entriesOf, Store.entriesOf, flatMap_cons, flatMap_nil] at hbytes
  have hcrc : crc32c [] ≠ getU32 longPayload 0 := by
    rw [longPayload, getU32_within _ (by decide)]
    decide
  have hstop : journalFront wide.limits (entryFrame (Store.entryAt { options := wide } longAppending) ++ []) =
      .stop ⟨true, some .storePayloadCorrupt⟩ := by
    apply journalFront_emptied ⟨rfl, rfl, rfl⟩
    · exact (congrArg (· % 2 ^ 32) length_longPayload).trans (Nat.mod_self _)
    · exact le_of_le_of_eq (by decide) length_longPayload.symm
    · exact hcrc
  have hlength : (entryFrame (Store.entryAt { options := wide } longAppending) ++ []).length = 2 ^ 32 + 80 := by
    rw [append_nil, entryFrame, length_journalFrame]
    exact congrArg (· + 80) length_longPayload
  obtain ⟨hvalid, hdiscarded⟩ := scanJournal_nothing (ne_nil_of_length_pos (by rw [hlength]; decide)) hstop
  rw [← nil_append (entryFrame _ ++ []), ← show _ = [] ++ _ from hbytes] at hlength hvalid hdiscarded
  exact ⟨_, _, rfl, hwritten, hlength, hvalid, hdiscarded.trans hlength⟩

namespace Lab

/-- A short entry of some kind. -/
def shortAppending (kind : JournalKind) (generation : StoreGeneration) : Appending where
  kind := kind
  payload := [7]
  now := 0
  generation := generation

end Lab

/-- A state, and an admission after it. -/
def Lab.shortEntries : List Appending := [shortAppending .stateSnapshot 1, shortAppending .admission 1]

theorem torn_tail_recovery_two_entries :
    ∃ final after, Store.appends { options := options } {} shortEntries = some (final, after) ∧
      let data := after.journalBytes ++ (entryFrame (final.entryAt (shortAppending .stateSnapshot 2))).take 80
      (scanJournal data options.limits).entriesValid = 2 ∧
        (scanJournal data options.limits).lastSnapshotPayload = [7] ∧
        (scanJournal data options.limits).bytesDiscarded = 80 := by
  have hbind : Store.bind options {} = .success { options := options } .ok := rfl
  have hsome : (Store.appends { options := options } {} shortEntries).isSome = true := by decide +kernel
  obtain ⟨⟨final, after⟩, hwritten⟩ := Option.isSome_iff_exists.mp hsome
  have hoffered : ∀ appending ∈ shortEntries ++ [shortAppending .stateSnapshot 2],
      appending.payload ∈ ({[7]} : Set Bytes) ∧
        appending.payload.take (appending.payload.length % 2 ^ 32) ∈ ({[7]} : Set Bytes) := by
    intro appending happending
    simp only [shortEntries, cons_append, nil_append, mem_cons, not_mem_nil, or_false] at happending
    rcases happending with rfl | rfl | rfl <;> exact ⟨rfl, rfl⟩
  have hword : ∀ appending ∈ shortEntries, appending.payload.length < 2 ^ 32 := by
    intro appending happending
    rw [(hoffered appending (mem_append_left _ happending)).1]
    decide
  have hgenerations : shortEntries.Pairwise (fun a b => a.generation ≤ b.generation) := by decide
  have hkept : 80 < (entryFrame (final.entryAt (shortAppending .stateSnapshot 2))).length := by
    rw [entryFrame, length_journalFrame]
    exact Nat.lt_succ_self 80
  obtain ⟨-, hvalid, hsnapshot, -, hdiscarded⟩ :=
    (torn_tail_recovery_iff (Set.injOn_singleton _ _) hoffered hbind rfl hwritten hgenerations hkept).mpr hword
  exact ⟨final, after, hwritten, hvalid, hsnapshot, hdiscarded⟩

end Ocreg
