/-
Module: Ocreg.Proofs.Eviction
Purpose: What an eviction leaves standing: priorities of rejected and superseded records, newest records under
  evictions that have something outdated to take.
-/
import Ocreg.Proofs.Representation

namespace Ocreg

variable {s t : Registry} {key : EvidenceKey} {stream : Stream} {record : StoredEvidence} {now : Tick}
  {restrict : Option EvidenceKey} {candidate : EvictionCandidate}

namespace Registry

/-! ### Newest records -/

/-- A record that holds its stream's maximum. -/
structure Newest (s : Registry) (key : EvidenceKey) (record : StoredEvidence) : Prop where
  stored : record ∈ (s.streamAt key).records
  live : record.lifecycle ≠ .rejected
  top : record.evidence.generation = (s.streamAt key).maxGeneration

theorem two_le_ite {p : Prop} [Decidable p] {a b : Nat} (ha : 2 ≤ a) (hb : 2 ≤ b) : 2 ≤ if p then a else b := by
  split
  · exact ha
  · exact hb

/-- Priorities zero and one: rejected records, and records below their stream's maximum. -/
theorem outdated_of_priority_le_one (h : s.evictionPriority key stream record now ≤ 1) :
    record.lifecycle = .rejected ∨ record.evidence.generation < stream.maxGeneration := by
  by_contra hcurrent
  obtain ⟨hlive, htop⟩ := not_or.mp hcurrent
  have hlarge : 2 ≤ s.evictionPriority key stream record now := by
    rw [evictionPriority, if_neg hlive, if_neg (fun hbelow => htop hbelow.2 : ¬ (_ ∧ _))]
    refine two_le_ite (by decide) (two_le_ite le_rfl ?_)
    cases s.policy.findSource key.source with
    | none => exact le_rfl
    | some source =>
      exact two_le_ite le_rfl (two_le_ite le_rfl (two_le_ite le_rfl (two_le_ite le_rfl
        (two_le_ite (by decide) (two_le_ite (by decide) (by decide))))))
  exact absurd h (Nat.not_le.mpr hlarge)

section

variable (hbelow : record.evidence.generation < stream.maxGeneration)
include hbelow

theorem maxGeneration_ne_zero : stream.maxGeneration ≠ 0 := by
  intro hzero
  rw [hzero] at hbelow
  exact absurd hbelow UInt64.not_lt_zero

/-- An admitted record below its stream's maximum has priority one. -/
theorem priority_of_superseded (hadmitted : record.lifecycle = .admitted) :
    s.evictionPriority key stream record now = 1 := by
  rw [evictionPriority, hadmitted, if_neg (by decide), if_neg (by decide),
    if_pos ⟨maxGeneration_ne_zero hbelow, hbelow⟩]

/-- Whatever became of it, a record below its stream's maximum can be evicted. -/
theorem isEvictable_of_below : s.isEvictable key stream record now = true := by
  have hpriority : s.evictionPriority key stream record now ≤ 4 := by
    have hsuperseded : stream.maxGeneration ≠ 0 ∧ record.evidence.generation < stream.maxGeneration :=
      ⟨maxGeneration_ne_zero hbelow, hbelow⟩
    rw [evictionPriority, if_pos hsuperseded]
    split_ifs <;> decide
  rw [isEvictable, if_neg (by omega), decide_eq_true_eq]
  exact hpriority

end

/-- An eligible record has the last priority. -/
theorem priority_of_eligible {source : SourcePolicy} (h : s.Eligible key stream now 0 record source) :
    s.evictionPriority key stream record now = 5 := by
  have hlive : record.lifecycle ≠ .rejected ∧ record.lifecycle ≠ .retired := by
    rw [h.admitted]
    decide
  rw [evictionPriority, if_neg hlive.1, if_neg hlive.2, if_neg h.newest, if_neg (not_not.mpr h.current), h.configured]
  dsimp only
  rw [if_neg h.unrevoked, if_neg h.trusted, if_neg (not_lt.mpr h.booted), if_neg h.unfenced, if_neg h.fresh,
    if_neg h.valid]

/-- Rejected and superseded records can be evicted, whatever the derivation says. -/
theorem isEvictable_of_priority_le_one (h : s.evictionPriority key stream record now ≤ 1) :
    s.isEvictable key stream record now = true := by
  rw [isEvictable, if_neg (by omega), decide_eq_true_eq]
  omega

/-- With a spare record in sight the victim is rejected or superseded. -/
theorem pick_outdated {incoming : EvidenceId}
    (hpick : s.pickEvictionCandidate restrict (some incoming) now = some candidate)
    (hscope : ∀ other ∈ restrict, other = key) (hfind : s.streams.find? key = some stream)
    (hrecord : record ∈ stream.records) (hother : record.id ≠ incoming)
    (hspare : s.evictionPriority key stream record now ≤ 1) : candidate.priority ≤ 1 := by
  have hallowed : some incoming ≠ some record.id := by simpa using Ne.symm hother
  exact (pick_priority_le hpick hscope hfind hrecord hallowed (isEvictable_of_priority_le_one hspare)).trans hspare

/-- A record stays through a rollback that finds its stream as the insertion left it. -/
theorem mem_rollback {u : Registry} {request : AdmissionRequest} (hnew : Advancing t (t.evidenceOf request))
    (hmem : record ∈ (t.streamAt key).records)
    (hown : key = request.key → u.streamAt key = (t.insertAdmitted (t.evidenceOf request) now).streamAt key)
    (hother : key ≠ request.key → record ∈ (u.streamAt key).records) :
    record ∈ ((u.rollbackAdmission request.key (t.evidenceOf request).id).streamAt key).records := by
  by_cases hkey : key = request.key
  · subst hkey
    rw [streamAt_rollbackAdmission, hown rfl, insertAdmitted, evidenceOf_key, streamAt_insertInStream]
    exact Stream.mem_without_of_id_ne (mem_insertRecord.mpr (.inr hmem))
      (fresh_of_not_duplicate hnew.fresh record hmem)
  · rw [streamAt_rollbackAdmission_of_ne _ _ hkey]
    exact hother hkey

/-- Evicting a rejected or superseded record leaves the newest ones. -/
theorem Newest.evict {incoming : Option EvidenceId} (h : s.Newest key record)
    (hids : s.AllStreams (fun _ stream => DistinctIds stream.records))
    (hpick : s.pickEvictionCandidate restrict incoming now = some candidate)
    (happly : s.applyEviction candidate now = some t) (houtdated : candidate.priority ≤ 1) :
    record ∈ (t.streamAt key).records := by
  obtain ⟨stream, hfind, _, victim, hvictim, _, _, hid, hpriority, _⟩ :=
    mem_evictionCandidates.mp (pick_mem_candidates hpick)
  rw [streamAt_applyEviction happly]
  split
  next heq =>
    subst heq
    have hstored := h.stored
    have htop := h.top
    rw [streamAt_of_find hfind] at hstored htop ⊢
    refine Stream.mem_without_of_id_ne hstored ?_
    intro hsame
    -- the victim would be the newest record itself
    have hvictimIs := (hids _ _ hfind).eq_of_id_eq hstored hvictim (hsame.trans hid)
    rw [hpriority] at houtdated
    rcases outdated_of_priority_le_one houtdated with hrejected | hbelow
    · exact h.live (hvictimIs ▸ hrejected)
    · rw [← hvictimIs, htop] at hbelow
      exact lt_irrefl _ hbelow
  next => exact h.stored

end Registry

end Ocreg
