/-
Module: Ocreg.Lib.Interleave
Purpose: Interleavings of a family of sequences: lists whose elements carry the index of the sequence they come from,
  and that give every sequence back in its own order. What two interleavings of one family share, and what comes after
  the last element of a kind.
-/
import Mathlib.Data.List.DropRight
import Mathlib.Data.List.Perm.Basic

namespace Ocreg

open List

variable {ι α β κ : Type} [DecidableEq ι]

/-! ### Lists with the same parts -/

/-- Lists that agree on the elements under each key are permutations of each other. -/
theorem perm_of_filter_eq [DecidableEq κ] (keyOf : α → κ) {xs ys : List α}
    (h : ∀ key, xs.filter (fun a => keyOf a == key) = ys.filter (fun a => keyOf a == key)) : xs.Perm ys := by
  classical
  rw [perm_iff_count]
  intro a
  have hcount : ∀ l : List α, (l.filter (fun b => keyOf b == keyOf a)).count a = l.count a :=
    fun l => count_filter (beq_self_eq_true (keyOf a))
  rw [← hcount xs, ← hcount ys, h]

/-! ### Interleavings -/

/-- The elements under one index, in order. -/
def under (i : ι) (l : List (ι × α)) : List α := (l.filter (fun entry => entry.1 == i)).map Prod.snd

/-- A schedule of the sequences that keeps each one's own order. -/
def Interleaves (sequences : ι → List α) (l : List (ι × α)) : Prop := ∀ i, under i l = sequences i

theorem under_append (i : ι) (l l' : List (ι × α)) : under i (l ++ l') = under i l ++ under i l' := by
  rw [under, filter_append, map_append]
  rfl

theorem under_cons_self (i : ι) (a : α) (l : List (ι × α)) : under i ((i, a) :: l) = a :: under i l := by
  rw [under, filter_cons_of_pos (by simp)]
  rfl

theorem mem_under {i : ι} {a : α} {l : List (ι × α)} : a ∈ under i l ↔ (i, a) ∈ l := by
  rw [under, mem_map]
  constructor
  · rintro ⟨⟨j, b⟩, hmem, rfl⟩
    obtain ⟨hmem, hindex⟩ := mem_filter.mp hmem
    rw [← beq_iff_eq.mp hindex]
    exact hmem
  · intro hmem
    exact ⟨(i, a), mem_filter.mpr ⟨hmem, beq_self_eq_true i⟩, rfl⟩

namespace Interleaves

variable {sequences : ι → List α} {l l' : List (ι × α)}

section

variable (h : Interleaves sequences l)

include h

theorem mem_iff {i : ι} {a : α} : (i, a) ∈ l ↔ a ∈ sequences i := by
  rw [← mem_under, h i]

theorem mem_map_iff {a : α} : a ∈ l.map Prod.snd ↔ ∃ i, a ∈ sequences i := by
  rw [mem_map]
  constructor
  · rintro ⟨⟨i, b⟩, hmem, rfl⟩
    exact ⟨i, h.mem_iff.mp hmem⟩
  · rintro ⟨i, hmem⟩
    exact ⟨(i, a), h.mem_iff.mpr hmem, rfl⟩

/-- Two interleavings of one family hold the same elements. -/
theorem perm (h' : Interleaves sequences l') : l.Perm l' := by
  apply perm_of_filter_eq Prod.fst
  have htagged : ∀ (i : ι) (l : List (ι × α)), l.filter (fun entry => entry.1 == i) = (under i l).map (Prod.mk i) := by
    intro i l
    rw [under, map_map]
    refine ((map_congr_left ?_).trans (map_id _)).symm
    intro entry hentry
    have hindex : entry.1 = i := beq_iff_eq.mp (mem_filter.mp hentry).2
    exact Prod.ext hindex.symm rfl
  intro i
  rw [htagged, htagged, h i, h' i]

/-- A part that lies in one sequence comes in that sequence's order. -/
theorem filter_eq (h' : Interleaves sequences l') {p : α → Bool}
    (hone : ∀ i j, ∀ a ∈ sequences i, ∀ b ∈ sequences j, p a = true → p b = true → i = j) :
    (l.map Prod.snd).filter p = (l'.map Prod.snd).filter p := by
  by_cases hsome : ∃ i, ∃ a ∈ sequences i, p a = true
  · obtain ⟨i, a, ha, hpa⟩ := hsome
    have hpart : ∀ {l : List (ι × α)}, Interleaves sequences l →
      (l.map Prod.snd).filter p = (sequences i).filter p := by
      intro l h
      rw [← h i, under, filter_map, filter_map, filter_filter]
      congr 1
      apply filter_congr
      rintro ⟨j, b⟩ hmem
      cases hpb : p b with
      | false => simp [hpb]
      | true =>
        have hindex := hone i j a ha b (h.mem_iff.mp hmem) hpa hpb
        simp [hpb, hindex]
    rw [hpart h, hpart h']
  · have hnone : ∀ {l : List (ι × α)}, Interleaves sequences l → (l.map Prod.snd).filter p = [] := by
      intro l h
      rw [filter_eq_nil_iff]
      intro a ha hpa
      obtain ⟨i, hmem⟩ := h.mem_map_iff.mp ha
      exact hsome ⟨i, a, hmem, hpa⟩
    rw [hnone h, hnone h']

/-- Selected and mapped, the elements interleave what is selected and mapped of the sequences. -/
theorem image (p : α → Bool) (f : α → β) : Interleaves (fun i => ((sequences i).filter p).map f)
      ((l.filter (fun entry => p entry.2)).map (fun entry => (entry.1, f entry.2))) := by
  intro i
  dsimp only
  rw [← h i, under, under, filter_map, filter_map, map_map, map_map, filter_filter, filter_filter]
  congr 1
  apply filter_congr
  intro entry _
  exact Bool.and_comm _ _

/-- One sequence after all others. -/
theorem moveLast (i : ι) :
    Interleaves sequences (l.filter (fun entry => entry.1 != i) ++ l.filter (fun entry => entry.1 == i)) := by
  intro j
  rw [under_append, ← h j, under, under, filter_filter, filter_filter]
  by_cases hij : j = i
  · subst hij
    have hothers : l.filter (fun entry => entry.1 == j && entry.1 != j) = [] := by
      simp [filter_eq_nil_iff]
    rw [hothers]
    simp [under]
  · have hown : l.filter (fun entry => entry.1 == j && entry.1 == i) = [] := by
      rw [filter_eq_nil_iff]
      intro entry _ hboth
      rw [Bool.and_eq_true, beq_iff_eq, beq_iff_eq] at hboth
      exact hij (hboth.1.symm.trans hboth.2)
    rw [hown, map_nil, append_nil, under]
    congr 1
    apply filter_congr
    intro entry _
    cases hindex : entry.1 == j with
    | false => rfl
    | true => simp [beq_iff_eq.mp hindex, hij]

theorem exists_last (i : ι) : ∃ front l', Interleaves sequences l' ∧ l'.map Prod.snd = front ++ sequences i := by
  refine ⟨(l.filter (fun entry => entry.1 != i)).map Prod.snd, _, h.moveLast i, ?_⟩
  rw [map_append, ← h i]
  rfl

end

end Interleaves

/-! ### After the last element of a kind -/

/-- The elements after the last one that fails the test. -/
theorem rtakeWhile_split {p : α → Bool} {a : α} {xs ys : List α} (ha : p a = false) (hys : ∀ b ∈ ys, p b = true) :
    (xs ++ a :: ys).rtakeWhile p = ys := by
  induction ys using List.reverseRecOn with
  | nil => exact rtakeWhile_concat_neg p xs a (by simp [ha])
  | append_singleton ys b ih =>
    have hb : p b = true := hys b (by simp)
    have hassoc : xs ++ a :: (ys ++ [b]) = (xs ++ a :: ys) ++ [b] := by simp
    rw [hassoc, rtakeWhile_concat_pos p _ b hb, ih (fun c hc => hys c (by simp [hc]))]

/-- An element is in the tail when it and all after it pass the test. -/
theorem mem_rtakeWhile {p : α → Bool} {b : α} {l : List α} :
    b ∈ l.rtakeWhile p ↔ ∃ xs ys, l = xs ++ b :: ys ∧ p b = true ∧ ∀ c ∈ ys, p c = true := by
  constructor
  · intro hb
    obtain ⟨xs, ys, hsplit⟩ := append_of_mem hb
    refine ⟨l.rdropWhile p ++ xs, ys, ?_, mem_rtakeWhile_imp hb, ?_⟩
    · rw [append_assoc, ← hsplit, rdropWhile_append_rtakeWhile]
    · intro c hc
      apply mem_rtakeWhile_imp (l := l)
      rw [hsplit]
      simp [hc]
  · rintro ⟨xs, ys, rfl, hb, hys⟩
    induction ys using List.reverseRecOn with
    | nil =>
      rw [rtakeWhile_concat_pos p xs b hb]
      exact mem_append_right _ (mem_singleton_self b)
    | append_singleton ys c ih =>
      have hassoc : xs ++ b :: (ys ++ [c]) = (xs ++ b :: ys) ++ [c] := by simp
      rw [hassoc, rtakeWhile_concat_pos p _ c (hys c (by simp))]
      exact mem_append_left _ (ih (fun d hd => hys d (by simp [hd])))

/-- Some element is the last to fail the test. -/
theorem exists_last_failing {p : α → Bool} {l : List α} (h : ∃ a ∈ l, p a = false) :
    ∃ xs a ys, l = xs ++ a :: ys ∧ p a = false ∧ ∀ b ∈ ys, p b = true := by
  induction l using List.reverseRecOn with
  | nil =>
    obtain ⟨a, ha, _⟩ := h
    cases ha
  | append_singleton l b ih =>
    cases hb : p b with
    | false => exact ⟨l, b, [], rfl, hb, fun c hc => nomatch hc⟩
    | true =>
      obtain ⟨a, ha, hpa⟩ := h
      have hin : a ∈ l := by
        rcases mem_append.mp ha with hin | hlast
        · exact hin
        · rw [mem_singleton.mp hlast, hb] at hpa
          cases hpa
      obtain ⟨xs, c, ys, rfl, hc, hys⟩ := ih ⟨a, hin, hpa⟩
      refine ⟨xs, c, ys ++ [b], by simp, hc, ?_⟩
      intro d hd
      rcases mem_append.mp hd with hin | hlast
      · exact hys d hin
      · rw [mem_singleton.mp hlast, hb]

namespace Interleaves

variable {sequences : ι → List α} {l : List (ι × α)} {p : α → Bool}

/-- The tail of an interleaving is made of tails of the sequences. -/
theorem mem_tail (h : Interleaves sequences l) {b : α} (hb : b ∈ (l.map Prod.snd).rtakeWhile p) :
    ∃ i, b ∈ (sequences i).rtakeWhile p := by
  obtain ⟨xs, ys, hsplit, hpb, hys⟩ := mem_rtakeWhile.mp hb
  obtain ⟨front, back, rfl, rfl, hback⟩ := map_eq_append_iff.mp hsplit
  obtain ⟨⟨i, b⟩, rest, rfl, rfl, rfl⟩ := map_eq_cons_iff.mp hback
  refine ⟨i, mem_rtakeWhile.mpr ⟨under i front, under i rest, ?_, hpb, ?_⟩⟩
  · rw [← h i, under_append, under_cons_self]
  · intro c hc
    exact hys c (mem_map.mpr ⟨(i, c), mem_under.mp hc, rfl⟩)

/-- One of the sequences has its whole tail in the tail of the interleaving. -/
theorem exists_tail (h : Interleaves sequences l) (hfails : ∃ a ∈ l.map Prod.snd, p a = false) :
    ∃ i, (∃ a ∈ sequences i, p a = false) ∧
      ∀ c ∈ (sequences i).rtakeWhile p, c ∈ (l.map Prod.snd).rtakeWhile p := by
  obtain ⟨xs, a, ys, hsplit, hpa, hys⟩ := exists_last_failing hfails
  have htail : (l.map Prod.snd).rtakeWhile p = ys := by
    rw [hsplit]
    exact rtakeWhile_split hpa hys
  obtain ⟨front, back, rfl, rfl, hback⟩ := map_eq_append_iff.mp hsplit
  obtain ⟨⟨i, a⟩, rest, rfl, rfl, rfl⟩ := map_eq_cons_iff.mp hback
  have hown : sequences i = under i front ++ a :: under i rest := by
    rw [← h i, under_append, under_cons_self]
  have hrest : ∀ c ∈ under i rest, c ∈ rest.map Prod.snd :=
    fun c hc => mem_map.mpr ⟨(i, c), mem_under.mp hc, rfl⟩
  refine ⟨i, ⟨a, by rw [hown]; simp, hpa⟩, ?_⟩
  intro c hc
  rw [hown, rtakeWhile_split hpa (fun d hd => hys d (hrest d hd))] at hc
  rw [htail]
  exact hrest c hc

end Interleaves

end Ocreg
