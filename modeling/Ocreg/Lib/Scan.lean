/-
Module: Ocreg.Lib.Scan
Purpose: Linear scans over lists: the first entry with a key, the best entry seen so far, sums by groups, sorting by a
  key, and sorting with one entry kept per key.
-/
import Mathlib

namespace Scan

open List

variable {α κ : Type} {ι : Type}

variable {as : List α} {a result : α}

/-- Two lists that show the same under `f` show the same under what `f` determines. -/
theorem map_eq_of_map_eq {γ : Type} {f : α → κ} {g g' : α → γ} {bs : List α} (h : as.map f = bs.map f)
    (hg : ∀ a ∈ as, ∀ b ∈ bs, f a = f b → g a = g' b) : as.map g = bs.map g' := by
  induction as generalizing bs with
  | nil =>
    cases bs with
    | nil => rfl
    | cons b bs => cases h
  | cons a as ih =>
    cases bs with
    | nil => cases h
    | cons b bs =>
      obtain ⟨hhead, htail⟩ := List.cons.inj h
      rw [map_cons, map_cons, hg a mem_cons_self b mem_cons_self hhead,
        ih htail (fun a ha b hb => hg a (mem_cons_of_mem _ ha) b (mem_cons_of_mem _ hb))]

/-- What a lookup by key finds has that key. -/
theorem key_of_find? [DecidableEq κ] (key : α → κ) {k : κ} (h : as.find? (fun b => key b == k) = some a) :
    key a = k := by
  simpa using List.find?_some h

/-- Among entries with pairwise different keys, looking for the key of an entry finds that entry. -/
theorem find?_key_of_mem [DecidableEq κ] {key : α → κ} (hnodup : (as.map key).Nodup) (hmem : a ∈ as) :
    as.find? (fun b => key b == key a) = some a := by
  induction as with
  | nil => cases hmem
  | cons b as ih =>
    rw [map_cons, nodup_cons] at hnodup
    rcases mem_cons.mp hmem with rfl | hmem
    · simp
    · have hne : key b ≠ key a := fun heq => hnodup.1 (heq ▸ mem_map_of_mem hmem)
      rw [List.find?_cons_of_neg (by simpa using hne)]
      exact ih hnodup.2 hmem

/-! ### Best so far -/

/-- Keep the better of the best entry so far and the next one; the earlier of equals stays. -/
def bestSoFar (better : α → α → Bool) (best : Option α) (a : α) : Option α :=
  match best with
  | none => some a
  | some b => if better a b then some a else some b

/-- The best entry of a list, by one pass. -/
def bestBy (better : α → α → Bool) (as : List α) : Option α := as.foldl (bestSoFar better) none

theorem bestSoFar_foldl_mem {better : α → α → Bool} {best : Option α}
    (h : as.foldl (bestSoFar better) best = some result) : best = some result ∨ result ∈ as := by
  induction as generalizing best with
  | nil => exact .inl h
  | cons a as ih =>
    rw [foldl_cons] at h
    rcases ih h with heq | hmem
    · cases best with
      | none =>
        cases heq
        exact .inr mem_cons_self
      | some b =>
        rw [bestSoFar] at heq
        split at heq
        · cases heq
          exact .inr mem_cons_self
        · exact .inl heq
    · exact .inr (mem_cons_of_mem _ hmem)

theorem bestBy_mem {better : α → α → Bool} (h : bestBy better as = some result) : result ∈ as := by
  rcases bestSoFar_foldl_mem h with hnone | hmem
  · cases hnone
  · exact hmem

theorem bestSoFar_isSome (better : α → α → Bool) (as : List α) (b : α) :
    ∃ result, as.foldl (bestSoFar better) (some b) = some result := by
  induction as generalizing b with
  | nil => exact ⟨b, rfl⟩
  | cons a as ih =>
    rw [foldl_cons, bestSoFar]
    split
    · exact ih a
    · exact ih b

theorem bestBy_eq_none {better : α → α → Bool} : bestBy better as = none ↔ as = [] := by
  cases as with
  | nil => simp [bestBy]
  | cons a as =>
    obtain ⟨result, hresult⟩ := bestSoFar_isSome better as a
    have hsome : bestBy better (a :: as) = some result := hresult
    simp [hsome]

theorem bestSoFar_foldl_le [LinearOrder κ] {rank : α → κ} {better : α → α → Bool}
    (hbetter : ∀ a b, better a b = true ↔ rank a < rank b) {best : Option α}
    (h : as.foldl (bestSoFar better) best = some result) :
    (∀ b ∈ best, rank result ≤ rank b) ∧ ∀ a ∈ as, rank result ≤ rank a := by
  induction as generalizing best with
  | nil =>
    refine ⟨?_, by simp⟩
    intro b hb
    rw [foldl_nil, hb] at h
    cases h
    exact le_refl _
  | cons a as ih =>
    rw [foldl_cons] at h
    obtain ⟨hbest, hrest⟩ := ih h
    -- the next accumulator ranks no higher than `a` and than the one before it
    have hnext : rank result ≤ rank a ∧ ∀ b ∈ best, rank result ≤ rank b := by
      cases best with
      | none => exact ⟨hbest a rfl, by simp⟩
      | some b =>
        rw [bestSoFar] at hbest
        by_cases hab : better a b = true
        · have ha := hbest a (by simp [hab])
          refine ⟨ha, ?_⟩
          rintro b' ⟨⟩
          exact ha.trans (le_of_lt ((hbetter a b).mp hab))
        · have hb := hbest b (by simp [hab])
          have hle : rank b ≤ rank a := not_lt.mp (fun hlt => hab ((hbetter a b).mpr hlt))
          refine ⟨hb.trans hle, ?_⟩
          rintro b' ⟨⟩
          exact hb
    refine ⟨hnext.2, ?_⟩
    intro c hc
    rcases mem_cons.mp hc with rfl | hc
    · exact hnext.1
    · exact hrest c hc

/-- When `better` compares ranks, the best entry ranks no higher than any other. -/
theorem bestBy_le [LinearOrder κ] {rank : α → κ} {better : α → α → Bool}
    (hbetter : ∀ a b, better a b = true ↔ rank a < rank b)
    (h : bestBy better as = some result) (ha : a ∈ as) : rank result ≤ rank a :=
  (bestSoFar_foldl_le hbetter h).2 a ha

theorem bestSoFar_foldl_first [LinearOrder κ] [LinearOrder ι] {rank : α → κ} {place : α → ι}
    {better : α → α → Bool} (hbetter : ∀ a b, better a b = true ↔ rank a < rank b) {as : List α} {b result : α}
    (hsorted : (b :: as).Pairwise (fun a b => place a < place b))
    (h : as.foldl (bestSoFar better) (some b) = some result) :
    ∀ a ∈ b :: as, rank result < rank a ∨ rank result = rank a ∧ place result ≤ place a := by
  induction as generalizing b with
  | nil =>
    cases h
    exact forall_mem_singleton.mpr (.inr ⟨rfl, le_refl _⟩)
  | cons c as ih =>
    obtain ⟨hfirst, hrest⟩ := pairwise_cons.mp hsorted
    have hbc : place b < place c := hfirst c mem_cons_self
    rw [foldl_cons, bestSoFar] at h
    by_cases hcb : better c b = true
    · rw [if_pos hcb] at h
      have hlater := ih hrest h
      intro a ha
      rcases mem_cons.mp ha with rfl | ha
      · have hlt := (hbetter c a).mp hcb
        rcases hlater c mem_cons_self with hc | hc
        · exact .inl (hc.trans hlt)
        · exact .inl (hc.1 ▸ hlt)
      · exact hlater a ha
    · rw [if_neg hcb] at h
      have hle : rank b ≤ rank c := not_lt.mp (fun hlt => hcb ((hbetter c b).mpr hlt))
      have hlater := ih (pairwise_cons.mpr ⟨fun a ha => hfirst a (mem_cons_of_mem c ha), (pairwise_cons.mp hrest).2⟩) h
      intro a ha
      rcases mem_cons.mp ha with rfl | ha
      · exact hlater a mem_cons_self
      · rcases mem_cons.mp ha with rfl | ha
        · rcases hlater b mem_cons_self with hb | hb
          · exact .inl (lt_of_lt_of_le hb hle)
          · rcases lt_or_eq_of_le hle with hlt | heq
            · exact .inl (hb.1 ▸ hlt)
            · exact .inr ⟨hb.1.trans heq, hb.2.trans (le_of_lt hbc)⟩
        · exact hlater a (mem_cons_of_mem b ha)

/-- In a list in order of place the best entry is the first of its rank. -/
theorem bestBy_first [LinearOrder κ] [LinearOrder ι] {rank : α → κ} {place : α → ι}
    {better : α → α → Bool} (hbetter : ∀ a b, better a b = true ↔ rank a < rank b)
    (hsorted : as.Pairwise (fun a b => place a < place b)) (h : bestBy better as = some result)
    (ha : a ∈ as) : rank result < rank a ∨ rank result = rank a ∧ place result ≤ place a := by
  cases as with
  | nil => cases ha
  | cons b as => exact bestSoFar_foldl_first hbetter hsorted h a ha

/-! ### Sums by groups -/

/-- The sum over a list is the sum over the groups of its entries, when every group is listed once. -/
theorem sum_groups [DecidableEq κ] (group : α → κ) (weight : α → Nat) {keys : List κ} (hkeys : keys.Nodup)
    (hall : ∀ a ∈ as, group a ∈ keys) :
    (keys.map (fun k => ((as.filter (fun a => group a == k)).map weight).sum)).sum = (as.map weight).sum := by
  induction as with
  | nil => simp
  | cons a as ih =>
    have hone : ∀ keys : List κ, keys.Nodup → (keys.map (fun k => if group a = k then weight a else 0)).sum =
          if group a ∈ keys then weight a else 0 := by
      intro keys hnodup
      induction keys with
      | nil => simp
      | cons k keys ihk =>
        obtain ⟨hhead, hrest⟩ := nodup_cons.mp hnodup
        rw [map_cons, sum_cons, ihk hrest]
        by_cases hk : group a = k
        · subst hk
          simp [hhead]
        · simp [hk]
    have hsplit : ∀ k, (((a :: as).filter (fun a => group a == k)).map weight).sum =
        (if group a = k then weight a else 0) + ((as.filter (fun a => group a == k)).map weight).sum := by
      intro k
      by_cases hk : group a = k <;> simp [hk]
    simp only [hsplit, sum_map_add]
    rw [hone keys hkeys, if_pos (hall a mem_cons_self),
      ih (fun b hb => hall b (mem_cons_of_mem _ hb)), map_cons, sum_cons]

/-! ### Sorting with one entry per key -/

section SortUnique

variable [LinearOrder κ]

/-- Place an entry in a list sorted by key, taking the place of an entry with the same key. -/
def insertUniqueBy (key : α → κ) (a : α) : List α → List α
  | [] => [a]
  | b :: rest =>
    if key a < key b then a :: b :: rest
    else if key a = key b then a :: rest
    else b :: insertUniqueBy key a rest

/-- Sort by key and keep the first entry of each key. -/
def sortUniqueBy (key : α → κ) (as : List α) : List α := as.foldr (insertUniqueBy key) []

/-- Strictly increasing keys. -/
def SortedBy (key : α → κ) (as : List α) : Prop := as.Pairwise (fun a b => key a < key b)

theorem mem_insertUniqueBy {key : α → κ} {c : α} (h : c ∈ insertUniqueBy key a as) : c = a ∨ c ∈ as := by
  induction as with
  | nil => simpa [insertUniqueBy] using h
  | cons b as ih =>
    simp only [insertUniqueBy] at h
    split at h
    · simpa using h
    · split at h
      · rcases mem_cons.mp h with h | h
        · exact .inl h
        · exact .inr (mem_cons_of_mem _ h)
      · rcases mem_cons.mp h with h | h
        · exact .inr (h ▸ mem_cons_self)
        · exact (ih h).imp_right (mem_cons_of_mem _)

theorem insertUniqueBy_sorted {key : α → κ} (h : SortedBy key as) : SortedBy key (insertUniqueBy key a as) := by
  induction as with
  | nil => simp [insertUniqueBy, SortedBy]
  | cons b as ih =>
    obtain ⟨hb, has⟩ := pairwise_cons.mp h
    simp only [insertUniqueBy]
    split
    next hlt =>
      refine pairwise_cons.mpr ⟨?_, h⟩
      intro c hc
      rcases mem_cons.mp hc with rfl | hc
      · exact hlt
      · exact lt_trans hlt (hb c hc)
    next hnlt =>
      split
      next heq => exact pairwise_cons.mpr ⟨fun c hc => heq ▸ hb c hc, has⟩
      next hne =>
        refine pairwise_cons.mpr ⟨?_, ih has⟩
        intro c hc
        rcases mem_insertUniqueBy hc with rfl | hc
        · exact lt_of_le_of_ne (not_lt.mp hnlt) (Ne.symm hne)
        · exact hb c hc

theorem sortUniqueBy_sorted (key : α → κ) (as : List α) : SortedBy key (sortUniqueBy key as) := by
  induction as with
  | nil => exact List.Pairwise.nil
  | cons a as ih => exact insertUniqueBy_sorted ih

/-- Sorting a strictly sorted list changes nothing. -/
theorem sortUniqueBy_of_sorted {key : α → κ} (h : SortedBy key as) : sortUniqueBy key as = as := by
  induction as with
  | nil => rfl
  | cons a as ih =>
    obtain ⟨ha, has⟩ := pairwise_cons.mp h
    have htail : sortUniqueBy key (a :: as) = insertUniqueBy key a as := by
      rw [sortUniqueBy, foldr_cons]
      exact congrArg (insertUniqueBy key a) (ih has)
    rw [htail]
    cases as with
    | nil => rfl
    | cons b as => rw [insertUniqueBy, if_pos (ha b mem_cons_self)]

theorem mem_of_mem_sortUniqueBy {key : α → κ} (h : a ∈ sortUniqueBy key as) : a ∈ as := by
  induction as with
  | nil => cases h
  | cons b as ih =>
    rcases mem_insertUniqueBy h with h | h
    · exact h ▸ mem_cons_self
    · exact mem_cons_of_mem _ (ih h)

theorem self_mem_insertUniqueBy (key : α → κ) (a : α) (as : List α) : a ∈ insertUniqueBy key a as := by
  induction as with
  | nil => simp [insertUniqueBy]
  | cons b as ih =>
    simp only [insertUniqueBy]
    split
    · exact mem_cons_self
    · split
      · exact mem_cons_self
      · exact mem_cons_of_mem _ ih

theorem mem_insertUniqueBy_of_mem {key : α → κ} (hinj : Function.Injective key) {c : α}
    (h : c ∈ as) : c ∈ insertUniqueBy key a as := by
  induction as with
  | nil => cases h
  | cons b as ih =>
    simp only [insertUniqueBy]
    split
    · exact mem_cons_of_mem _ h
    · split
      next heq =>
        rcases mem_cons.mp h with rfl | h
        · exact hinj heq ▸ mem_cons_self
        · exact mem_cons_of_mem _ h
      next hne =>
        rcases mem_cons.mp h with rfl | h
        · exact mem_cons_self
        · exact mem_cons_of_mem _ (ih h)

/-- With an injective key nothing is lost but repetitions. -/
theorem mem_sortUniqueBy {key : α → κ} (hinj : Function.Injective key) : a ∈ sortUniqueBy key as ↔ a ∈ as := by
  refine ⟨mem_of_mem_sortUniqueBy, ?_⟩
  intro h
  induction as with
  | nil => cases h
  | cons b as ih =>
    rcases mem_cons.mp h with rfl | h
    · exact self_mem_insertUniqueBy key a _
    · exact mem_insertUniqueBy_of_mem hinj (ih h)

end SortUnique

/-! ### Sorting by a key -/

theorem insertionSort_ascends [LinearOrder κ] (keyOf : α → κ) (values : List α) :
    (values.insertionSort (fun a b => keyOf a ≤ keyOf b)).Pairwise (fun a b => keyOf a ≤ keyOf b) :=
  @List.pairwise_insertionSort _ (fun a b : α => keyOf a ≤ keyOf b) _
    ⟨fun a b => le_total (keyOf a) (keyOf b)⟩ ⟨fun _ _ _ => le_trans⟩ values

/-- Sorting by a key leaves a list alone exactly when the keys do not descend. -/
theorem insertionSort_eq_iff [LinearOrder κ] (keyOf : α → κ) (values : List α) :
    values.insertionSort (fun a b => keyOf a ≤ keyOf b) = values ↔ values.Pairwise (fun a b => keyOf a ≤ keyOf b) := by
  constructor
  · intro hsorted
    have hascends := insertionSort_ascends keyOf values
    rwa [hsorted] at hascends
  · exact List.Pairwise.insertionSort_eq

/-- A value with a new key goes behind the values below it. -/
theorem exists_insertionSort_append [LinearOrder κ] (keyOf : α → κ) {values : List α} {value : α}
    (hsorted : values.Pairwise (fun a b => keyOf a ≤ keyOf b)) (hnew : ∀ other ∈ values, keyOf other ≠ keyOf value) :
    ∃ rest, (values ++ [value]).insertionSort (fun a b => keyOf a ≤ keyOf b) =
      values.filter (fun other => keyOf other < keyOf value) ++ value :: rest := by
  induction values with
  | nil => exact ⟨[], rfl⟩
  | cons first values ih =>
    obtain ⟨hfirst, hvalues⟩ := pairwise_cons.mp hsorted
    obtain ⟨rest, hrest⟩ := ih hvalues (fun other hother => hnew other (mem_cons_of_mem _ hother))
    rw [cons_append]
    rcases lt_or_gt_of_ne (hnew first mem_cons_self) with hbelow | habove
    · have hleast : ∀ other ∈ values ++ [value], keyOf first ≤ keyOf other := by
        exact forall_mem_append.mpr ⟨hfirst, forall_mem_singleton.mpr hbelow.le⟩
      refine ⟨rest, ?_⟩
      rw [insertionSort_cons_of_forall_rel _ hleast, hrest, filter_cons_of_pos (by simpa using hbelow), cons_append]
    · have hnone : ∀ other ∈ first :: values, ¬ decide (keyOf other < keyOf value) = true := by
        intro other hother
        rw [decide_eq_true_eq, not_lt]
        rcases mem_cons.mp hother with rfl | hother
        · exact habove.le
        · exact habove.le.trans (hfirst other hother)
      rw [filter_eq_nil_iff.mpr (fun other hother => hnone other (mem_cons_of_mem _ hother))] at hrest
      rw [insertionSort_cons, hrest, filter_eq_nil_iff.mpr hnone, nil_append,
        orderedInsert_cons, if_neg (not_le.mpr habove)]
      exact ⟨_, rfl⟩

end Scan
