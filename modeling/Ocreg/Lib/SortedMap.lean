/-
Module: Ocreg.Lib.SortedMap
Purpose: Finite maps kept as key-ordered association lists, the shape of an ordered tree map whose
  iteration order is observable.
-/
import Ocreg.Lib.Scan

/-- A finite map from `κ` to `β`. The entries are strictly ordered by key, so a map has one
    representation and iteration visits the keys in increasing order. -/
structure SortedMap (κ : Type) (β : Type) [LinearOrder κ] where
  entries : List (κ × β)
  ordered : entries.Pairwise (fun a b => a.1 < b.1)

namespace SortedMap

open List

variable {κ β γ : Type} [LinearOrder κ]

variable {entries : List (κ × β)} {m n : SortedMap κ β} {d v : β} {j k : κ}

instance [DecidableEq β] : DecidableEq (SortedMap κ β) := fun m n =>
  decidable_of_iff (m.entries = n.entries) (by cases m; cases n; simp)

/-- The map without entries. -/
def empty : SortedMap κ β := ⟨[], List.Pairwise.nil⟩

/-- Value stored at `k`, by a scan that stops at the first equal key. -/
def lookupIn (k : κ) : List (κ × β) → Option β
  | [] => none
  | (k', v) :: rest => if k = k' then some v else lookupIn k rest

/-- Insert or overwrite at the key's place. -/
def insertIn (k : κ) (v : β) : List (κ × β) → List (κ × β)
  | [] => [(k, v)]
  | (k', v') :: rest =>
    if k < k' then (k, v) :: (k', v') :: rest
    else if k = k' then (k, v) :: rest
    else (k', v') :: insertIn k v rest

/-- Remove the entry of a key. -/
def eraseIn (k : κ) (entries : List (κ × β)) : List (κ × β) :=
  entries.filter (fun entry => entry.1 ≠ k)

theorem insertIn_eq (k : κ) (v : β) (entries : List (κ × β)) :
    insertIn k v entries = Scan.insertUniqueBy Prod.fst (k, v) entries := by
  induction entries with
  | nil => rfl
  | cons head rest ih => rw [insertIn, Scan.insertUniqueBy, ih]

theorem insertIn_ordered (h : entries.Pairwise (fun a b => a.1 < b.1)) :
    (insertIn k v entries).Pairwise (fun a b => a.1 < b.1) :=
  insertIn_eq k v entries ▸ Scan.insertUniqueBy_sorted h

section

variable (m)

/-- The value at a key. -/
def find? (k : κ) : Option β := lookupIn k m.entries

/-- Insert or overwrite (`map[k] = v`). -/
def insert (k : κ) (v : β) : SortedMap κ β :=
  ⟨insertIn k v m.entries, insertIn_ordered m.ordered⟩

/-- Remove a key. -/
def erase (k : κ) : SortedMap κ β :=
  ⟨eraseIn k m.entries, m.ordered.filter _⟩

/-- Number of entries. -/
def size : Nat := m.entries.length

/-- Values in key order. -/
def values : List β := m.entries.map Prod.snd

/-- Apply a function to every value. -/
def mapValues (f : β → γ) : SortedMap κ γ where
  entries := m.entries.map (fun entry => (entry.1, f entry.2))
  ordered := pairwise_map.mpr m.ordered

/-- Sum of a weight over the entries. -/
def sumOn (weight : κ → β → Nat) : Nat :=
  (m.entries.map (fun entry => weight entry.1 entry.2)).sum

end

/-! ### Lookup -/

theorem lookupIn_eq_none_of_lt (h : ∀ entry ∈ entries, k < entry.1) : lookupIn k entries = none := by
  induction entries with
  | nil => rfl
  | cons head rest ih =>
    obtain ⟨k', v'⟩ := head
    have hne : k ≠ k' := ne_of_lt (h (k', v') mem_cons_self)
    simp only [lookupIn, if_neg hne]
    exact ih fun entry hmem => h entry (mem_cons_of_mem _ hmem)

theorem lookupIn_insertIn (h : entries.Pairwise (fun a b => a.1 < b.1)) :
    lookupIn j (insertIn k v entries) = if j = k then some v else lookupIn j entries := by
  induction entries with
  | nil => simp [insertIn, lookupIn]
  | cons head rest ih =>
    obtain ⟨k', v'⟩ := head
    have hrest := pairwise_cons.mp h
    simp only [insertIn]
    split
    · rfl
    · split
      · rename_i _ heq
        subst heq
        simp only [lookupIn]
        split <;> rfl
      · rename_i hnlt hne
        simp only [lookupIn, ih hrest.2]
        by_cases hjk : j = k
        · subst hjk
          simp [hne]
        · simp [hjk]

theorem lookupIn_eq_some_iff (h : entries.Pairwise (fun a b => a.1 < b.1)) :
    lookupIn k entries = some v ↔ (k, v) ∈ entries := by
  induction entries with
  | nil => simp [lookupIn]
  | cons head rest ih =>
    obtain ⟨k', v'⟩ := head
    have hrest := pairwise_cons.mp h
    simp only [lookupIn, mem_cons, Prod.mk.injEq]
    by_cases hk : k = k'
    · subst hk
      have hnot : (k, v) ∉ rest := fun hmem => absurd (hrest.1 (k, v) hmem) (lt_irrefl _)
      simp [hnot, eq_comm]
    · simp [hk, ih hrest.2]

@[simp] theorem find?_empty (k : κ) : (empty : SortedMap κ β).find? k = none := rfl

@[simp] theorem entries_empty : (empty : SortedMap κ β).entries = [] := rfl

section

variable (m)

theorem find?_insert (k j : κ) (v : β) : (m.insert k v).find? j = if j = k then some v else m.find? j :=
  lookupIn_insertIn m.ordered

@[simp] theorem find?_insert_self (k : κ) (v : β) : (m.insert k v).find? k = some v := by
  simp [find?_insert]

theorem find?_insert_of_ne (v : β) (h : j ≠ k) : (m.insert k v).find? j = m.find? j := by
  simp [find?_insert, h]

end

theorem find?_eq_some_iff : m.find? k = some v ↔ (k, v) ∈ m.entries :=
  lookupIn_eq_some_iff m.ordered

section

variable (m)

theorem find?_erase (k j : κ) : (m.erase k).find? j = if j = k then none else m.find? j := by
  apply Option.ext
  intro v
  rw [find?_eq_some_iff]
  by_cases hjk : j = k
  · simp [erase, eraseIn, hjk]
  · simp [erase, eraseIn, hjk, find?_eq_some_iff]

@[simp] theorem find?_erase_self (k : κ) : (m.erase k).find? k = none := by
  simp [find?_erase]

theorem find?_erase_of_ne (h : j ≠ k) : (m.erase k).find? j = m.find? j := by
  simp [find?_erase, h]

end

/-- Membership in the entry list is a successful lookup. -/
theorem mem_entries_iff {entry : κ × β} : entry ∈ m.entries ↔ m.find? entry.1 = some entry.2 :=
  find?_eq_some_iff.symm

theorem mem_entries_insert {entry : κ × β} :
    entry ∈ (m.insert k v).entries ↔ entry = (k, v) ∨ (entry ∈ m.entries ∧ entry.1 ≠ k) := by
  obtain ⟨j, w⟩ := entry
  rw [mem_entries_iff, find?_insert, mem_entries_iff]
  by_cases hjk : j = k
  · simp [hjk, eq_comm]
  · simp [hjk]

/-! ### Extensionality -/

theorem entries_eq_of_mem_iff {xs ys : List (κ × β)} (hx : xs.Pairwise (fun a b => a.1 < b.1))
    (hy : ys.Pairwise (fun a b => a.1 < b.1)) (h : ∀ entry, entry ∈ xs ↔ entry ∈ ys) : xs = ys := by
  have hxn : xs.Nodup := hx.imp (fun hab heq => ne_of_lt hab (congrArg Prod.fst heq))
  have hyn : ys.Nodup := hy.imp (fun hab heq => ne_of_lt hab (congrArg Prod.fst heq))
  have hperm : xs.Perm ys := (perm_ext_iff_of_nodup hxn hyn).mpr h
  refine hperm.eq_of_pairwise ?_ hx hy
  intro a b _ _ hab hba
  exact absurd (lt_trans hab hba) (lt_irrefl _)

/-- Two maps with the same lookups are equal. -/
theorem ext_find? (h : ∀ k, m.find? k = n.find? k) : m = n := by
  have hentries : m.entries = n.entries := by
    apply entries_eq_of_mem_iff m.ordered n.ordered
    intro entry
    rw [mem_entries_iff, mem_entries_iff, h]
  cases m; cases n
  simpa using hentries

/-- Writing back what is stored changes nothing. -/
theorem insert_find?_self (h : m.find? k = some v) : m.insert k v = m := by
  apply ext_find?
  intro j
  rw [find?_insert]
  split
  · rename_i hjk
    rw [hjk, h]
  · rfl

theorem insert_insert (m : SortedMap κ β) (k : κ) (v w : β) : (m.insert k v).insert k w = m.insert k w := by
  apply ext_find?
  intro j
  simp only [find?_insert]
  split <;> rfl

/-- Erasing a freshly inserted key restores the map. -/
theorem erase_insert_of_find?_none (v : β) (h : m.find? k = none) : (m.insert k v).erase k = m := by
  apply ext_find?
  intro j
  rw [find?_erase, find?_insert]
  split
  · rename_i hjk
    rw [hjk, h]
  · rfl

/-! ### Sums over the entries -/

theorem sum_insertIn (weight : κ → β → Nat) (h : entries.Pairwise (fun a b => a.1 < b.1)) :
    ((insertIn k v entries).map (fun entry => weight entry.1 entry.2)).sum +
        (lookupIn k entries).elim 0 (weight k) =
      (entries.map (fun entry => weight entry.1 entry.2)).sum + weight k v := by
  induction entries with
  | nil => simp [insertIn, lookupIn]
  | cons head rest ih =>
    obtain ⟨k', v'⟩ := head
    have hrest := pairwise_cons.mp h
    simp only [insertIn]
    split
    · rename_i hlt
      have hnone : lookupIn k ((k', v') :: rest) = none := by
        apply lookupIn_eq_none_of_lt
        intro entry hmem
        rcases mem_cons.mp hmem with rfl | hmem
        · exact hlt
        · exact lt_trans hlt (hrest.1 entry hmem)
      rw [hnone]
      simp only [map_cons, sum_cons, Option.elim_none]
      omega
    · split
      · rename_i _ heq
        subst heq
        simp only [lookupIn, if_true, Option.elim_some, map_cons, sum_cons]
        omega
      · rename_i hne
        have := ih hrest.2
        simp only [lookupIn, if_neg hne, map_cons, sum_cons]
        omega

section

variable (m)

/-- Inserting replaces the weight of the old entry by the weight of the new one. -/
theorem sumOn_insert (k : κ) (v : β) (weight : κ → β → Nat) :
    (m.insert k v).sumOn weight + (m.find? k).elim 0 (weight k) = m.sumOn weight + weight k v :=
  sum_insertIn weight m.ordered

/-- Erasing removes the weight of the erased entry. -/
theorem sumOn_erase (k : κ) (weight : κ → β → Nat) :
    (m.erase k).sumOn weight + (m.find? k).elim 0 (weight k) = m.sumOn weight := by
  cases hfind : m.find? k with
  | none =>
    have : m.erase k = m := by
      apply ext_find?
      intro j
      rw [find?_erase]
      split
      · rename_i hjk
        rw [hjk, hfind]
      · rfl
    simp [this]
  | some v =>
    have hback : (m.erase k).insert k v = m := by
      apply ext_find?
      intro j
      rw [find?_insert, find?_erase]
      split
      · rename_i hjk
        rw [hjk, hfind]
      · rfl
    have := sumOn_insert (m.erase k) k v weight
    rw [hback, find?_erase_self] at this
    simpa using this.symm

@[simp] theorem length_values : m.values.length = m.size := by
  rw [values, length_map, size]

theorem size_eq_sumOn : m.size = m.sumOn (fun _ _ => 1) := by
  simp [size, sumOn]

theorem size_insert (k : κ) (v : β) : (m.insert k v).size = if (m.find? k).isSome then m.size else m.size + 1 := by
  have := sumOn_insert m k v (fun _ _ => 1)
  rw [size_eq_sumOn, size_eq_sumOn]
  cases hfind : m.find? k <;> simp [hfind] at this ⊢ <;> omega

end

theorem size_erase_of_some (h : m.find? k = some v) : (m.erase k).size + 1 = m.size := by
  have := sumOn_erase m k (fun _ _ => 1)
  rw [size_eq_sumOn, size_eq_sumOn]
  simpa [h] using this

/-- A weight is at most the sum it takes part in. -/
theorem le_sumOn (weight : κ → β → Nat) (h : m.find? k = some v) : weight k v ≤ m.sumOn weight := by
  have := sumOn_erase m k weight
  rw [h] at this
  simp only [Option.elim_some] at this
  omega

/-! ### Mapping values -/

theorem lookupIn_map (k : κ) (entries : List (κ × β)) (f : β → γ) :
    lookupIn k (entries.map (fun entry => (entry.1, f entry.2))) = (lookupIn k entries).map f := by
  induction entries with
  | nil => rfl
  | cons head rest ih =>
    simp only [map_cons, lookupIn]
    split
    · rfl
    · exact ih

@[simp] theorem find?_mapValues (m : SortedMap κ β) (f : β → γ) (k : κ) :
    (m.mapValues f).find? k = (m.find? k).map f := lookupIn_map k m.entries f

theorem sumOn_mapValues (m : SortedMap κ β) (f : β → γ) (weight : κ → γ → Nat) :
    (m.mapValues f).sumOn weight = m.sumOn (fun k v => weight k (f v)) := by
  simp [sumOn, mapValues, map_map, Function.comp_def]

/-! ### Maps up to a default -/

/-- Elements that contribute nothing can be left out. -/
theorem flatMap_filter {α : Type} {f : α → List γ} {p : α → Bool} {as : List α}
    (h : ∀ a ∈ as, p a = false → f a = []) : (as.filter p).flatMap f = as.flatMap f := by
  induction as with
  | nil => rfl
  | cons a as ih =>
    have hrest := ih (fun a ha => h a (mem_cons_of_mem _ ha))
    cases hp : p a with
    | true => rw [filter_cons_of_pos hp, flatMap_cons, flatMap_cons, hrest]
    | false =>
      rw [filter_cons_of_neg (by simp [hp]), flatMap_cons, h a mem_cons_self hp, hrest]
      rfl

/-- An entry that is not the default is there in every map with the same lookups up to the default. -/
theorem find?_of_getD_eq (h : (m.find? k).getD d = (n.find? k).getD d)
    (hfind : m.find? k = some v) (hv : v ≠ d) : n.find? k = some v := by
  rw [hfind, Option.getD_some] at h
  cases hn : n.find? k with
  | none =>
    rw [hn] at h
    exact absurd h hv
  | some w =>
    rw [hn] at h
    exact congrArg some h.symm

/-- Maps with the same lookups up to a default have the same entries apart from the default. -/
theorem filter_entries_eq {p : κ × β → Bool} (hd : ∀ k, p (k, d) = false)
    (h : ∀ k, (m.find? k).getD d = (n.find? k).getD d) : m.entries.filter p = n.entries.filter p := by
  have himp : ∀ {m n : SortedMap κ β}, (∀ k, (m.find? k).getD d = (n.find? k).getD d) →
      ∀ entry, entry ∈ m.entries.filter p → entry ∈ n.entries.filter p := by
    rintro m n h ⟨k, v⟩ hentry
    obtain ⟨hfind, hp⟩ := mem_filter.mp hentry
    rw [mem_entries_iff] at hfind
    have hv : v ≠ d := by
      rintro rfl
      rw [hd k] at hp
      cases hp
    exact mem_filter.mpr ⟨mem_entries_iff.mpr (find?_of_getD_eq (h k) hfind hv), hp⟩
  apply entries_eq_of_mem_iff
  · exact m.ordered.filter _
  · exact n.ordered.filter _
  · exact fun entry => ⟨himp h entry, himp (fun k => (h k).symm) entry⟩

section

variable (m) (f : κ × β → γ)

/-- Apply a function to every entry. -/
def mapEntries : SortedMap κ γ where
  entries := m.entries.map (fun entry => (entry.1, f entry))
  ordered := pairwise_map.mpr m.ordered

theorem find?_mapEntries (k : κ) : (m.mapEntries f).find? k = (m.find? k).map (fun v => f (k, v)) := by
  cases hfind : m.find? k with
  | some v =>
    have hmem : (k, f (k, v)) ∈ (m.mapEntries f).entries :=
      mem_map.mpr ⟨(k, v), mem_entries_iff.mpr hfind, rfl⟩
    exact mem_entries_iff.mp hmem
  | none =>
    cases hmapped : (m.mapEntries f).find? k with
    | none => rfl
    | some w =>
      have hmem : (k, w) ∈ (m.mapEntries f).entries := mem_entries_iff.mpr hmapped
      obtain ⟨⟨j, v⟩, hentry, heq⟩ := mem_map.mp hmem
      cases heq
      rw [mem_entries_iff.mp hentry] at hfind
      cases hfind

end

/-- What is read off a map when the default shows nothing. -/
theorem flatMap_entries_eq {f : κ × β → List γ} (hd : ∀ k, f (k, d) = [])
    (h : ∀ k, f (k, (m.find? k).getD d) = f (k, (n.find? k).getD d)) : m.entries.flatMap f = n.entries.flatMap f := by
  have hread : ∀ m : SortedMap κ β,
      m.entries.flatMap f = ((m.mapEntries f).entries.filter (fun entry => !entry.2.isEmpty)).flatMap Prod.snd := by
    intro m
    rw [flatMap_filter, mapEntries, flatMap_map]
    intro entry _ hempty
    simpa using hempty
  have hlookup : ∀ (m : SortedMap κ β) (k : κ), ((m.mapEntries f).find? k).getD [] = f (k, (m.find? k).getD d) := by
    intro m k
    rw [find?_mapEntries]
    cases m.find? k with
    | none => exact (hd k).symm
    | some v => rfl
  rw [hread m, hread n]
  congr 1
  apply filter_entries_eq (d := [])
  · exact fun _ => rfl
  · intro k
    rw [hlookup, hlookup, h]

/-! ### Rebuilding from values -/

theorem find?_foldl_insert (keyOf : β → κ) (hordered : entries.Pairwise (fun a b => a.1 < b.1))
    (hkeyed : ∀ entry ∈ entries, keyOf entry.2 = entry.1) (m : SortedMap κ β) (k : κ) :
    ((entries.map Prod.snd).foldl (fun m value => m.insert (keyOf value) value) m).find? k =
      (lookupIn k entries).or (m.find? k) := by
  induction entries generalizing m with
  | nil => rfl
  | cons entry entries ih =>
    obtain ⟨head, value⟩ := entry
    obtain ⟨hfirst, hrest⟩ := pairwise_cons.mp hordered
    have hhead : keyOf value = head := hkeyed (head, value) mem_cons_self
    rw [map_cons, foldl_cons, ih hrest (fun entry hentry => hkeyed entry (mem_cons_of_mem _ hentry)),
      find?_insert, hhead, lookupIn]
    by_cases hkey : k = head
    · subst hkey
      rw [lookupIn_eq_none_of_lt hfirst, if_pos rfl, if_pos rfl]
      rfl
    · rw [if_neg hkey, if_neg hkey]

/-- A map whose values carry their keys is rebuilt by inserting its values one by one. -/
theorem foldl_insert_values (keyOf : β → κ) (m : SortedMap κ β)
    (hkeyed : ∀ k value, m.find? k = some value → keyOf value = k) :
    m.values.foldl (fun m value => m.insert (keyOf value) value) empty = m := by
  apply ext_find?
  intro k
  rw [values, find?_foldl_insert keyOf m.ordered
    (fun entry hentry => hkeyed entry.1 entry.2 (mem_entries_iff.mp hentry)), find?_empty, Option.or_none]
  rfl

section

variable (keyOf : β → κ) (values : List β)

/-- Values inserted one by one stand under their own keys. -/
theorem keyed_foldl_insert :
    ∀ entry ∈ (values.foldl (fun m value => m.insert (keyOf value) value) empty).entries, keyOf entry.2 = entry.1 := by
  induction values using reverseRecOn with
  | nil => exact fun entry hentry => nomatch hentry
  | append_singleton values value ih =>
    intro entry hentry
    rw [foldl_append, foldl_cons, foldl_nil] at hentry
    rcases mem_entries_insert.mp hentry with rfl | ⟨hold, -⟩
    · rfl
    · exact ih entry hold

/-- What is found after inserting values one by one is one of them, under its own key. -/
theorem find?_foldl_insert_mem {value : β}
    (h : (values.foldl (fun m value => m.insert (keyOf value) value) empty).find? k = some value) :
    value ∈ values ∧ keyOf value = k := by
  induction values using reverseRecOn with
  | nil => cases h
  | append_singleton values last ih =>
    rw [foldl_append, foldl_cons, foldl_nil, find?_insert] at h
    split at h
    next hkey =>
      cases h
      exact ⟨mem_append_right _ mem_cons_self, hkey.symm⟩
    next =>
      obtain ⟨hmem, hkey⟩ := ih h
      exact ⟨mem_append_left _ hmem, hkey⟩

/-- Inserting values one by one and listing them again changes nothing exactly when they ascend by key. -/
theorem values_foldl_insert_iff : (values.foldl (fun m value => m.insert (keyOf value) value) empty).values = values ↔
      values.Pairwise (fun a b => keyOf a < keyOf b) := by
  constructor
  · intro hvalues
    have hordered := (values.foldl (fun m value => m.insert (keyOf value) value) empty).ordered
    rw [← hvalues, SortedMap.values, pairwise_map]
    refine hordered.imp_of_mem ?_
    intro a b ha hb hab
    rw [keyed_foldl_insert keyOf values a ha, keyed_foldl_insert keyOf values b hb]
    exact hab
  · intro hordered
    let m : SortedMap κ β := ⟨values.map (fun value => (keyOf value, value)), pairwise_map.mpr hordered⟩
    have hlisted : m.values = values := by simp [SortedMap.values, m, map_map, Function.comp_def]
    have hkeyed : ∀ k value, m.find? k = some value → keyOf value = k := by
      intro k value hfind
      obtain ⟨other, -, hentry⟩ := mem_map.mp (find?_eq_some_iff.mp hfind)
      cases hentry
      rfl
    have hback := foldl_insert_values keyOf m hkeyed
    rw [hlisted] at hback
    rw [hback, hlisted]

/-- Inserting values one by one leaves one entry for each of their keys. -/
theorem size_foldl_insert [DecidableEq κ] :
    (values.foldl (fun m value => m.insert (keyOf value) value) empty).size = (values.map keyOf).toFinset.card ∧
      ∀ k, ((values.foldl (fun m value => m.insert (keyOf value) value) empty).find? k).isSome ↔
        k ∈ values.map keyOf := by
  induction values using reverseRecOn with
  | nil => exact ⟨rfl, by simp⟩
  | append_singleton values value ih =>
    obtain ⟨hsize, hkeys⟩ := ih
    rw [foldl_append, foldl_cons, foldl_nil, map_append, map_singleton]
    refine ⟨?_, ?_⟩
    · rw [size_insert, hsize, toFinset_append, Finset.union_comm, toFinset_cons, toFinset_nil,
        insert_empty_eq, Finset.singleton_union]
      by_cases hknown : keyOf value ∈ values.map keyOf
      · rw [if_pos ((hkeys _).mpr hknown), Finset.insert_eq_of_mem (mem_toFinset.mpr hknown)]
      · rw [if_neg (fun hsome => hknown ((hkeys _).mp hsome)),
          Finset.card_insert_of_notMem (fun hmem => hknown (mem_toFinset.mp hmem))]
    · intro k
      rw [find?_insert, mem_append, mem_singleton, ← hkeys k]
      by_cases hkey : k = keyOf value
      · simp [hkey]
      · simp [hkey]

end

/-! ### Lists ordered by a key -/

/-- A list in which the keys do not descend is determined by its parts under each key. -/
theorem eq_of_filter_eq [BEq κ] [LawfulBEq κ] {keyOf : β → κ} {xs ys : List β}
    (hx : xs.Pairwise (fun a b => keyOf a ≤ keyOf b)) (hy : ys.Pairwise (fun a b => keyOf a ≤ keyOf b))
    (h : ∀ k, xs.filter (fun value => keyOf value == k) = ys.filter (fun value => keyOf value == k)) : xs = ys := by
  induction xs generalizing ys with
  | nil =>
    cases ys with
    | nil => rfl
    | cons y ys =>
      have hfirst := h (keyOf y)
      simp at hfirst
  | cons x xs ih =>
    cases ys with
    | nil =>
      have hfirst := h (keyOf x)
      simp at hfirst
    | cons y ys =>
      obtain ⟨hxs, hxrest⟩ := pairwise_cons.mp hx
      obtain ⟨hys, hyrest⟩ := pairwise_cons.mp hy
      -- each head is somewhere in the other list, so neither key is below the other
      have hmem : ∀ value k, value ∈ (x :: xs).filter (fun value => keyOf value == k) ↔
          value ∈ (y :: ys).filter (fun value => keyOf value == k) := fun value k => by rw [h k]
      have hle : keyOf y ≤ keyOf x := by
        have hx' : x ∈ y :: ys := (mem_filter.mp ((hmem x (keyOf x)).mp (by simp))).1
        rcases mem_cons.mp hx' with heq | hlater
        · rw [heq]
        · exact hys x hlater
      have hge : keyOf x ≤ keyOf y := by
        have hy' : y ∈ x :: xs := (mem_filter.mp ((hmem y (keyOf y)).mpr (by simp))).1
        rcases mem_cons.mp hy' with heq | hlater
        · rw [heq]
        · exact hxs y hlater
      have hkey : keyOf x = keyOf y := le_antisymm hge hle
      have hhead : x = y := by
        have hsame := h (keyOf x)
        rw [filter_cons_of_pos (by simp), filter_cons_of_pos (by simp [hkey])] at hsame
        exact (cons.inj hsame).1
      subst hhead
      refine congrArg (x :: ·) (ih hxrest hyrest ?_)
      intro k
      have hsame := h k
      by_cases hk : keyOf x = k
      · rw [filter_cons_of_pos (by simp [hk]), filter_cons_of_pos (by simp [hk])] at hsame
        exact (cons.inj hsame).2
      · rw [filter_cons_of_neg (by simp [hk]), filter_cons_of_neg (by simp [hk])] at hsame
        exact hsame

end SortedMap
