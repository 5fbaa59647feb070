import Mathlib
import SpectroRemote.Table

/-!
# Tables with entries put in

What is found in a sorted list of entries, and what is found in a table after all entries of a list
were put in. A table is determined by what is found in it.
-/

namespace SpectroRemote

variable {α β : Type}

namespace Keyed

variable {l m : List (String × α)} {k : String} {v : α}

/-! ### Sorted lists -/

lemma find?_eq_none_iff : find? k l = none ↔ k ∉ l.map (·.1) := by
  induction l with
  | nil => simp [find?]
  | cons e rest ih =>
    rw [find?, List.map_cons, List.mem_cons, not_or, ← ih]
    by_cases h : e.1 = k
    · simp [h]
    · simp [h, Ne.symm h]

lemma mem_of_find? (h : find? k l = some v) : (k, v) ∈ l := by
  induction l with
  | nil => cases h
  | cons e rest ih =>
    rw [find?] at h
    split at h
    · next hk =>
      rw [← hk, ← Option.some.inj h]
      exact .head _
    · exact .tail _ (ih h)

lemma find?_eq_none_of_lt (h : ∀ e ∈ l, k < e.1) : find? k l = none := by
  rw [find?_eq_none_iff]
  intro hk
  obtain ⟨e, he, rfl⟩ := List.mem_map.mp hk
  exact String.lt_irrefl _ (h e he)

lemma Sorted.find?_of_mem (h : Sorted l) (hmem : (k, v) ∈ l) : find? k l = some v := by
  induction l with
  | nil => cases hmem
  | cons e rest ih =>
    obtain ⟨hfirst, hrest⟩ := List.pairwise_cons.mp h
    rw [find?]
    rcases List.mem_cons.mp hmem with rfl | hmem
    · rw [if_pos rfl]
    · have hne : e.1 ≠ k := fun heq => String.lt_irrefl _ (heq ▸ hfirst _ hmem)
      rw [if_neg hne]
      exact ih hrest hmem

/-- A sorted list is determined by what is found in it. -/
lemma Sorted.eq_of_find?_eq (hl : Sorted l) (hm : Sorted m)
    (h : ∀ k, find? k l = find? k m) : l = m := by
  have : Std.Irrefl fun a b : String × α => a.1 < b.1 := ⟨fun _ => String.lt_irrefl _⟩
  have : Std.Antisymm fun a b : String × α => a.1 < b.1 :=
    ⟨fun _ _ hab hba => absurd hba (String.lt_asymm hab)⟩
  apply List.Pairwise.eq_of_mem_iff hl hm
  rintro ⟨k, v⟩
  constructor
  · intro hmem
    exact mem_of_find? ((h k).symm.trans (hl.find?_of_mem hmem))
  · intro hmem
    exact mem_of_find? ((h k).trans (hm.find?_of_mem hmem))

/-! ### Entries put in -/

lemma perm_insert (h : k ∉ l.map (·.1)) : (insert k v l).Perm ((k, v) :: l) := by
  induction l with
  | nil => rfl
  | cons e rest ih =>
    rw [List.map_cons, List.mem_cons, not_or] at h
    rw [insert]
    split
    · rfl
    · rw [if_neg h.1]
      exact (List.Perm.cons e (ih h.2)).trans (List.Perm.swap _ _ _)

lemma insert_map (f : α → β) (k : String) (v : α) (l : List (String × α)) :
    insert k (f v) (l.map fun e => (e.1, f e.2)) = (insert k v l).map fun e => (e.1, f e.2) := by
  induction l with
  | nil => rfl
  | cons e rest ih =>
    rw [List.map_cons, insert, insert, ih]
    split
    · rfl
    · split
      · rfl
      · rfl

lemma find?_map (f : α → β) (k : String) (l : List (String × α)) :
    find? k (l.map fun e => (e.1, f e.2)) = (find? k l).map f := by
  induction l with
  | nil => rfl
  | cons e rest ih =>
    rw [List.map_cons, find?, find?, ih]
    split
    · rfl
    · rfl

/-- Entries that agree one by one still do when agreeing values are put in. -/
lemma forall₂_insert {r : α → β → Prop} {m : List (String × β)}
    (h : List.Forall₂ (fun a b => a.1 = b.1 ∧ r a.2 b.2) l m) (k : String) {w : β} (hv : r v w) :
    List.Forall₂ (fun a b => a.1 = b.1 ∧ r a.2 b.2) (insert k v l) (insert k w m) := by
  induction h with
  | nil => exact .cons ⟨rfl, hv⟩ .nil
  | cons hab hrest ih =>
    rw [insert, insert, hab.1]
    split
    · exact .cons ⟨rfl, hv⟩ (.cons hab hrest)
    · split
      · exact .cons ⟨rfl, hv⟩ hrest
      · exact .cons hab ih

/-! ### Sorting -/

/-- The entries of a list in ascending order; of entries of one name the first stays. -/
def sort (l : List (String × α)) : List (String × α) := l.foldr (fun e t => insert e.1 e.2 t) []

lemma sorted_sort (l : List (String × α)) : Sorted (sort l) := by
  induction l with
  | nil => exact List.Pairwise.nil
  | cons e l ih => exact ih.insert e.1 e.2

lemma find?_sort (k : String) (l : List (String × α)) : find? k (sort l) = find? k l := by
  induction l with
  | nil => rfl
  | cons e l ih =>
    rw [sort, List.foldr_cons, find?_insert, find?]
    by_cases h : e.1 = k
    · rw [if_pos h, if_pos h]
    · rw [if_neg h, if_neg h]
      exact ih

lemma Sorted.sort_eq {l : List (String × α)} (h : Sorted l) : sort l = l :=
  (sorted_sort l).eq_of_find?_eq h fun k => find?_sort k l

lemma perm_sort {l : List (String × α)} (h : (l.map (·.1)).Nodup) : (sort l).Perm l := by
  induction l with
  | nil => rfl
  | cons e l ih =>
    rw [List.map_cons, List.nodup_cons] at h
    have hl := ih h.2
    have hkey : e.1 ∉ (sort l).map (·.1) := fun hmem => h.1 ((hl.map _).mem_iff.mp hmem)
    exact (perm_insert hkey).trans (hl.cons e)

lemma sort_map (f : α → β) (l : List (String × α)) :
    sort (l.map fun e => (e.1, f e.2)) = (sort l).map fun e => (e.1, f e.2) := by
  induction l with
  | nil => rfl
  | cons e l ih =>
    rw [List.map_cons, sort, List.foldr_cons, ← sort, ih]
    exact insert_map f e.1 e.2 (sort l)

end Keyed

namespace Table

variable {t u : Table α} {k : String}

/-! ### Keys -/

lemma mem_keys_iff : k ∈ t.keys ↔ t.get? k ≠ none := by
  rw [Table.get?, Ne, Keyed.find?_eq_none_iff, Decidable.not_not]
  rfl

/-- A table is determined by what is found in it. -/
lemma eq_of_get?_eq (h : ∀ k, t.get? k = u.get? k) : t = u :=
  eq_of_entries_eq (t.sorted.eq_of_find?_eq u.sorted h)

/-! ### Entries put in -/

/-- Of what is put in, all is found, and of what was there before all that was not replaced. -/
lemma get?_insertAll {l : List (String × α)} (h : Keyed.Sorted l) (t : Table α) (k : String) :
    (t.insertAll l).get? k = (Keyed.find? k l).or (t.get? k) := by
  induction l generalizing t with
  | nil => rfl
  | cons e rest ih =>
    obtain ⟨hfirst, hrest⟩ := List.pairwise_cons.mp h
    rw [insertAll, List.foldl_cons, ← insertAll, ih hrest, get?_insert, Keyed.find?]
    by_cases hk : e.1 = k
    · subst hk
      rw [Keyed.find?_eq_none_of_lt hfirst, if_pos rfl, if_pos rfl]
      rfl
    · rw [if_neg hk, if_neg hk]

lemma get?_insertAll_of_notMem (t : Table α) {l : List (String × α)} {k : String}
    (h : k ∉ l.map (·.1)) : (t.insertAll l).get? k = t.get? k := by
  induction l generalizing t with
  | nil => rfl
  | cons e rest ih =>
    rw [List.map_cons, List.mem_cons, not_or] at h
    rw [insertAll, List.foldl_cons, ← insertAll, ih _ h.2, get?_insert, if_neg]
    exact fun hk => h.1 hk.symm

lemma entries_insertAll (t : Table α) (l : List (String × α)) :
    (t.insertAll l).entries = l.foldl (fun t e => Keyed.insert e.1 e.2 t) t.entries := by
  induction l generalizing t with
  | nil => rfl
  | cons e rest ih => rw [insertAll, List.foldl_cons, ← insertAll, ih, List.foldl_cons, insert]

/-- A table is made of its own entries. -/
lemma ofList_entries (t : Table α) : ofList t.entries = t := by
  apply eq_of_get?_eq
  intro k
  rw [ofList, get?_insertAll t.sorted, get?_empty, Option.or_none]
  rfl

/-- The entries of one table replace all of another one if this has no other keys. -/
theorem insertAll_entries_eq_iff :
    t.insertAll u.entries = u ↔ ∀ k ∈ t.keys, k ∈ u.keys := by
  constructor
  · intro h k hk
    rw [mem_keys_iff, ← h, get?_insertAll u.sorted]
    intro hnone
    exact mem_keys_iff.mp hk (Option.or_eq_none_iff.mp hnone).2
  · intro h
    apply eq_of_get?_eq
    intro k
    rw [get?_insertAll u.sorted]
    change (u.get? k).or (t.get? k) = u.get? k
    cases hu : u.get? k with
    | some v => rfl
    | none =>
      cases ht : t.get? k with
      | none => rfl
      | some v =>
        have hk : k ∈ t.keys := mem_keys_iff.mpr (by rw [ht]; exact fun h => nomatch h)
        exact absurd hu (mem_keys_iff.mp (h k hk))

end Table

end SpectroRemote
