import Mathlib

/-!
# Lists

Lists to which an element is appended, or of which one element is changed, and what can still be
found in them. Texts that list other texts with a separator between them.
-/

namespace SpectroRemote

variable {α β : Type}

/-- An element of a longer list was there before, or is the last one. -/
lemma getElem?_concat_eq_some {l : List α} {a b : α} {i : Nat} (h : (l ++ [a])[i]? = some b) :
    l[i]? = some b ∨ i = l.length ∧ b = a := by
  by_cases hi : i < l.length
  · rw [List.getElem?_append_left hi] at h
    exact .inl h
  · rw [List.getElem?_append_right (Nat.le_of_not_lt hi)] at h
    obtain ⟨hz, hb⟩ := List.getElem?_eq_some_iff.mp h
    simp only [List.length_singleton] at hz
    simp only [List.getElem_singleton] at hb
    exact .inr ⟨by omega, hb.symm⟩

/-- A list that was changed at one place holds what it held before, changed at this place. -/
lemma getElem?_modify_eq_some {l : List α} {k j : Nat} {f : α → α} {a : α}
    (h : (l.modify k f)[j]? = some a) :
    ∃ old, l[j]? = some old ∧ (k = j ∧ a = f old ∨ k ≠ j ∧ a = old) := by
  rw [List.getElem?_modify] at h
  obtain ⟨old, hold, heq⟩ := Option.map_eq_some_iff.mp h
  refine ⟨old, hold, ?_⟩
  by_cases hj : k = j
  · rw [if_pos hj] at heq
    exact .inl ⟨hj, heq.symm⟩
  · rw [if_neg hj] at heq
    exact .inr ⟨hj, heq.symm⟩

lemma modify_congr {l : List α} {k : Nat} {f g : α → α} (h : ∀ a, l[k]? = some a → f a = g a) :
    l.modify k f = l.modify k g := by
  apply List.ext_getElem?
  intro j
  rw [List.getElem?_modify, List.getElem?_modify]
  by_cases hj : k = j
  · subst hj
    cases ha : l[k]? with
    | none => rfl
    | some a => simp [h a ha]
  · simp [hj]

lemma map_modify {f : α → α} {g : α → β} (h : ∀ a, g (f a) = g a) (l : List α) (k : Nat) :
    (l.modify k f).map g = l.map g := by
  apply List.ext_getElem?
  intro j
  rw [List.getElem?_map, List.getElem?_map, List.getElem?_modify]
  cases l[j]? with
  | none => rfl
  | some a =>
    by_cases hj : k = j
    · simp [hj, h]
    · simp [hj]

lemma sum_modify (count : α → Nat) (f : α → α) {l : List α} {k : Nat} {a : α}
    (h : l[k]? = some a) :
    ((l.modify k f).map count).sum + count a = (l.map count).sum + count (f a) := by
  induction l generalizing k with
  | nil => cases h
  | cons b rest ih =>
    cases k with
    | zero =>
      obtain rfl : b = a := by simpa using h
      simp only [List.modify_zero_cons, List.map_cons, List.sum_cons]
      omega
    | succ k =>
      have hrest := ih (k := k) (by simpa using h)
      simp only [List.modify_succ_cons, List.map_cons, List.sum_cons]
      omega

/-- A list is split where a property of its elements ends. -/
lemma span_append {p : α → Bool} {s t : List α} (hs : ∀ a ∈ s, p a = true)
    (ht : ∀ a ∈ t.head?, p a = false) : (s ++ t).span p = (s, t) := by
  rw [List.span_eq_takeWhile_dropWhile, List.takeWhile_append_of_pos hs,
    List.dropWhile_append_of_pos hs]
  cases t with
  | nil => simp
  | cons a t => simp [ht a rfl]

lemma find?_eq_some_of_nodup (f : α → String) {l : List α} (h : (l.map f).Nodup) {a : α}
    (ha : a ∈ l) : (l.find? fun b => f b = f a) = some a := by
  induction l with
  | nil => cases ha
  | cons b rest ih =>
    rw [List.map_cons, List.nodup_cons] at h
    rcases List.mem_cons.mp ha with rfl | ha
    · simp
    · have hne : f b ≠ f a := fun heq => h.1 (heq ▸ List.mem_map_of_mem ha)
      rw [List.find?_cons_of_neg (by simpa using hne)]
      exact ih h.2 ha

/-! ### Lists as texts -/

/-- The items of a text with a separator between them. -/
def items (separator : Char) (text : String) : List String :=
  (text.toList.splitOn separator).map String.ofList

/-- Names without the separator are found again in their list. -/
lemma items_intercalate {separator : Char} {names : List String} (hne : names ≠ [])
    (hsolid : ∀ name ∈ names, separator ∉ name.toList) :
    items separator ((String.singleton separator).intercalate names) = names := by
  have hcut : ([separator].intercalate (names.map String.toList)).splitOn separator
      = names.map String.toList :=
    List.splitOn_intercalate separator (by simpa using hsolid) (by simpa using hne)
  rw [items, String.toList_intercalate, String.toList_singleton, hcut, List.map_map]
  simp

end SpectroRemote
