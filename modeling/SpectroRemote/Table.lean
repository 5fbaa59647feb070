/-!
# Tables

Finite maps from names to values, held as a list in ascending order of the names. The order of names
is that of their code points. Two tables with the same entries are equal.
-/

namespace SpectroRemote

namespace Keyed

variable {α : Type}

/-- Puts an entry into a list that is sorted by name, replacing one of the same name. -/
def insert (k : String) (v : α) : List (String × α) → List (String × α)
  | [] => [(k, v)]
  | e :: t =>
    if k < e.1 then (k, v) :: e :: t else if k = e.1 then (k, v) :: t else e :: insert k v t

def find? (k : String) : List (String × α) → Option α
  | [] => none
  | e :: t => if e.1 = k then some e.2 else find? k t

/-- The names are in ascending order, each once. -/
def Sorted (l : List (String × α)) : Prop := l.Pairwise fun a b => a.1 < b.1

theorem find?_insert (k k' : String) (v : α) (l : List (String × α)) :
    find? k' (insert k v l) = if k = k' then some v else find? k' l := by
  induction l with
  | nil => simp [insert, find?]
  | cons e t ih =>
    simp only [insert]
    split
    · simp [find?]
    · split
      · next h => by_cases hk : k = k' <;> simp_all [find?]
      · next h => by_cases he : e.1 = k' <;> simp_all [find?]

theorem mem_insert {k : String} {v : α} {l : List (String × α)} {e : String × α}
    (h : e ∈ insert k v l) : e = (k, v) ∨ e ∈ l := by
  induction l with
  | nil => simp_all [insert]
  | cons d t ih =>
    simp only [insert] at h
    split at h
    · simp_all
    · split at h
      · simp_all only [List.mem_cons]
        rcases h with h | h <;> simp [h]
      · rcases List.mem_cons.1 h with h | h
        · simp [h]
        · rcases ih h with h | h <;> simp [h]

theorem Sorted.insert {l : List (String × α)} (h : Sorted l) (k : String) (v : α) :
    Sorted (Keyed.insert k v l) := by
  induction l with
  | nil => simp [Keyed.insert, Sorted]
  | cons e t ih =>
    obtain ⟨he, ht⟩ := List.pairwise_cons.1 h
    simp only [Keyed.insert]
    split
    · next hk =>
      refine List.pairwise_cons.2 ⟨fun a ha => ?_, h⟩
      rcases List.mem_cons.1 ha with rfl | ha
      · exact hk
      · exact String.lt_trans hk (he a ha)
    · next hk =>
      split
      · next heq => exact List.pairwise_cons.2 ⟨fun a ha => heq ▸ he a ha, ht⟩
      · next hne =>
        refine List.pairwise_cons.2 ⟨fun a ha => ?_, ih ht⟩
        rcases mem_insert ha with rfl | ha
        · apply String.not_le.1
          intro hle
          exact hne (String.le_antisymm hle (String.not_lt.1 hk))
        · exact he a ha

end Keyed

/-- A finite map from names to values. -/
structure Table (α : Type) where
  entries : List (String × α)
  sorted : Keyed.Sorted entries := by decide

namespace Table

variable {α : Type}

def empty : Table α := ⟨[], List.Pairwise.nil⟩

instance : EmptyCollection (Table α) := ⟨empty⟩

instance : Inhabited (Table α) := ⟨empty⟩

def get? (t : Table α) (k : String) : Option α := Keyed.find? k t.entries

/-- The table with one entry put in or replaced. -/
def insert (t : Table α) (k : String) (v : α) : Table α :=
  ⟨Keyed.insert k v t.entries, t.sorted.insert k v⟩

/-- The table with all of a list's entries put in, from left to right. -/
def insertAll (t : Table α) (l : List (String × α)) : Table α :=
  l.foldl (fun t e => t.insert e.1 e.2) t

/-- The table of a list of entries; of entries of one name the last stays. -/
def ofList (l : List (String × α)) : Table α := empty.insertAll l

/-- The names, in ascending order. -/
def keys (t : Table α) : List String := t.entries.map (·.1)

def values (t : Table α) : List α := t.entries.map (·.2)

def isEmpty (t : Table α) : Bool := t.entries.isEmpty

@[simp] theorem get?_empty (k : String) : (empty : Table α).get? k = none := rfl

@[simp] theorem get?_insert (t : Table α) (k k' : String) (v : α) :
    (t.insert k v).get? k' = if k = k' then some v else t.get? k' :=
  Keyed.find?_insert k k' v t.entries

theorem eq_of_entries_eq {t u : Table α} (h : t.entries = u.entries) : t = u := by
  cases t; cases u; cases h; rfl

end Table

end SpectroRemote
