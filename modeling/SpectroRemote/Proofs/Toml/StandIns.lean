import SpectroRemote.Proofs.Toml.Sections

/-!
# Values that stand for themselves

A value stands for itself if no table in it has one of the two keys with a meaning of their own. If
it is not known of one value what it stands for, the others around it can still be left aside.
-/

namespace SpectroRemote.Toml

lemma any_eq_false_of_notMem {es : Entries} {key : String} (h : key ∉ es.map (·.1)) :
    (es.any fun e => e.1 = key) = false := by
  rw [List.any_eq_false]
  intro e he hkey
  exact h (of_decide_eq_true hkey ▸ List.mem_map_of_mem he)

lemma standIn?_eq_none {form : TableForm} {es : Entries} (h : sourceKey ∈ es.map (·.1)) :
    standIn? form es = none := by
  obtain ⟨e, he, hkey⟩ := List.mem_map.mp h
  rw [standIn?, if_pos]
  exact List.any_eq_true.mpr ⟨e, he, by simpa using hkey⟩

/-- A table with a value to stand for is left for that value. -/
lemma exists_standIn?_eq {form : TableForm} {es : Entries} (hsource : sourceKey ∉ es.map (·.1))
    (h : standInKey ∈ es.map (·.1)) : ∃ v, standIn? form es = some v ∧ (standInKey, v) ∈ es := by
  rw [standIn?, any_eq_false_of_notMem hsource, if_neg Bool.false_ne_true]
  cases hlookup : es.lookup standInKey with
  | some v =>
    obtain ⟨before, after, rfl, -⟩ := List.lookup_eq_some_iff.mp hlookup
    exact ⟨v, rfl, List.mem_append_right _ (.head _)⟩
  | none =>
    obtain ⟨e, he, hkey⟩ := List.mem_map.mp h
    have hne := List.lookup_eq_none_iff.mp hlookup e he
    rw [hkey, bne_self_eq_false] at hne
    cases hne

lemma standIn?_eq_self {form : TableForm} {es : Entries} (hsource : sourceKey ∉ es.map (·.1))
    (h : standInKey ∉ es.map (·.1)) : standIn? form es = some (.table form es) := by
  have hlookup : es.lookup standInKey = none := by
    rw [List.lookup_eq_none_iff]
    intro e he
    rw [bne_iff_ne]
    exact fun hkey => h (hkey ▸ List.mem_map_of_mem he)
  rw [standIn?, any_eq_false_of_notMem hsource, if_neg Bool.false_ne_true, hlookup]

namespace Value

/-- A value that stands for itself. -/
def IsSettled (v : Value) : Prop := v.resolve? = some v

lemma resolveEntries?_eq_self {es : Entries} (h : ∀ e ∈ es, e.2.IsSettled) :
    resolveEntries? es = some es := by
  induction es with
  | nil => rw [resolveEntries?]
  | cons e es ih =>
    rw [resolveEntries?, h e (.head _), ih fun d hd => h d (.tail _ hd)]
    rfl

/-- Where all other values are settled, one is resolved in its place. -/
lemma resolveEntries?_append {before after : Entries} (hbefore : ∀ e ∈ before, e.2.IsSettled)
    (hafter : ∀ e ∈ after, e.2.IsSettled) (key : String) (v : Value) :
    resolveEntries? (before ++ (key, v) :: after)
      = v.resolve?.map fun w => before ++ (key, w) :: after := by
  induction before with
  | nil =>
    rw [List.nil_append, resolveEntries?, resolveEntries?_eq_self hafter]
    cases v.resolve? <;> rfl
  | cons e before ih =>
    rw [List.cons_append, resolveEntries?, hbefore e (.head _),
      ih fun d hd => hbefore d (.tail _ hd)]
    cases v.resolve? <;> rfl

lemma resolve?_table {es : Entries} (h : ∀ e ∈ es, e.2.IsSettled) (form : TableForm) :
    (Value.table form es).resolve? = standIn? form es := by
  rw [resolve?, resolveEntries?_eq_self h]
  rfl

end Value

end SpectroRemote.Toml
