import SpectroRemote.Proofs.Settings.Overlays

/-!
# Settings at a path

A path leads into a setting, through one table after the other. Layers can be looked at path by
path: at the end of a path of two merged layers is what the layers have there, merged (`at?_merge`).
The later layer must not have anything but a table where the path goes on, since that would replace
what the earlier one has at the end.
-/

namespace SpectroRemote

/-! ### Values of configuration files -/

namespace Toml.Value

/-- What is found at the end of a path. -/
def at? : List String → Value → Option Value
  | [], v => some v
  | key :: path, .table _ entries => (Keyed.find? key entries).bind (at? path)
  | _ :: _, _ => none

/-- Wherever a path goes on there is a table, if there is anything. -/
def OpensAlong : List String → Value → Prop
  | [], _ => True
  | key :: path, .table _ entries => ∀ v, Keyed.find? key entries = some v → OpensAlong path v
  | _ :: _, _ => False

end Toml.Value

namespace Setting

variable {path : List String} {earlier later : Setting}

/-- What is found at the end of a path. -/
def at? : List String → Setting → Option Setting
  | [], v => some v
  | key :: path, .table _ entries => (Keyed.find? key entries).bind (at? path)
  | _ :: _, _ => none

/-- Wherever a path goes on there is a table in ascending order, if there is anything. -/
def OpensAlong : List String → Setting → Prop
  | [], _ => True
  | key :: path, .table _ entries =>
    Keyed.Sorted entries ∧ ∀ v, Keyed.find? key entries = some v → OpensAlong path v
  | _ :: _, _ => False

lemma at?_append (v : Setting) (path more : List String) :
    v.at? (path ++ more) = (v.at? path).bind (at? more) := by
  induction path generalizing v with
  | nil => rfl
  | cons key path ih =>
    cases v with
    | table source entries =>
      rw [List.cons_append, at?, at?, Option.bind_assoc]
      exact Option.bind_congr fun w _ => ih w
    | _ => rfl

lemma OpensAlong.of_append {v : Setting} (path more : List String)
    (h : v.OpensAlong (path ++ more)) :
    v.OpensAlong path ∧ ∀ w, v.at? path = some w → w.OpensAlong more := by
  induction path generalizing v with
  | nil => exact ⟨trivial, fun w hw => Option.some.inj hw ▸ h⟩
  | cons key path ih =>
    cases v with
    | table source entries =>
      refine ⟨⟨h.1, fun w hw => (ih (h.2 w hw)).1⟩, fun u hu => ?_⟩
      obtain ⟨w, hw, hwu⟩ := Option.bind_eq_some_iff.mp hu
      exact (ih (h.2 w hw)).2 u hwu
    | _ => exact h.elim

lemma at?_singleton (source : Source) (entries : List (String × Setting)) (key : String) :
    (table source entries).at? [key] = Keyed.find? key entries :=
  Option.bind_fun_some _

/-- Something at the end of a path is inside of a table. -/
lemma exists_table_of_at? {key : String} {v w : Setting} (hopens : v.OpensAlong [key])
    (hw : v.at? [key] = some w) : ∃ source entries, v = .table source entries
      ∧ Keyed.Sorted entries ∧ Keyed.find? key entries = some w := by
  cases v with
  | table source entries =>
    exact ⟨source, entries, rfl, hopens.1, at?_singleton source entries key ▸ hw⟩
  | _ => exact hopens.elim

section OfValue

variable (source : Source) {v : Toml.Value}

lemma find?_ofEntries (entries : Toml.Entries) (key : String) :
    Keyed.find? key (ofEntries source entries)
      = (Keyed.find? key entries).map (ofValue source) := by
  rw [ofEntries_eq_sort, Keyed.find?_sort, Keyed.find?_map]

lemma opens_ofValue (h : v.OpensAlong path) : (ofValue source v).OpensAlong path := by
  induction path generalizing v with
  | nil => trivial
  | cons key path ih =>
    cases v with
    | table form entries =>
      rw [ofValue]
      constructor
      · rw [ofEntries_eq_sort]
        exact Keyed.sorted_sort _
      · intro w hw
        rw [find?_ofEntries] at hw
        obtain ⟨u, hu, rfl⟩ := Option.map_eq_some_iff.mp hw
        exact ih (h u hu)
    | _ => exact h.elim

lemma at?_ofValue (h : v.OpensAlong path) :
    (ofValue source v).at? path = (v.at? path).map (ofValue source) := by
  induction path generalizing v with
  | nil => rfl
  | cons key path ih =>
    cases v with
    | table form entries =>
      rw [ofValue, at?, find?_ofEntries, Toml.Value.at?]
      cases hu : Keyed.find? key entries with
      | none => rfl
      | some u => exact ih (h u hu)
    | _ => exact h.elim

end OfValue

/-! ### Merged layers -/

/-- Nothing changes what is merged over nothing. -/
lemma map_mergeOver_none (v : Option Setting) : (v.map (mergeOver none)).or none = v := by
  cases v <;> rfl

lemma exists_merge_table (earlier : Setting) (source : Source) (more : List (String × Setting)) :
    ∃ merged, earlier.merge (.table source more) = .table source merged := by
  cases earlier with
  | table _ entries => exact ⟨_, merge_table _ _ _ _⟩
  | _ => exact ⟨more, by simp [merge]⟩

/-- At the end of a path of merged layers is what they have there, merged. -/
theorem at?_merge (h : later.OpensAlong path) :
    (earlier.merge later).at? path
      = ((later.at? path).map (mergeOver (earlier.at? path))).or (earlier.at? path) := by
  induction path generalizing earlier later with
  | nil => rfl
  | cons key path ih =>
    cases later with
    | table source more =>
      obtain ⟨hsorted, hinside⟩ := h
      cases earlier with
      | table _ entries =>
        rw [merge_table, at?, find?_mergeEntries key hsorted, at?, at?]
        cases hw : Keyed.find? key more with
        | none => rfl
        | some w =>
          cases Keyed.find? key entries with
          | none => exact (map_mergeOver_none (w.at? path)).symm
          | some u => exact ih (hinside w hw)
      | _ =>
        rw [merge]
        · exact (map_mergeOver_none _).symm
        · intro _ _ h
          cases h
    | _ => exact h.elim

lemma OpensAlong.merge (hearlier : earlier.OpensAlong path) (hlater : later.OpensAlong path) :
    (earlier.merge later).OpensAlong path := by
  induction path generalizing earlier later with
  | nil => trivial
  | cons key path ih =>
    cases earlier with
    | table _ entries =>
      cases later with
      | table _ more =>
        rw [merge_table]
        refine ⟨sorted_mergeEntries hearlier.1 _, fun v hv => ?_⟩
        rw [find?_mergeEntries key hlater.1] at hv
        cases hw : Keyed.find? key more with
        | none =>
          rw [hw] at hv
          exact hearlier.2 v hv
        | some w =>
          rw [hw] at hv
          cases hu : Keyed.find? key entries with
          | none =>
            rw [hu] at hv
            obtain rfl := Option.some.inj hv
            exact hlater.2 w hw
          | some u =>
            rw [hu] at hv
            obtain rfl := Option.some.inj hv
            exact ih (hearlier.2 u hu) (hlater.2 w hw)
      | _ => exact hlater.elim
    | _ => exact hearlier.elim

end Setting

/-! ### Paths of keys -/

/-- The path of a key in a section, or of one detector. -/
inductive IsKeyPath : List String → Prop
  | key {part name : String} (h : [part, name] ≠ ["scan", "detectors"]) : IsKeyPath [part, name]
  | detector (id : String) : IsKeyPath ["scan", "detectors", id]

/-- No key is inside of another one. -/
lemma IsKeyPath.eq_of_le {p q : List String} (hp : IsKeyPath p) (hq : IsKeyPath q)
    (h : p <+: q) : p = q := by
  cases hp with
  | @key part name hne =>
    cases hq with
    | key _ => exact h.eq_of_length rfl
    | detector id =>
      obtain ⟨rest, hrest⟩ := h
      simp only [List.cons_append, List.nil_append, List.cons.injEq] at hrest
      exact absurd (by rw [hrest.1, hrest.2.1]) hne
  | detector id =>
    cases hq with
    | key _ => exact absurd h.length_le (by simp)
    | detector _ => exact h.eq_of_length rfl

end SpectroRemote
