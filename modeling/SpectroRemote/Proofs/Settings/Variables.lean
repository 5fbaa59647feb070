import SpectroRemote.Proofs.Lines
import SpectroRemote.Proofs.Settings.Paths
import SpectroRemote.Proofs.Toml.Words
import SpectroRemote.Settings.Environment

/-!
# Variables that set keys

Variables that lead to different keys do not touch each other: none of the keys is inside of another
one. So the layer of the environment has, for each key, the value of the variable that leads to it
(`at?_layer`), in whatever order the variables come.

The name of such a variable is made of the prefix and of the keys on the path. The identifier of a
detector is kept, but for its letters (`path?_detector`), if it can stand in a name at all.
-/

namespace SpectroRemote

namespace Environment

variable {path p q : List String} {v : Setting}

/-! ### One variable -/

lemma opens_nested (h : ¬ q <+: p ∨ q = p) : (nested q v).OpensAlong p := by
  induction q generalizing p with
  | nil =>
    rw [← h.resolve_left fun hnot => hnot List.nil_prefix]
    trivial
  | cons key q ih =>
    cases p with
    | nil => trivial
    | cons other p =>
      refine ⟨List.pairwise_singleton _ _, fun w hw => ?_⟩
      rw [Keyed.find?] at hw
      split at hw
      · next hkey =>
        have hkey : key = other := hkey
        obtain rfl := Option.some.inj hw
        apply ih
        rwa [hkey, List.cons_prefix_cons, List.cons.injEq, eq_self, true_and, true_and] at h
      · cases hw

lemma at?_nested_self (q : List String) (v : Setting) : (nested q v).at? q = some v := by
  induction q with
  | nil => rfl
  | cons key q ih =>
    rw [nested, Setting.at?, Keyed.find?, if_pos rfl]
    exact ih

lemma at?_nested_of_incomparable (hp : ¬ p <+: q) (hq : ¬ q <+: p) : (nested q v).at? p = none := by
  induction q generalizing p with
  | nil => exact absurd List.nil_prefix hq
  | cons key q ih =>
    cases p with
    | nil => exact absurd List.nil_prefix hp
    | cons other p =>
      rw [nested, Setting.at?, Keyed.find?]
      split
      · next hkey =>
        have hkey : key = other := hkey
        rw [hkey, List.cons_prefix_cons, eq_self, true_and] at hp hq
        exact ih hp hq
      · rfl

section Merge

variable {settings : Setting} (hp : IsKeyPath p) (hq : IsKeyPath q)

include hp hq

lemma opens_nested_of_isKeyPath : (nested q v).OpensAlong p :=
  opens_nested (or_iff_not_imp_right.mpr fun hne hle => hne (hq.eq_of_le hp hle))

/-- A variable sets the value of its own key, and leaves those of the others. -/
lemma at?_merge_nested (v : Setting) :
    (settings.merge (nested q v)).at? p
      = if q = p then some (Setting.mergeOver (settings.at? p) v) else settings.at? p := by
  rw [Setting.at?_merge (opens_nested_of_isKeyPath hp hq)]
  split
  · next heq =>
    rw [← heq, at?_nested_self]
    rfl
  · next hne =>
    rw [at?_nested_of_incomparable (fun h => hne (hp.eq_of_le hq h).symm)
      fun h => hne (hq.eq_of_le hp h)]
    rfl

end Merge

/-! ### All variables -/

/-- What the environment sets at a path. -/
def setting? (environment : List (String × String)) (path : List String) : Option Setting :=
  (environment.find? fun e => path? e.1 = some path).bind fun e => value? e.2

/-- The paths that variables lead to. -/
def paths (environment : List (String × String)) : List (List String) :=
  environment.filterMap fun e => path? e.1

/-- Variables that set keys, each its own one, among others that set nothing. -/
structure SetsKeys (environment : List (String × String)) : Prop where
  isKeyPath : ∀ path ∈ paths environment, IsKeyPath path
  nodup : (paths environment).Nodup

/-- Variables that are put over settings, from the first one to the last. -/
def layerOver? (settings : Setting) (environment : List (String × String)) : Option Setting :=
  environment.foldlM (fun settings (name, text) =>
    match path? name with
    | some path => (value? text).map fun v => settings.merge (nested path v)
    | none => some settings) settings

section Cons

variable {name text : String} {settings : Setting} {environment : List (String × String)}

lemma paths_cons_none (h : path? name = none) :
    paths ((name, text) :: environment) = paths environment :=
  List.filterMap_cons_none h

lemma paths_cons_some (h : path? name = some q) :
    paths ((name, text) :: environment) = q :: paths environment :=
  List.filterMap_cons_some h

lemma layerOver?_cons_none (h : path? name = none) :
    layerOver? settings ((name, text) :: environment) = layerOver? settings environment := by
  rw [layerOver?, List.foldlM_cons]
  simp only [h]
  rfl

lemma layerOver?_cons_some (h : path? name = some q) :
    layerOver? settings ((name, text) :: environment)
      = (value? text).bind fun v => layerOver? (settings.merge (nested q v)) environment := by
  rw [layerOver?, List.foldlM_cons]
  simp only [h]
  cases value? text <;> rfl

lemma setting?_cons :
    setting? ((name, text) :: environment) path
      = if path? name = some path then value? text else setting? environment path := by
  rw [setting?, List.find?_cons]
  by_cases h : path? name = some path
  · simp [h]
  · simp [h, setting?]

end Cons

variable {environment : List (String × String)}

/-- A variable that leads elsewhere does not count. -/
lemma setting?_insert_of_ne {name text : String} {before after : List (String × String)}
    (h : path? name ≠ some path) :
    setting? (before ++ (name, text) :: after) path = setting? (before ++ after) path := by
  induction before with
  | nil => rw [List.nil_append, setting?_cons, if_neg h, List.nil_append]
  | cons e before ih =>
    obtain ⟨other, value⟩ := e
    rw [List.cons_append, List.cons_append, setting?_cons, setting?_cons, ih]

lemma setting?_eq_none (h : path ∉ paths environment) : setting? environment path = none := by
  rw [setting?, List.find?_eq_none.mpr]
  · rfl
  · intro e he hpath
    exact h (List.mem_filterMap.mpr ⟨e, he, of_decide_eq_true hpath⟩)

lemma SetsKeys.sublist {fewer : List (String × String)} (h : SetsKeys environment)
    (hsublist : fewer.Sublist environment) : SetsKeys fewer where
  isKeyPath path hpath := h.isKeyPath path ((hsublist.filterMap _).subset hpath)
  nodup := h.nodup.sublist (hsublist.filterMap _)

/-- What variables set over settings that have none of their keys. -/
lemma at?_layerOver {settings layer : Setting} (h : SetsKeys environment)
    (hopens : ∀ p, IsKeyPath p → settings.OpensAlong p)
    (hnew : ∀ p ∈ paths environment, settings.at? p = none)
    (hlayer : layerOver? settings environment = some layer) (hp : IsKeyPath p) :
    layer.OpensAlong p ∧ layer.at? p = (setting? environment p).or (settings.at? p) := by
  induction environment generalizing settings with
  | nil =>
    obtain rfl := Option.some.inj hlayer
    exact ⟨hopens p hp, rfl⟩
  | cons e environment ih =>
    obtain ⟨name, text⟩ := e
    have hrest : SetsKeys environment := h.sublist (List.sublist_cons_self _ _)
    rw [setting?_cons]
    cases hname : path? name with
    | none =>
      rw [paths_cons_none hname] at hnew
      rw [layerOver?_cons_none hname] at hlayer
      exact ih hrest hopens hnew hlayer
    | some q =>
      obtain ⟨hkeys, hnodup⟩ := h
      rw [paths_cons_some hname] at hkeys hnodup hnew
      rw [layerOver?_cons_some hname, Option.bind_eq_some_iff] at hlayer
      obtain ⟨v, hv, hlayer⟩ := hlayer
      have hq : IsKeyPath q := hkeys q (.head _)
      have hother : q ∉ paths environment := (List.nodup_cons.mp hnodup).1
      -- no variable that follows finds its key set
      have hnew' : ∀ p ∈ paths environment, (settings.merge (nested q v)).at? p = none := by
        intro p hmem
        have hne : q ≠ p := fun heq => hother (heq ▸ hmem)
        rw [at?_merge_nested (hkeys p (.tail _ hmem)) hq, if_neg hne]
        exact hnew p (.tail _ hmem)
      obtain ⟨hlayerOpens, hat⟩ := ih hrest
        (fun p hp => (hopens p hp).merge (opens_nested_of_isKeyPath hp hq)) hnew' hlayer
      refine ⟨hlayerOpens, ?_⟩
      rw [hat, at?_merge_nested hp hq]
      by_cases heq : q = p
      · subst heq
        rw [if_pos rfl, if_pos rfl, setting?_eq_none hother, hnew q (.head _), hv]
        rfl
      · rw [if_neg heq, if_neg fun h => heq (Option.some.inj h)]

/-- The layer of the environment has at the path of a key what the variable for this key sets. -/
theorem at?_layer {layer : Setting} (h : SetsKeys environment)
    (hlayer : layer? environment = some layer) (hp : IsKeyPath p) :
    layer.OpensAlong p ∧ layer.at? p = setting? environment p := by
  have hempty (p : List String) (hp : IsKeyPath p) :
      (Setting.table .environment []).OpensAlong p
        ∧ (Setting.table .environment []).at? p = none := by
    cases hp <;> exact ⟨⟨List.Pairwise.nil, fun _ hv => nomatch hv⟩, rfl⟩
  obtain ⟨hopens, hat⟩ := at?_layerOver h (fun p hp => (hempty p hp).1)
    (fun p hmem => (hempty p (h.isKeyPath p hmem)).2) hlayer hp
  rw [(hempty p hp).2, Option.or_none] at hat
  exact ⟨hopens, hat⟩

/-! ### Names -/

/-- The name of the variable that leads to a path of keys. -/
def variableName (path : List String) : String := variablePrefix ++ "__".intercalate path

/-- The identifier of a detector as the name of a variable can hold it. -/
structure IsIdentifier (id : String) : Prop where
  nonempty : id ≠ ""
  point : '.' ∉ id.toList
  underscores : ¬ ['_', '_'] <:+: id.toList
  blank : Text.trimBack id.toList = id.toList

lemma pointed_eq_self {s : List Char} (h : ¬ ['_', '_'] <:+: s) : pointed s = s := by
  induction s using pointed.induct with
  | case1 s ih => exact absurd ⟨[], s, rfl⟩ h
  | case2 c s hne ih =>
    rw [pointed]
    · rw [ih fun hsub => h (hsub.trans (List.infix_cons List.infix_rfl))]
    · exact hne
  | case3 => rfl

/-- The letters of an identifier, in whatever case they stand in a name, count as small ones. -/
def lower (id : String) : String := String.ofList (id.toList.map Char.toLower)

lemma point_notMem_lower {s : List Char} (h : '.' ∉ s) : '.' ∉ s.map Char.toLower := by
  intro hpoint
  obtain ⟨c, hc, hlower⟩ := List.mem_map.mp hpoint
  rw [Char.toLower] at hlower
  split at hlower
  · next hcapital =>
    have hfirst : 65 ≤ c.val.toNat := UInt32.le_iff_toNat_le.mp hcapital.1
    have hlast : c.val.toNat ≤ 90 := UInt32.le_iff_toNat_le.mp hcapital.2
    have hcode := congrArg (fun d : Char => d.val.toNat) hlower
    have hcode : (c.val.toNat + 32) % 2 ^ 32 = 46 := by
      rwa [UInt32.toNat_add] at hcode
    omega
  · exact h (hlower ▸ hc)

lemma trim_eq_self {c : Char} (hc : Text.isBlank c = false) {s t : List Char} (ht : t ≠ [])
    (hback : Text.trimBack t = t) : Text.trim (c :: s ++ t) = c :: s ++ t := by
  rw [Text.trim, List.cons_append, Text.trimFront_cons_of_not_blank hc, ← List.cons_append,
    Text.trimBack_append, hback, if_neg ht]

/-- Where the variable of a detector leads. -/
lemma path?_detector {id : String} (h : IsIdentifier id) :
    path? (variableName ["SCAN", "DETECTORS", id]) = some ["scan", "detectors", lower id] := by
  obtain ⟨hne, hpoint, hunderscores, hblank⟩ := h
  have hne : id.toList ≠ [] := by simpa using hne
  have hname : (variableName ["SCAN", "DETECTORS", id]).toList
      = 'R' :: "UST_RCS_SCAN__DETECTORS__".toList ++ id.toList := by
    simp [variableName, variablePrefix, String.intercalate_cons_cons]
  have hafter : afterPrefix? ('R' :: "UST_RCS_SCAN__DETECTORS__".toList ++ id.toList)
      = some ("SCAN__DETECTORS__".toList ++ id.toList) := by
    rw [afterPrefix?, if_pos]
    · rfl
    · rfl
  have hpointed : pointed ("SCAN__DETECTORS__".toList ++ id.toList)
      = 'S' :: "CAN.DETECTORS.".toList ++ id.toList := by
    have hpointed : pointed ("SCAN__DETECTORS__".toList ++ id.toList)
        = "SCAN.DETECTORS.".toList ++ pointed id.toList := by
      simp [pointed]
    rw [hpointed, pointed_eq_self hunderscores]
    rfl
  have hfields : Text.fields '.' (('S' :: "CAN.DETECTORS.".toList ++ id.toList).map Char.toLower)
      = ["scan".toList, "detectors".toList, id.toList.map Char.toLower] := by
    rw [← Text.fields_of_notMem (point_notMem_lower hpoint), List.map_append]
    rfl
  rw [path?, hname, trim_eq_self (by decide) hne hblank, hafter, Option.bind_some, hpointed,
    trim_eq_self (by decide) hne hblank, hfields]
  simp [lower, hne]

end Environment

end SpectroRemote
