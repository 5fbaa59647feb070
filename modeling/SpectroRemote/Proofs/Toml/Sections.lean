import SpectroRemote.Proofs.Toml.Printed
import SpectroRemote.Settings.Rendering
import SpectroRemote.Toml.StandIn

/-!
# Printed entries are read back

Entries are printed with the tables among them last, each with a header of its own. The statements
then rebuild the entries from their front to their end: at every moment the open table stands at the
end of the one around it, and so up to the top.
-/

namespace SpectroRemote.Toml

namespace Entries

variable {es : Entries} {key : String} {v w : Value}

lemma find?_concat_of_ne {other : String} (h : es.find? other = none) (hne : key ≠ other) :
    Entries.find? (es ++ [(key, v)]) other = none := by
  rw [Entries.find?] at h
  rw [Entries.find?, List.lookup_append, h, Option.none_or, List.lookup_cons,
    beq_eq_false_iff_ne.mpr hne.symm]
  rfl

lemma find?_concat_self (h : es.find? key = none) :
    Entries.find? (es ++ [(key, v)]) key = some v := by
  rw [Entries.find?] at h
  rw [Entries.find?, List.lookup_append, h, Option.none_or, List.lookup_cons_self]

lemma set_eq_concat (h : es.find? key = none) : es.set key v = es ++ [(key, v)] := by
  induction es with
  | nil => rfl
  | cons e es ih =>
    rw [Entries.find?, List.lookup_cons] at h
    split at h
    · cases h
    · next hne =>
      rw [beq_eq_false_iff_ne] at hne
      rw [Entries.set, if_neg (Ne.symm hne), ih h, List.cons_append]

lemma set_concat_self (h : es.find? key = none) :
    Entries.set (es ++ [(key, v)]) key w = es ++ [(key, w)] := by
  induction es with
  | nil => simp [Entries.set]
  | cons e es ih =>
    rw [Entries.find?, List.lookup_cons] at h
    split at h
    · cases h
    · next hne =>
      rw [beq_eq_false_iff_ne] at hne
      rw [List.cons_append, Entries.set, if_neg (Ne.symm hne), ih h, List.cons_append]

end Entries

/-! ### The open table -/

/-- The tables around the open one, from the outside in: the entries before a table, and its key. -/
abbrev Surrounding := List (Entries × String)

namespace Surrounding

/-- The path of the open table. -/
def scope (around : Surrounding) : List String := around.map (·.2)

/-- All entries, given those of the open table. -/
def fill : Surrounding → Entries → Entries
  | [], es => es
  | (before, key) :: around, es => before ++ [(key, .table .header (fill around es))]

/-- No table on the way has a key that stands before it. -/
def Distinct (around : Surrounding) : Prop := ∀ a ∈ around, a.1.find? a.2 = none

variable {around : Surrounding}

lemma scope_concat (before : Entries) (key : String) :
    Surrounding.scope (around ++ [(before, key)]) = around.scope ++ [key] := by
  rw [scope, List.map_append]
  rfl

lemma fill_concat (before : Entries) (key : String) (es : Entries) :
    Surrounding.fill (around ++ [(before, key)]) es
      = around.fill (before ++ [(key, .table .header es)]) := by
  induction around with
  | nil => rfl
  | cons a around ih => rw [List.cons_append, fill, ih, fill]

lemma Distinct.concat (h : around.Distinct) {before : Entries} {key : String}
    (hkey : before.find? key = none) : Surrounding.Distinct (around ++ [(before, key)]) := by
  intro a ha
  rcases List.mem_append.mp ha with ha | ha
  · exact h a ha
  · rw [List.mem_singleton.mp ha]
    exact hkey

/-- A change at the path of the open table changes the open table. -/
lemma changeAt?_fill (h : around.Distinct) (change : Entries → Option Entries) (es : Entries) :
    Entries.changeAt? .implied (fun _ => change) around.scope .header (around.fill es)
      = (change es).map around.fill := by
  induction around with
  | nil =>
    change change es = _
    cases change es <;> rfl
  | cons a around ih =>
    obtain ⟨before, key⟩ := a
    have hkey : before.find? key = none := h _ (.head _)
    rw [scope, List.map_cons, fill, Entries.changeAt?, Entries.find?_concat_self hkey]
    have hinside := ih fun b hb => h b (.tail _ hb)
    rw [scope] at hinside
    simp only [hinside]
    cases change es with
    | none => rfl
    | some es => exact congrArg some (Entries.set_concat_self hkey)

end Surrounding

/-! ### Statements -/

section Perform

variable {around : Surrounding} {done : Entries} {key : String}

lemma perform?_assign (h : around.Distinct) (hkey : done.find? key = none) (v : Value)
    (rest : List Statement) :
    Entries.perform? around.scope (.assign ⟨[], key⟩ v :: rest) (around.fill done)
      = Entries.perform? around.scope rest (around.fill (done ++ [(key, v)])) := by
  have hassign : Entries.assign? ⟨[], key⟩ v done = some (done ++ [(key, v)]) := by
    change Entries.define? key v done = _
    rw [Entries.define?, hkey, Entries.set_eq_concat hkey]
  rw [Entries.perform?, Surrounding.changeAt?_fill h, hassign]
  rfl

/-- A header opens a table at the end of the one around it, whichever table was open before. -/
lemma perform?_table (h : around.Distinct) (hkey : done.find? key = none) (scope : List String)
    (rest : List Statement) :
    Entries.perform? scope (.table ⟨around.scope, key⟩ :: rest) (around.fill done)
      = Entries.perform? (Surrounding.scope (around ++ [(done, key)])) rest
          (Surrounding.fill (around ++ [(done, key)]) []) := by
  have hopen : Entries.openTable? ⟨around.scope, key⟩ (around.fill done)
      = some (Surrounding.fill (around ++ [(done, key)]) []) := by
    rw [Entries.openTable?, Surrounding.changeAt?_fill h, hkey, Surrounding.fill_concat]
    exact congrArg (some ∘ around.fill) (Entries.set_eq_concat hkey)
  rw [Entries.perform?, hopen, Surrounding.scope_concat]
  rfl

end Perform

/-! ### Entries -/

/-- A value that is assigned, stands for itself, and is read back unless it is too great an
integer. -/
structure Value.IsAssigned (v : Value) : Prop where
  isTable : v.isTable = false
  resolve? : v.resolve? = some v
  readsBack : ∀ path, (Statement.assign path v).overflows = false → v.ReadsBack maxDepth

namespace Value

/-- A value that is not made of others stands for itself. -/
lemma resolve?_eq_self {v : Value} (harray : ∀ items, v ≠ .array items)
    (htable : ∀ form es, v ≠ .table form es) (htables : ∀ earlier es, v ≠ .tables earlier es) :
    v.resolve? = some v := by
  cases v with
  | array items => exact absurd rfl (harray items)
  | table form es => exact absurd rfl (htable form es)
  | tables earlier es => exact absurd rfl (htables earlier es)
  | _ => simp [resolve?]

lemma resolveItems?_eq_self {items : List Value} (h : ∀ v ∈ items, v.resolve? = some v) :
    resolveItems? items = some items := by
  induction items with
  | nil => rw [resolveItems?]
  | cons v items ih =>
    rw [resolveItems?, h v (.head _), ih fun u hu => h u (.tail _ hu)]
    rfl

namespace IsAssigned

@[simp] lemma text (s : String) : (Value.text s).IsAssigned where
  isTable := rfl
  resolve? := resolve?_eq_self nofun nofun nofun
  readsBack _ _ := .text s

@[simp] lemma float (v : Float) : (Value.float v).IsAssigned where
  isTable := rfl
  resolve? := resolve?_eq_self nofun nofun nofun
  readsBack _ _ := .float v

@[simp] lemma boolean (b : Bool) : (Value.boolean b).IsAssigned where
  isTable := rfl
  resolve? := resolve?_eq_self nofun nofun nofun
  readsBack _ _ := .boolean b

@[simp] lemma natural (n : Nat) : (Value.integer n).IsAssigned where
  isTable := rfl
  resolve? := resolve?_eq_self nofun nofun nofun
  readsBack _ h := .natural (Int.not_lt.mp (of_decide_eq_false h))

@[simp] lemma texts (items : List String) : (Value.array (items.map .text)).IsAssigned where
  isTable := rfl
  resolve? := by
    rw [Value.resolve?, resolveItems?_eq_self]
    · rfl
    · intro v hv
      obtain ⟨s, -, rfl⟩ := List.mem_map.mp hv
      exact (text s).resolve?
  readsBack _ _ := by
    have hitems : ∀ v ∈ items.map Value.text, v.ReadsBack 78 := by
      intro v hv
      obtain ⟨s, -, rfl⟩ := List.mem_map.mp hv
      exact .text s
    exact .array hitems

end IsAssigned

end Value

/-- Entries that can be printed: their keys differ, and the tables among them come last and have
headers of their own, at most `depth` inside of each other. -/
inductive Printable : (depth : Nat) → Entries → Prop
  | nil {depth : Nat} : Printable depth []
  | assign {depth : Nat} {key : String} {v : Value} {es : Entries} (hv : v.IsAssigned)
    (hkey : ∀ e ∈ es, e.1 ≠ key) (hrest : Printable depth es) : Printable depth ((key, v) :: es)
  | table {depth : Nat} {key : String} {inside es : Entries} (hinside : Printable depth inside)
    (htables : ∀ e ∈ es, e.2.isTable = true) (hkey : ∀ e ∈ es, e.1 ≠ key)
    (hrest : Printable (depth + 1) es) :
    Printable (depth + 1) ((key, .table .header inside) :: es)

lemma assignmentsOf_cons {key : String} {v : Value} (h : v.isTable = false) (es : Entries) :
    assignmentsOf ((key, v) :: es) = .assign ⟨[], key⟩ v :: assignmentsOf es := by
  rw [assignmentsOf, List.filter_cons_of_pos (by simp [h])]
  rfl

lemma assignmentsOf_cons_table (key : String) (form : TableForm) (inside es : Entries) :
    assignmentsOf ((key, .table form inside) :: es) = assignmentsOf es := by
  rw [assignmentsOf, List.filter_cons_of_neg (by simp [Value.isTable])]
  rfl

lemma assignmentsOf_eq_nil {es : Entries} (h : ∀ e ∈ es, e.2.isTable = true) :
    assignmentsOf es = [] := by
  rw [assignmentsOf, List.map_eq_nil_iff, List.filter_eq_nil_iff]
  intro e he
  simp [h e he]

lemma sectionsOf_cons {key : String} {v : Value} (h : v.isTable = false) (scope : List String)
    (es : Entries) : sectionsOf scope ((key, v) :: es) = sectionsOf scope es := by
  cases v with
  | table _ _ => cases h
  | _ => simp only [sectionsOf]

lemma sectionsOf_eq_nil {es : Entries} (h : ∀ e ∈ es, e.2.isTable = false)
    (scope : List String) : sectionsOf scope es = [] := by
  induction es with
  | nil => rw [sectionsOf]
  | cons e es ih => rw [sectionsOf_cons (h e (.head _)), ih fun d hd => h d (.tail _ hd)]

lemma statementsOf_nil (scope : List String) : assignmentsOf [] ++ sectionsOf scope [] = [] := by
  rw [sectionsOf]
  rfl

namespace Printable

variable {depth : Nat} {es : Entries}

/-- Each statement is read back, unless its value overflows. -/
theorem readsBack (h : Printable depth es) {scope : List String}
    (hdepth : scope.length + depth < maxDepth) :
    ∀ st ∈ assignmentsOf es ++ sectionsOf scope es, st.overflows = false → st.ReadsBack := by
  induction h generalizing scope with
  | nil =>
    intro st hst
    rw [statementsOf_nil] at hst
    cases hst
  | assign hv _ _ ih =>
    rw [assignmentsOf_cons hv.isTable, sectionsOf_cons hv.isTable, List.cons_append]
    intro st hst hfits
    rcases List.mem_cons.mp hst with rfl | hst
    · exact .assign (Nat.le_add_left 1 78) (hv.readsBack _ hfits)
    · exact ih hdepth st hst hfits
  | @table depth key inside es _ htables _ _ ihinside ihrest =>
    have hrest := ihrest hdepth
    rw [assignmentsOf_eq_nil htables, List.nil_append] at hrest
    rw [assignmentsOf_cons_table, assignmentsOf_eq_nil htables, List.nil_append, sectionsOf]
    intro st hst hfits
    rcases List.mem_append.mp hst with hst | hst
    · rw [List.cons_append] at hst
      rcases List.mem_cons.mp hst with rfl | hst
      · apply Statement.ReadsBack.table
        simp only [Path.keys, List.length_append, List.length_singleton]
        omega
      · have hlength : (scope ++ [key]).length + depth < maxDepth := by
          rw [List.length_append, List.length_singleton]
          omega
        exact ihinside hlength st hst hfits
    · exact hrest st hst hfits

/-- The statements of entries add these to the open table. Unless there are only tables to add, it
must be the one at the path of the entries; which table is open afterwards is left aside, so what
follows must come to the same result in any table. -/
theorem perform?_eq (h : Printable depth es) {around : Surrounding} (haround : around.Distinct)
    {done : Entries} (hdone : ∀ e ∈ es, done.find? e.1 = none) {rest : List Statement}
    {result : Option Entries}
    (hrest : ∀ scope, Entries.perform? scope rest (around.fill (done ++ es)) = result)
    {scope : List String} (hscope : scope = around.scope ∨ ∀ e ∈ es, e.2.isTable = true) :
    Entries.perform? scope (assignmentsOf es ++ sectionsOf around.scope es ++ rest)
      (around.fill done) = result := by
  induction h generalizing around done rest scope with
  | nil =>
    rw [List.append_nil] at hrest
    rw [statementsOf_nil]
    exact hrest scope
  | @assign depth key v es hv hkey _ ih =>
    have hnone : done.find? key = none := hdone _ (.head _)
    rcases hscope with rfl | hscope
    · rw [assignmentsOf_cons hv.isTable, sectionsOf_cons hv.isTable, List.cons_append, List.cons_append,
        perform?_assign haround hnone]
      apply ih haround
      · intro e he
        exact Entries.find?_concat_of_ne (hdone e (.tail _ he)) (hkey e he).symm
      · rwa [List.append_assoc]
      · exact .inl rfl
    · have h := hscope _ (.head _)
      rw [hv.isTable] at h
      cases h
  | @table depth key inside es _ htables hkey _ ihinside ihrest =>
    have hnone : done.find? key = none := hdone _ (.head _)
    have hlater : ∀ scope, Entries.perform? scope (sectionsOf around.scope es ++ rest)
        (around.fill (done ++ [(key, .table .header inside)])) = result := by
      intro scope
      have h : Entries.perform? scope (assignmentsOf es ++ sectionsOf around.scope es ++ rest)
          (around.fill (done ++ [(key, .table .header inside)])) = result :=
        ihrest haround
          (fun e he => Entries.find?_concat_of_ne (hdone e (.tail _ he)) (hkey e he).symm)
          (by rwa [List.append_assoc]) (.inr htables)
      rwa [assignmentsOf_eq_nil htables, List.nil_append] at h
    rw [assignmentsOf_cons_table, assignmentsOf_eq_nil htables, List.nil_append, sectionsOf,
      List.cons_append, List.cons_append, List.cons_append, perform?_table haround hnone,
      List.append_assoc, ← Surrounding.scope_concat done key]
    apply ihinside (haround.concat hnone)
    · exact fun e _ => rfl
    · rwa [List.nil_append, Surrounding.fill_concat]
    · exact .inl rfl

/-- The statements of entries define these entries. -/
theorem ofStatements?_eq (h : Printable depth es) :
    Entries.ofStatements? (assignmentsOf es ++ sectionsOf [] es) = some es := by
  have hempty : Surrounding.Distinct [] := fun _ ha => nomatch ha
  have heq : Entries.perform? [] (assignmentsOf es ++ sectionsOf [] es ++ [])
      (Surrounding.fill [] []) = some es :=
    h.perform?_eq hempty (fun _ _ => rfl) (fun scope => by rw [Entries.perform?]; rfl) (.inl rfl)
  rwa [List.append_nil] at heq

/-- A printed file defines the entries that it was printed for, if none of them overflows. -/
theorem read?_write (h : Printable depth es) (hdepth : depth < maxDepth)
    (hfits : ∀ st ∈ assignmentsOf es ++ sectionsOf [] es, st.overflows = false) :
    Toml.read? (String.ofList (write (assignmentsOf es ++ sectionsOf [] es))) = some es := by
  have hread : ∀ st ∈ assignmentsOf es ++ sectionsOf [] es, st.ReadsBack := fun st hst =>
    h.readsBack (by simpa using hdepth) st hst (hfits st hst)
  rw [Toml.read?_write hread, h.ofStatements?_eq]

end Printable

/-- A value that is printed as a section of its own. -/
def Value.IsSection (depth : Nat) (v : Value) : Prop :=
  ∃ inside, v = .table .header inside ∧ Printable depth inside

/-- Assigned values with sections after them can be printed. -/
lemma Printable.of_append {depth : Nat} {values sections : Entries}
    (hkeys : ((values ++ sections).map (·.1)).Nodup) (hvalues : ∀ e ∈ values, e.2.IsAssigned)
    (hsections : ∀ e ∈ sections, e.2.IsSection depth) :
    Printable (depth + 1) (values ++ sections) := by
  induction values with
  | nil =>
    induction sections with
    | nil => exact .nil
    | cons e sections ih =>
      obtain ⟨key, v⟩ := e
      obtain ⟨inside, hv, hinside⟩ := hsections _ (.head _)
      rw [List.nil_append, List.map_cons, List.nodup_cons] at hkeys
      obtain rfl : v = .table .header inside := hv
      apply Printable.table hinside
      · intro e he
        obtain ⟨inside, hv, -⟩ := hsections e (.tail _ he)
        rw [hv]
        rfl
      · exact fun e he hkey => hkeys.1 (List.mem_map.mpr ⟨e, he, hkey⟩)
      · exact ih (fun e he => hsections e (.tail _ he)) hkeys.2
  | cons e values ih =>
    rw [List.cons_append, List.map_cons, List.nodup_cons] at hkeys
    apply Printable.assign (hvalues e (.head _))
    · exact fun d hd hkey => hkeys.1 (List.mem_map.mpr ⟨d, hd, hkey⟩)
    · exact ih hkeys.2 fun d hd => hvalues d (.tail _ hd)

end SpectroRemote.Toml
