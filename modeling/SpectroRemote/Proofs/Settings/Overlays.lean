import SpectroRemote.Proofs.Lists
import SpectroRemote.Proofs.Tables
import SpectroRemote.Settings.Schema

/-!
# Settings laid over others

What is read when settings were written and laid over others that were written in the same way.
A value without parts, or a list, replaces what is below it. A record is read field by field, so that
each field has what is read from the two values of the field. A table keeps the entries below it
that it does not replace (`Overlays.table`): this is the only way in which something from below
comes through.
-/

namespace SpectroRemote

variable {α β σ : Type}

/-! ### Layers -/

namespace Setting

@[simp] lemma merge_scalar (earlier : Setting) (source : Source) (v : Scalar) :
    earlier.merge (.scalar source v) = .scalar source v := by
  rw [merge]
  exact fun _ _ h => nomatch h

@[simp] lemma merge_list (earlier : Setting) (source : Source) (items : List Setting) :
    earlier.merge (.list source items) = .list source items := by
  rw [merge]
  exact fun _ _ h => nomatch h

@[simp] lemma merge_table (earlier later : Source) (entries more : List (String × Setting)) :
    (Setting.table earlier entries).merge (.table later more)
      = .table later (mergeEntries entries more) := by
  rw [merge]

lemma ofEntries_eq_sort (source : Source) (es : Toml.Entries) :
    ofEntries source es = Keyed.sort (es.map fun e => (e.1, ofValue source e.2)) := by
  induction es with
  | nil =>
    rw [ofEntries]
    rfl
  | cons e es ih =>
    rw [ofEntries, ih]
    rfl

lemma ofItems_eq_map (source : Source) (items : List Toml.Value) :
    ofItems source items = items.map (ofValue source) := by
  induction items with
  | nil =>
    rw [ofItems]
    rfl
  | cons v items ih =>
    rw [ofItems, ih]
    rfl

/-- A value above the one below it, which may be missing. -/
def mergeOver (earlier : Option Setting) (v : Setting) : Setting :=
  match earlier with
  | some earlier => earlier.merge v
  | none => v

lemma mergeEntries_cons (entries later : List (String × Setting)) (key : String) (v : Setting) :
    mergeEntries entries ((key, v) :: later)
      = mergeEntries (Keyed.insert key (mergeOver (Keyed.find? key entries) v) entries) later := by
  rw [mergeEntries]
  cases Keyed.find? key entries <;> rfl

lemma sorted_mergeEntries {entries : List (String × Setting)} (h : Keyed.Sorted entries)
    (later : List (String × Setting)) : Keyed.Sorted (mergeEntries entries later) := by
  induction later generalizing entries with
  | nil => rwa [mergeEntries]
  | cons e later ih =>
    rw [mergeEntries_cons]
    exact ih (h.insert _ _)

/-- Of two merged tables, what both have is merged, and what one of them has is kept. -/
lemma find?_mergeEntries (k : String) {entries later : List (String × Setting)}
    (h : Keyed.Sorted later) :
    Keyed.find? k (mergeEntries entries later)
      = ((Keyed.find? k later).map (mergeOver (Keyed.find? k entries))).or
          (Keyed.find? k entries) := by
  induction later generalizing entries with
  | nil =>
    rw [mergeEntries]
    rfl
  | cons e later ih =>
    obtain ⟨key, v⟩ := e
    obtain ⟨hfirst, hlater⟩ := List.pairwise_cons.mp h
    rw [mergeEntries_cons, ih hlater, Keyed.find?_insert, Keyed.find?]
    by_cases hk : key = k
    · subst hk
      rw [Keyed.find?_eq_none_of_lt hfirst]
      simp
    · simp [hk]

end Setting

/-! ### Values that replace others -/

namespace Codec

/-- Written values are read back, and whatever is below them is replaced. -/
structure Replaces (c : Codec α) : Prop where
  read (source : Source) (a : α) : c.read (.ofValue source (c.write a)) = .ok a
  merge (source : Source) (a : α) (earlier : Setting) :
    earlier.merge (.ofValue source (c.write a)) = .ofValue source (c.write a)

/-- What is read when one value is laid over another. -/
def Overlays (c : Codec α) (below above result : α) : Prop :=
  ∀ earlier later, c.read ((Setting.ofValue earlier (c.write below)).merge
    (.ofValue later (c.write above))) = .ok result

namespace Replaces

lemma overlays {c : Codec α} (h : c.Replaces) (below above : α) : c.Overlays below above above := by
  intro earlier later
  rw [h.merge]
  exact h.read later above

lemma map {c : Codec α} (h : c.Replaces) {f : α → β} {g : β → α} (hfg : ∀ b, f (g b) = b) :
    (c.map f g).Replaces where
  read source b := by
    change (c.read (.ofValue source (c.write (g b)))).map f = _
    rw [h.read]
    exact congrArg Except.ok (hfg b)
  merge source b earlier := h.merge source (g b) earlier

end Replaces

/-! ### Values without parts, and lists -/

/-- A written value without parts replaces what is below it. -/
lemma Replaces.of_scalar {c : Codec α} (v : α → Scalar)
    (hwrite : ∀ source a, Setting.ofValue source (c.write a) = .scalar source (v a))
    (hread : ∀ source a, c.read (.scalar source (v a)) = .ok a) : c.Replaces where
  read source a := by rw [hwrite, hread]
  merge source a earlier := by rw [hwrite, Setting.merge_scalar]

lemma text_replaces : Codec.text.Replaces :=
  .of_scalar .text (fun _ _ => by simp [text, Setting.ofValue]) fun _ _ => rfl

lemma flag_replaces : flag.Replaces :=
  .of_scalar .flag (fun _ _ => by simp [flag, Setting.ofValue]) fun _ _ => rfl

lemma float_replaces : float.Replaces :=
  .of_scalar .float (fun _ _ => by simp [float, Setting.ofValue]) fun _ _ => rfl

/-- A natural number of limited size is read back. -/
lemma natural_replaces {limit : Nat} {expected : String} {toNat : β → Nat} {ofNat : Nat → β}
    (hlimit : ∀ b, toNat b < limit) (hof : ∀ b, ofNat (toNat b) = b) :
    ((natural limit expected).map ofNat toNat).Replaces := by
  apply Replaces.of_scalar fun b => .signed (toNat b)
  · intro source b
    simp [Codec.map, natural, Setting.ofValue]
  · intro source b
    have hb := hlimit b
    simp [Codec.map, natural, hb, hof, Except.map]

/-- A word is read back if each value has its own. -/
lemma words_replaces {expected : String} {all : List α} {word : α → String}
    (hall : ∀ a, a ∈ all) (hword : (all.map word).Nodup) : (words expected all word).Replaces := by
  apply Replaces.of_scalar fun a => .text (word a)
  · intro source a
    simp [words, Setting.ofValue]
  · intro source a
    simp only [words]
    rw [find?_eq_some_of_nodup word hword (hall a)]

lemma readItems_map {c : Codec α} (h : c.Replaces) (source : Source) (items : List α)
    (index : Nat) :
    readItems c.read index (items.map fun a => .ofValue source (c.write a)) = .ok items := by
  induction items generalizing index with
  | nil => rfl
  | cons a items ih =>
    rw [List.map_cons, readItems, h.read, ih]
    rfl

lemma list_replaces {c : Codec α} (h : c.Replaces) : (list c).Replaces := by
  have hwrite (source : Source) (items : List α) :
      Setting.ofValue source ((list c).write items)
        = .list source (items.map fun a => .ofValue source (c.write a)) := by
    change Setting.ofValue source (.array (items.map c.write)) = _
    rw [Setting.ofValue, Setting.ofItems_eq_map, List.map_map]
    rfl
  constructor
  · intro source items
    rw [hwrite]
    exact readItems_map h source items 0
  · intro source items earlier
    rw [hwrite, Setting.merge_list]

/-! ### Tables -/

/-- An entry that is read as an entry of the same name. -/
def ReadAs (c : Codec α) (e : String × Setting) (a : String × α) : Prop :=
  e.1 = a.1 ∧ c.read e.2 = .ok a.2

lemma readEntries_eq {c : Codec α} {l : List (String × Setting)} {entries : List (String × α)}
    (h : List.Forall₂ c.ReadAs l entries) : readEntries c.read l = .ok entries := by
  induction h with
  | nil => rfl
  | @cons e a l entries hea _ ih =>
    obtain ⟨key, s⟩ := e
    obtain ⟨rfl, hread⟩ := hea
    change c.read s = _ at hread
    rw [readEntries, hread, ih]
    rfl

/-- Merging puts the later entries in. -/
lemma forall₂_mergeEntries {c : Codec α} (hc : c.Replaces) (source : Source)
    (later : List (String × α)) {l : List (String × Setting)} {entries : List (String × α)}
    (h : List.Forall₂ c.ReadAs l entries) :
    List.Forall₂ c.ReadAs
      (Setting.mergeEntries l (later.map fun e => (e.1, .ofValue source (c.write e.2))))
      (later.foldl (fun t e => Keyed.insert e.1 e.2 t) entries) := by
  induction later generalizing l entries with
  | nil =>
    rw [List.map_nil, Setting.mergeEntries]
    exact h
  | cons e later ih =>
    rw [List.map_cons, Setting.mergeEntries_cons, List.foldl_cons]
    apply ih
    refine Keyed.forall₂_insert (r := fun s a => c.read s = .ok a) h e.1 ?_
    cases Keyed.find? e.1 l with
    | none => exact hc.read source e.2
    | some earlier =>
      rw [Setting.mergeOver, hc.merge]
      exact hc.read source e.2

lemma ofValue_write_table (c : Codec α) (source : Source) (t : Table α) :
    Setting.ofValue source ((table c).write t)
      = .table source (t.entries.map fun e => (e.1, .ofValue source (c.write e.2))) := by
  have hsort := Keyed.sort_map (fun a => Setting.ofValue source (c.write a)) t.entries
  rw [t.sorted.sort_eq] at hsort
  change Setting.ofValue source (.table .header (t.entries.map fun e => (e.1, c.write e.2))) = _
  rw [Setting.ofValue, Setting.ofEntries_eq_sort, List.map_map]
  exact congrArg (Setting.table source) hsort

/-- A table that is laid over another is read with the entries of the other that it does not
replace. -/
theorem Overlays.table {c : Codec α} (hc : c.Replaces) (below above : Table α) :
    (table c).Overlays below above (below.insertAll above.entries) := by
  intro earlier later
  have hbelow : List.Forall₂ c.ReadAs
      (below.entries.map fun e => (e.1, .ofValue earlier (c.write e.2))) below.entries := by
    rw [List.forall₂_map_left_iff, List.forall₂_same]
    exact fun e _ => ⟨rfl, hc.read earlier e.2⟩
  rw [ofValue_write_table, ofValue_write_table, Setting.merge_table]
  change (readEntries c.read _).map Table.ofList = _
  rw [readEntries_eq (forall₂_mergeEntries hc later above.entries hbelow), Except.map,
    ← Table.entries_insertAll, Table.ofList_entries]

end Codec

/-! ### Records -/

/-- What is read of a field when one record is laid over another. -/
def Field.Overlays (below above : σ) (f : Field σ) (put : σ → σ) : Prop :=
  ∀ earlier later s, f.read ((Setting.ofValue earlier (f.write below)).merge
    (.ofValue later (f.write above))) s = .ok (put s)

namespace Field

variable {below above : σ}

lemma Overlays.of {name : String} {c : Codec α} {get : σ → α} {set : α → σ → σ} {a : α}
    (h : c.Overlays (get below) (get above) a) :
    (Field.of name c get set).Overlays below above (set a) := by
  intro earlier later s
  change (c.read ((Setting.ofValue earlier (c.write (get below))).merge
    (.ofValue later (c.write (get above))))).map (set · s) = _
  rw [h earlier later]
  rfl

lemma Overlays.of_replaces {name : String} {c : Codec α} {get : σ → α} {set : α → σ → σ}
    (h : c.Replaces) : (Field.of name c get set).Overlays below above (set (get above)) :=
  .of (h.overlays _ _)

lemma ofEntries_write (fields : List (Field σ)) (source : Source) (s : σ) :
    Setting.ofEntries source (fields.map fun f => (f.name, f.write s))
      = Keyed.sort (fields.map fun f => (f.name, .ofValue source (f.write s))) := by
  rw [Setting.ofEntries_eq_sort, List.map_map]
  rfl

lemma find?_map (fields : List (Field σ)) (g : Field σ → α) (k : String) :
    Keyed.find? k (fields.map fun f => (f.name, g f))
      = (fields.find? fun f => f.name = k).map g := by
  induction fields with
  | nil => rfl
  | cons f fields ih =>
    rw [List.map_cons, Keyed.find?, List.find?_cons]
    by_cases h : f.name = k
    · simp [h]
    · simp [h, ih]

/-- The setting of a field when one record is laid over another. -/
def overlay (earlier later : Source) (below above : σ) (f : Field σ) : Setting :=
  (Setting.ofValue earlier (f.write below)).merge (.ofValue later (f.write above))

/-- When one record is laid over another, so is each of its fields. -/
lemma mergeEntries_ofEntries (fields : List (Field σ)) (earlier later : Source) (below above : σ) :
    Setting.mergeEntries
        (Setting.ofEntries earlier (fields.map fun f => (f.name, f.write below)))
        (Setting.ofEntries later (fields.map fun f => (f.name, f.write above)))
      = Keyed.sort (fields.map fun f => (f.name, f.overlay earlier later below above)) := by
  rw [ofEntries_write, ofEntries_write]
  apply (Setting.sorted_mergeEntries (Keyed.sorted_sort _) _).eq_of_find?_eq (Keyed.sorted_sort _)
  intro k
  rw [Setting.find?_mergeEntries k (Keyed.sorted_sort _), Keyed.find?_sort, Keyed.find?_sort,
    Keyed.find?_sort, find?_map, find?_map, find?_map]
  cases fields.find? fun f => f.name = k with
  | none => rfl
  | some f => rfl

/-- Fields that are read one after the other, each from its own setting. -/
lemma readKeys_map {fields : List (Field σ)} (hnames : (fields.map (·.name)).Nodup)
    (earlier later : Source) {l : List (String × Field σ × (σ → σ))}
    (h : ∀ e ∈ l, e.1 = e.2.1.name ∧ e.2.1 ∈ fields ∧ e.2.1.Overlays below above e.2.2) (s : σ) :
    readKeys fields (l.map fun e => (e.1, e.2.1.overlay earlier later below above)) s
      = .ok (l.foldl (fun s e => e.2.2 s) s) := by
  induction l generalizing s with
  | nil => rfl
  | cons e l ih =>
    obtain ⟨hname, hfield, hoverlays⟩ := h e (.head _)
    have hread : e.2.1.read (e.2.1.overlay earlier later below above) s = .ok (e.2.2 s) :=
      hoverlays earlier later s
    have hfind := find?_eq_some_of_nodup (·.name) hnames hfield
    rw [List.map_cons, readKeys, hname]
    simp only [hfind, hread, Except.mapError]
    exact ih (fun d hd => h d (.tail _ hd)) (e.2.2 s)

end Field

namespace Codec

variable {expected : String} {initial below above : σ}

lemma overlays_record_map {l : List (Field σ × (σ → σ))}
    (h : ∀ p ∈ l, p.1.Overlays below above p.2) (hnames : (l.map (·.1.name)).Nodup)
    (hcomm : ∀ p ∈ l, ∀ q ∈ l, ∀ s, p.2 (q.2 s) = q.2 (p.2 s)) :
    (record expected initial (l.map (·.1))).Overlays below above
      (l.foldl (fun s p => p.2 s) initial) := by
  -- in the order of their names
  have hsort : (Keyed.sort (l.map fun p => (p.1.name, p))).Perm (l.map fun p => (p.1.name, p)) := by
    apply Keyed.perm_sort
    rw [List.map_map]
    exact hnames
  have hmem : ∀ e ∈ Keyed.sort (l.map fun p => (p.1.name, p)), e.1 = e.2.1.name
      ∧ e.2.1 ∈ l.map (·.1) ∧ e.2.1.Overlays below above e.2.2 := by
    intro e he
    obtain ⟨p, hp, rfl⟩ := List.mem_map.mp (hsort.mem_iff.mp he)
    exact ⟨rfl, List.mem_map_of_mem hp, h p hp⟩
  intro earlier later
  have hentries : Keyed.sort
        ((l.map (·.1)).map fun f => (f.name, f.overlay earlier later below above))
      = (Keyed.sort (l.map fun p => (p.1.name, p))).map
          fun e => (e.1, e.2.1.overlay earlier later below above) := by
    have hmap := Keyed.sort_map (fun p : Field σ × (σ → σ) => p.1.overlay earlier later below above)
      (l.map fun p => (p.1.name, p))
    rw [List.map_map] at hmap ⊢
    exact hmap
  have hread := Field.readKeys_map (by rwa [List.map_map]) earlier later hmem initial
  rw [← hentries] at hread
  change Codec.read _ ((Setting.ofValue earlier (.table .header _)).merge
    (.ofValue later (.table .header _))) = _
  rw [Setting.ofValue, Setting.ofValue, Setting.merge_table, Field.mergeEntries_ofEntries]
  refine hread.trans (congrArg Except.ok ?_)
  rw [hsort.foldl_eq' _ initial, List.foldl_map]
  intro d hd e he s
  obtain ⟨p, hp, rfl⟩ := List.mem_map.mp (hsort.mem_iff.mp hd)
  obtain ⟨q, hq, rfl⟩ := List.mem_map.mp (hsort.mem_iff.mp he)
  exact hcomm q hq p hp s

/-- A record that is laid over another is read field by field. The fields are read in the order of
their names, so what they put must not depend on the order. -/
theorem Overlays.record {fields : List (Field σ)} {puts : List (σ → σ)} {result : σ}
    (h : List.Forall₂ (Field.Overlays below above) fields puts) (hnames : (fields.map (·.name)).Nodup)
    (hcomm : ∀ p ∈ puts, ∀ q ∈ puts, ∀ s, p (q s) = q (p s))
    (hresult : puts.foldl (fun s put => put s) initial = result) :
    (record expected initial fields).Overlays below above result := by
  obtain ⟨hlength, hoverlays⟩ := List.forall₂_iff_zip.mp h
  have hfields : (fields.zip puts).map (·.1) = fields := List.map_fst_zip hlength.le
  have hputs : (fields.zip puts).map (·.2) = puts := List.map_snd_zip hlength.ge
  have hzip : (Codec.record expected initial ((fields.zip puts).map (·.1))).Overlays below above
      ((fields.zip puts).foldl (fun s p => p.2 s) initial) := by
    apply overlays_record_map
    · exact fun p hp => hoverlays hp
    · rw [← hfields, List.map_map] at hnames
      exact hnames
    · exact fun p hp q hq => hcomm p.2 (List.of_mem_zip hp).2 q.2 (List.of_mem_zip hq).2
  rw [hfields] at hzip
  rw [← hresult, ← hputs, List.foldl_map]
  exact hzip

end Codec

end SpectroRemote
