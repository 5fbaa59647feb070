import SpectroRemote.Proofs.Settings.Paths
import SpectroRemote.Proofs.Settings.Schema
import SpectroRemote.Settings.Loading

/-!
# The keys of the settings

Settings are read from layers key by key: what they have under a key is what is read from the
setting at the path of the key (`Key.exists_read`). They have nothing but their keys, so that they
are determined by what they have under these (`ext_keys`).

The table of the detectors is not a key: each of the detectors is one.
-/

namespace SpectroRemote

variable {α σ : Type}

/-! ### Records -/

/-- Reading the field of a name gives a part of a record its value; reading another one does not
touch this part. -/
def Field.Keeps (name : String) (c : Codec α) (get : σ → α) (f : Field σ) : Prop :=
  ∀ v s s', f.read v s = .ok s' → if f.name = name then c.read v = .ok (get s') else get s' = get s

/-- A part of a record has what is read from the entry of a name. -/
def Codec.Delivers (r : Codec σ) (name : String) (c : Codec α) (get : σ → α) : Prop :=
  ∀ source entries s v, Keyed.Sorted entries → r.read (.table source entries) = .ok s →
    Keyed.find? name entries = some v → c.read v = .ok (get s)

namespace Field

variable {name : String} {c : Codec α} {get : σ → α}

@[simp] lemma of_name {set : α → σ → σ} : (Field.of name c get set).name = name := rfl

lemma exists_of_read_of {β : Type} {other : String} {d : Codec β} {get : σ → β} {set : β → σ → σ}
    {v : Setting} {s s' : σ} (h : (Field.of other d get set).read v s = .ok s') :
    ∃ b, d.read v = .ok b ∧ s' = set b s := by
  change (d.read v).map (set · s) = _ at h
  cases hread : d.read v with
  | error m =>
    rw [hread] at h
    cases h
  | ok b =>
    rw [hread] at h
    exact ⟨b, rfl, (Except.ok.inj h).symm⟩

@[simp] lemma keeps_self {set : α → σ → σ} (h : ∀ a s, get (set a s) = a) :
    (Field.of name c get set).Keeps name c get := by
  intro v s s' hread
  obtain ⟨a, ha, rfl⟩ := exists_of_read_of hread
  rw [of_name, if_pos rfl, ha, h]

@[simp] lemma keeps_of_ne {β : Type} {other : String} {d : Codec β} {get' : σ → β}
    {set : β → σ → σ} (hne : other ≠ name) (h : ∀ b s, get (set b s) = get s) :
    (Field.of other d get' set).Keeps name c get := by
  intro v s s' hread
  obtain ⟨b, -, rfl⟩ := exists_of_read_of hread
  rw [of_name, if_neg hne, h]

variable {fields : List (Field σ)} {entries : List (String × Setting)} {s s' : σ}

/-- Reading the first of several entries, and then the others. -/
lemma readKeys_cons_cases {key : String} {v : Setting}
    (h : readKeys fields ((key, v) :: entries) s = .ok s') :
    (∃ f ∈ fields, f.name = key ∧ ∃ t, f.read v s = .ok t ∧ readKeys fields entries t = .ok s')
      ∨ (∀ f ∈ fields, f.name ≠ key) ∧ readKeys fields entries s = .ok s' := by
  rw [readKeys] at h
  split at h
  · next f hf =>
    refine .inl ⟨f, List.mem_of_find?_eq_some hf, by simpa using List.find?_some hf, ?_⟩
    cases hread : f.read v s with
    | error m =>
      rw [hread] at h
      cases h
    | ok t =>
      rw [hread] at h
      exact ⟨t, rfl, h⟩
  · next hnone =>
    refine .inr ⟨fun f hf hkey => ?_, h⟩
    simpa [hkey] using List.find?_eq_none.mp hnone f hf

lemma get_of_readKeys (hkeeps : ∀ f ∈ fields, f.Keeps name c get)
    (habsent : Keyed.find? name entries = none) (h : readKeys fields entries s = .ok s') :
    get s' = get s := by
  induction entries generalizing s with
  | nil => rw [Except.ok.inj h]
  | cons e entries ih =>
    obtain ⟨key, v⟩ := e
    rw [Keyed.find?] at habsent
    split at habsent
    · cases habsent
    · next hkey =>
      rcases readKeys_cons_cases h with ⟨f, hf, rfl, t, hread, hrest⟩ | ⟨-, hrest⟩
      · have hkept := hkeeps f hf v s t hread
        rw [if_neg hkey] at hkept
        rw [ih habsent hrest, hkept]
      · exact ih habsent hrest

lemma read_of_readKeys (hkeeps : ∀ f ∈ fields, f.Keeps name c get)
    (hname : name ∈ fields.map (·.name)) (hsorted : Keyed.Sorted entries) {v : Setting}
    (hv : Keyed.find? name entries = some v) (h : readKeys fields entries s = .ok s') :
    c.read v = .ok (get s') := by
  induction entries generalizing s with
  | nil => cases hv
  | cons e entries ih =>
    obtain ⟨key, w⟩ := e
    obtain ⟨hfirst, hrest⟩ := List.pairwise_cons.mp hsorted
    rw [Keyed.find?] at hv
    split at hv
    · next hkey =>
      have hkey : key = name := hkey
      obtain rfl := Option.some.inj hv
      subst hkey
      rcases readKeys_cons_cases h with ⟨f, hf, hfield, t, hread, hafter⟩ | ⟨hnone, -⟩
      · have hkept := hkeeps f hf _ s t hread
        rw [if_pos hfield] at hkept
        rw [hkept, get_of_readKeys hkeeps (Keyed.find?_eq_none_of_lt hfirst) hafter]
      · obtain ⟨f, hf, hfield⟩ := List.mem_map.mp hname
        exact absurd hfield (hnone f hf)
    · rcases readKeys_cons_cases h with ⟨-, -, -, t, -, hafter⟩ | ⟨-, hafter⟩
      · exact ih hrest hv hafter
      · exact ih hrest hv hafter

end Field

lemma Codec.delivers_record {expected name : String} {initial : σ} {fields : List (Field σ)}
    {c : Codec α} {get : σ → α} (hkeeps : ∀ f ∈ fields, f.Keeps name c get)
    (hname : name ∈ fields.map (·.name)) :
    (record expected initial fields).Delivers name c get :=
  fun _ _ _ _ hsorted hread hv => Field.read_of_readKeys hkeeps hname hsorted hv hread

/-! ### Tables -/

namespace Codec

variable {c : Codec α} {es : List (String × Setting)}

lemma forall₂_of_readEntries {entries : List (String × α)}
    (h : readEntries c.read es = .ok entries) : List.Forall₂ c.ReadAs es entries := by
  induction es generalizing entries with
  | nil =>
    rw [← Except.ok.inj h]
    exact .nil
  | cons e es ih =>
    obtain ⟨key, v⟩ := e
    rw [readEntries] at h
    cases hread : c.read v with
    | error m =>
      rw [hread] at h
      cases h
    | ok a =>
      rw [hread] at h
      cases hrest : readEntries c.read es with
      | error m =>
        rw [hrest] at h
        cases h
      | ok rest =>
        rw [hrest] at h
        rw [← Except.ok.inj h]
        exact .cons ⟨rfl, hread⟩ (ih hrest)

lemma sorted_of_forall₂ {entries : List (String × α)} (h : List.Forall₂ c.ReadAs es entries)
    (hsorted : Keyed.Sorted es) : Keyed.Sorted entries := by
  have hkeys : es.map (·.1) = entries.map (·.1) := by
    induction h with
    | nil => rfl
    | cons hea _ ih =>
      rw [List.map_cons, List.map_cons, hea.1, ih (List.pairwise_cons.mp hsorted).2]
  have hpairwise : (es.map (·.1)).Pairwise (· < ·) := List.pairwise_map.mpr hsorted
  rw [hkeys] at hpairwise
  exact List.pairwise_map.mp hpairwise

/-- An entry is read as an entry, and nothing as nothing. -/
lemma rel_find?_of_forall₂ {entries : List (String × α)} (h : List.Forall₂ c.ReadAs es entries)
    (k : String) : Option.Rel (c.read · = .ok ·) (Keyed.find? k es) (Keyed.find? k entries) := by
  induction h with
  | nil => exact .none
  | @cons e a es entries hea _ ih =>
    rw [Keyed.find?, Keyed.find?, ← hea.1]
    split
    · exact .some hea.2
    · exact ih

/-- A table that was read has what is read from the entry of each key. -/
lemma rel_get?_of_read {source : Source} {t : Table α} (hsorted : Keyed.Sorted es)
    (h : (table c).read (.table source es) = .ok t) (k : String) :
    Option.Rel (c.read · = .ok ·) (Keyed.find? k es) (t.get? k) := by
  change (readEntries c.read es).map Table.ofList = _ at h
  cases hread : readEntries c.read es with
  | error m =>
    rw [hread] at h
    cases h
  | ok entries =>
    rw [hread] at h
    have hentries := forall₂_of_readEntries hread
    have hget : t.get? k = Keyed.find? k entries := by
      rw [← Except.ok.inj h, Table.ofList,
        Table.get?_insertAll (sorted_of_forall₂ hentries hsorted), Table.get?_empty, Option.or_none]
    rw [hget]
    exact rel_find?_of_forall₂ hentries k

/-! ### Values that are not tables -/

/-- Tables are not read. -/
def RefusesTables (c : Codec α) : Prop := ∀ source entries a, c.read (.table source entries) ≠ .ok a

section RefusesTables

variable {β : Type} {c : Codec α}

/-- What is read when a value comes over another one is read from this value alone. -/
lemma RefusesTables.read_of_mergeOver (h : c.RefusesTables) {earlier : Option Setting}
    {v : Setting} {a : α} (hread : c.read (Setting.mergeOver earlier v) = .ok a) :
    c.read v = .ok a := by
  cases earlier with
  | none => exact hread
  | some earlier =>
    rw [Setting.mergeOver] at hread
    cases v with
    | scalar source v => rwa [Setting.merge_scalar] at hread
    | list source items => rwa [Setting.merge_list] at hread
    | table source entries =>
      obtain ⟨merged, hmerged⟩ := earlier.exists_merge_table source entries
      rw [hmerged] at hread
      exact absurd hread (h _ _ _)

lemma RefusesTables.map (h : c.RefusesTables) {f : α → β} {g : β → α} :
    (c.map f g).RefusesTables := by
  intro source entries b hread
  change (c.read (.table source entries)).map f = _ at hread
  cases hc : c.read (.table source entries) with
  | error m =>
    rw [hc] at hread
    cases hread
  | ok a => exact h source entries a hc

lemma natural_refusesTables {limit : Nat} {expected : String} :
    (natural limit expected).RefusesTables := fun _ _ _ h => nomatch h

lemma words_refusesTables {expected : String} {all : List α} {word : α → String} :
    (words expected all word).RefusesTables := by
  intro source entries a hread
  cases entries with
  | nil => cases hread
  | cons e entries =>
    simp only [words] at hread
    split at hread <;> cases hread

@[simp] lemma text_refusesTables : text.RefusesTables := fun _ _ _ h => nomatch h

@[simp] lemma flag_refusesTables : flag.RefusesTables := fun _ _ _ h => nomatch h

@[simp] lemma float_refusesTables : float.RefusesTables := fun _ _ _ h => nomatch h

@[simp] lemma list_refusesTables : (list c).RefusesTables := fun _ _ _ h => nomatch h

@[simp] lemma port_refusesTables : port.RefusesTables := natural_refusesTables.map

@[simp] lemma count_refusesTables : count.RefusesTables := natural_refusesTables.map

@[simp] lemma duration_refusesTables : duration.RefusesTables := natural_refusesTables.map

@[simp] lemma size_refusesTables : size.RefusesTables := natural_refusesTables.map

@[simp] lemma logFormat_refusesTables : logFormat.RefusesTables := words_refusesTables

@[simp] lemma transportMode_refusesTables : transportMode.RefusesTables := words_refusesTables

end RefusesTables

end Codec

/-! ### Keys -/

namespace Settings

/-- A section of the settings. -/
structure Section (σ : Type) where
  name : String
  codec : Codec σ
  get : Settings → σ
  delivers : Settings.codec.Delivers name codec get := by
    exact Codec.delivers_record (by simp) (by simp)

/-- A key: where it stands, how it is read, and what settings have under it. -/
structure Key where
  {α : Type}
  path : List String
  codec : Codec α
  get : Settings → Option α
  isKeyPath : IsKeyPath path
  refusesTables : codec.RefusesTables := by simp
  /-- What is at the end of the path is read, and settings have it under the key. -/
  exists_read {layers : Setting} {s : Settings} {v : Setting} :
    Settings.codec.read layers = .ok s → layers.OpensAlong path → layers.at? path = some v →
      ∃ a, codec.read v = .ok a ∧ get s = some a

namespace Section

variable (part : Section σ)

lemma read_of_at? {name : String} {c : Codec α} {get : σ → α} {layers v : Setting} {s : Settings}
    (hkey : part.codec.Delivers name c get) (hread : Settings.codec.read layers = .ok s)
    (hopens : layers.OpensAlong [part.name, name]) (hv : layers.at? [part.name, name] = some v) :
    c.read v = .ok (get (part.get s)) := by
  obtain ⟨hopens, hinside⟩ := Setting.OpensAlong.of_append [part.name] [name] hopens
  rw [← List.singleton_append, Setting.at?_append, Option.bind_eq_some_iff] at hv
  obtain ⟨w, hw, hv⟩ := hv
  obtain ⟨_, _, rfl, hsorted, hfound⟩ := Setting.exists_table_of_at? hopens hw
  obtain ⟨_, _, rfl, hsorted', hfound'⟩ := Setting.exists_table_of_at? (hinside w hw) hv
  exact hkey _ _ _ _ hsorted' (part.delivers _ _ _ _ hsorted hread hfound) hfound'

/-- A key of a section, which has always a value. -/
def key (name : String) (codec : Codec α) (get : σ → α)
    (hkey : part.codec.Delivers name codec get := by
      exact Codec.delivers_record (by simp) (by simp))
    (hname : [part.name, name] ≠ ["scan", "detectors"] := by decide)
    (hrefuses : codec.RefusesTables := by simp) : Key where
  path := [part.name, name]
  codec
  get s := some (get (part.get s))
  isKeyPath := .key hname
  refusesTables := hrefuses
  exists_read hread hopens hv := ⟨_, part.read_of_at? hkey hread hopens hv, rfl⟩

def application : Section ApplicationSettings where
  name := "application"
  codec := ApplicationSettings.codec
  get := (·.application)

def transport : Section TransportSettings where
  name := "transport"
  codec := TransportSettings.codec
  get := (·.transport)

def magnet : Section MagnetSettings where
  name := "magnet"
  codec := MagnetSettings.codec
  get := (·.magnet)

def beamBlank : Section BeamBlankSettings where
  name := "beam_blank"
  codec := BeamBlankSettings.codec
  get := (·.beamBlank)

def scan : Section ScanSettings where
  name := "scan"
  codec := ScanSettings.codec
  get := (·.scan)

def cups : Section CupSettings where
  name := "cups"
  codec := CupSettings.codec
  get := (·.cups)

def hardware : Section HardwareSettings where
  name := "hardware"
  codec := HardwareSettings.codec
  get := (·.hardware)

end Section

namespace Key

/-- The keys that have always a value: all but those of the detectors. -/
def fixed : List Key := [
  Section.application.key "name" .text (·.name),
  Section.application.key "log_level" .text (·.logLevel),
  Section.application.key "log_format" .logFormat (·.logFormat),
  Section.transport.key "mode" .transportMode (·.mode),
  Section.transport.key "bind_address" .text (·.bindAddress),
  Section.transport.key "port" .port (·.port),
  Section.transport.key "buffer_size" .size (·.bufferSize),
  Section.magnet.key "move_threshold" .float (·.moveThreshold),
  Section.magnet.key "steps" .count (·.steps),
  Section.magnet.key "step_time_ms" .duration (·.stepTime),
  Section.beamBlank.key "enabled" .flag (·.enabled),
  Section.beamBlank.key "blank_value" .float (·.blankValue),
  Section.scan.key "tag_data" .flag (·.tagData),
  Section.scan.key "ion_counter_tag" .text (·.ionCounterTag),
  Section.scan.key "channel_capacity" .size (·.channelCapacity),
  Section.scan.key "allow_integration_time_change" .flag (·.allowIntegrationTimeChange),
  Section.cups.key "cup_configuration" .text (·.cupConfiguration),
  Section.cups.key "sub_cup_parameters" (.list .text) (·.subCupParameters),
  Section.hardware.key "magnet_dac" .text (·.magnetDac),
  Section.hardware.key "y_symmetry" .text (·.ySymmetry),
  Section.hardware.key "ion_pump_valve" .text (·.ionPumpValve)]

lemma delivers_detectors : Section.scan.codec.Delivers "detectors" (.table .text) (·.detectors) :=
  Codec.delivers_record (by simp) (by simp)

/-- If there are detectors at all, settings have those that were read. -/
lemma rel_detectors {layers v : Setting} {s : Settings} {id : String}
    (hread : Settings.codec.read layers = .ok s)
    (hopens : layers.OpensAlong ["scan", "detectors", id])
    (hv : layers.at? ["scan", "detectors"] = some v) :
    Option.Rel (Codec.text.read · = .ok ·) (layers.at? ["scan", "detectors", id])
      (s.scan.detectors.get? id) := by
  obtain ⟨hopens, hinside⟩ := Setting.OpensAlong.of_append ["scan", "detectors"] [id] hopens
  have hdetectors : (Codec.table .text).read v = .ok s.scan.detectors :=
    Section.scan.read_of_at? delivers_detectors hread hopens hv
  have hat := layers.at?_append ["scan", "detectors"] [id]
  rw [hv, Option.bind_some] at hat
  have hopens := hinside v hv
  cases v with
  | table source entries =>
    rw [Setting.at?_singleton] at hat
    exact hat ▸ Codec.rel_get?_of_read hopens.1 hdetectors id
  | _ => exact hopens.elim

lemma exists_read_detector {layers v : Setting} {s : Settings} {id : String}
    (hread : Settings.codec.read layers = .ok s)
    (hopens : layers.OpensAlong ["scan", "detectors", id])
    (hv : layers.at? ["scan", "detectors", id] = some v) :
    ∃ tag, Codec.text.read v = .ok tag ∧ s.scan.detectors.get? id = some tag := by
  have hat := layers.at?_append ["scan", "detectors"] [id]
  obtain ⟨w, hw, -⟩ := Option.bind_eq_some_iff.mp (hat.symm.trans hv)
  have hrel := rel_detectors hread hopens hw
  rw [hv] at hrel
  generalize s.scan.detectors.get? id = found at hrel ⊢
  cases hrel with
  | some h => exact ⟨_, h, rfl⟩

/-- The key of the tag of one detector. -/
def detector (id : String) : Key where
  path := ["scan", "detectors", id]
  codec := .text
  get s := s.scan.detectors.get? id
  isKeyPath := .detector id
  exists_read := exists_read_detector

lemma get_detector_eq_none {layers : Setting} {s : Settings} {id : String}
    (hread : Settings.codec.read layers = .ok s) (hopens : layers.OpensAlong (detector id).path)
    (hdetectors : (layers.at? ["scan", "detectors"]).isSome = true)
    (hat : layers.at? (detector id).path = none) : (detector id).get s = none := by
  obtain ⟨v, hv⟩ := Option.isSome_iff_exists.mp hdetectors
  have hrel := rel_detectors hread hopens hv
  rw [show layers.at? ["scan", "detectors", id] = none from hat] at hrel
  change s.scan.detectors.get? id = none
  generalize s.scan.detectors.get? id = found at hrel ⊢
  cases hrel with
  | none => rfl

/-- The keys of settings: the fixed ones, and one for each detector that there could be. -/
inductive Valid : Key → Prop
  | fixed {k : Key} (h : k ∈ fixed) : Valid k
  | detector (id : String) : Valid (detector id)

end Key

/-- Settings have nothing but their keys. -/
theorem ext_keys {s t : Settings} (h : ∀ k, Key.Valid k → k.get s = k.get t) : s = t := by
  have hfixed : ∀ k ∈ Key.fixed, k.get s = k.get t := fun k hk => h k (.fixed hk)
  have hdetectors : s.scan.detectors = t.scan.detectors :=
    Table.eq_of_get?_eq fun id => h _ (.detector id)
  obtain ⟨⟨_, _, _⟩, ⟨_, _, _, _⟩, ⟨_, _, _⟩, ⟨_, _⟩, ⟨_, _, _, _, _⟩, ⟨_, _⟩, ⟨_, _, _⟩⟩ := s
  obtain ⟨⟨_, _, _⟩, ⟨_, _, _, _⟩, ⟨_, _, _⟩, ⟨_, _⟩, ⟨_, _, _, _, _⟩, ⟨_, _⟩, ⟨_, _, _⟩⟩ := t
  simp_all [Key.fixed, Section.key, Section.application, Section.transport, Section.magnet,
    Section.beamBlank, Section.scan, Section.cups, Section.hardware]

/-! ### Built-in values -/

set_option maxRecDepth 4000 in
lemma read_builtInLayer : codec.read builtInLayer = .ok {} := rfl

lemma opens_write_record {expected : String} {initial s : σ} {fields : List (Field σ)}
    {path : List String} (h : ∀ f ∈ fields, (f.write s).OpensAlong path) (key : String) :
    ((Codec.record expected initial fields).write s).OpensAlong (key :: path) := by
  intro v hv
  obtain ⟨f, hf, heq⟩ := List.mem_map.mp (Keyed.mem_of_find? hv)
  rw [← (Prod.mk.inj heq).2]
  exact h f hf

lemma opens_builtInLayer {path : List String} (h : IsKeyPath path) :
    builtInLayer.OpensAlong path := by
  apply Setting.opens_ofValue
  cases h with
  | @key part name h =>
    have hsection {form : Toml.TableForm} {entries : Toml.Entries} :
        (Toml.Value.table form entries).OpensAlong [name] := fun _ _ => trivial
    apply opens_write_record
    simp only [List.forall_mem_cons]
    exact ⟨hsection, hsection, hsection, hsection, hsection, hsection, hsection,
      List.forall_mem_nil _⟩
  | detector id =>
    intro v hv
    obtain rfl := Option.some.inj hv
    intro w hw
    obtain rfl := Option.some.inj hw
    exact fun _ _ => trivial

lemma isSome_builtInLayer_at? : ∀ k ∈ Key.fixed, (builtInLayer.at? k.path).isSome = true := by
  decide +kernel

lemma isSome_builtInLayer_detectors :
    (builtInLayer.at? ["scan", "detectors"]).isSome = true := by
  decide +kernel

end Settings

end SpectroRemote
