import SpectroRemote.Proofs.Settings.Schema
import SpectroRemote.Settings.Loading

/-!
# Rendered settings are loaded

A rendered configuration file holds all settings, yet it is laid over the built-in ones. What is
loaded from it are the settings that were rendered, together with the built-in detectors that they
lack (`load_render`). So they are loaded as they were if and only if they lack none of these, and none
of their detectors has a reserved name (`load_render_eq_ok_iff`).
-/

namespace SpectroRemote

open Toml (sourceKey standInKey)
open Toml.Value (IsSettled)

/-! ### Sections in which one value stands for another -/

/-- The entries of the section, with some value for the detectors. -/
def ScanSettings.entriesWith (s : ScanSettings) (detectors : Toml.Value) : Toml.Entries :=
  [("tag_data", Codec.flag.write s.tagData), ("ion_counter_tag", Codec.text.write s.ionCounterTag),
    ("channel_capacity", Codec.size.write s.channelCapacity),
    ("allow_integration_time_change", Codec.flag.write s.allowIntegrationTimeChange)]
  ++ ("detectors", detectors) :: []

/-- All sections, with some value for the one with the detectors. -/
def Settings.entriesWith (s : Settings) (scan : Toml.Value) : Toml.Entries :=
  [("application", ApplicationSettings.codec.write s.application),
    ("transport", TransportSettings.codec.write s.transport),
    ("magnet", MagnetSettings.codec.write s.magnet),
    ("beam_blank", BeamBlankSettings.codec.write s.beamBlank)]
  ++ ("scan", scan) :: [("cups", CupSettings.codec.write s.cups),
    ("hardware", HardwareSettings.codec.write s.hardware)]

lemma ScanSettings.write_eq (s : ScanSettings) :
    codec.write s = .table .header (s.entriesWith ((Codec.table .text).write s.detectors)) := rfl

lemma Settings.write_eq (s : Settings) :
    codec.write s = .table .header (s.entriesWith (ScanSettings.codec.write s.scan)) := rfl

lemma ScanSettings.resolve?_write (s : ScanSettings) :
    (codec.write s).resolve? = ((Codec.table .text).write s.detectors).resolve?.map
      fun v => .table .header (s.entriesWith v) := by
  rw [write_eq, Toml.Value.resolve?, entriesWith, Toml.Value.resolveEntries?_append]
  · cases ((Codec.table .text).write s.detectors).resolve? with
    | none => rfl
    | some v => exact Toml.standIn?_eq_self (by simp [sourceKey]) (by simp [standInKey])
  · simp [IsSettled, Toml.Value.IsAssigned.resolve?]
  · simp

lemma Settings.resolveEntries?_entriesWith (s : Settings) (scan : Toml.Value) :
    Toml.Value.resolveEntries? (s.entriesWith scan) = scan.resolve?.map s.entriesWith := by
  rw [entriesWith, Toml.Value.resolveEntries?_append]
  · rfl
  · simp [ApplicationSettings.isSection, TransportSettings.isSection, MagnetSettings.isSection,
      BeamBlankSettings.isSection]
  · simp [CupSettings.isSection, HardwareSettings.isSection]

/-! ### A value that cannot be read -/

section Unreadable

variable {α σ : Type}

/-- A record cannot be read if one of its fields cannot. -/
lemma Field.readKeys_ne_ok {fields : List (Field σ)} (hnames : (fields.map (·.name)).Nodup)
    {f : Field σ} (hf : f ∈ fields) {v : Setting} (hfail : ∀ s s', f.read v s ≠ .ok s')
    {l : List (String × Setting)} (hv : Keyed.find? f.name l = some v) (s s' : σ) :
    readKeys fields l s ≠ .ok s' := by
  induction l generalizing s with
  | nil => cases hv
  | cons e l ih =>
    rw [Keyed.find?] at hv
    rw [readKeys]
    split at hv
    · next hkey =>
      obtain rfl := Option.some.inj hv
      have hfind := find?_eq_some_of_nodup (·.name) hnames hf
      simp only [hkey, hfind]
      cases hread : f.read e.2 s with
      | error m =>
        intro h
        cases h
      | ok t => exact absurd hread (hfail s t)
    · cases fields.find? fun g => g.name = e.1 with
      | none => exact ih hv s
      | some g =>
        cases hread : g.read e.2 s with
        | error m =>
          simp only [hread]
          intro h
          cases h
        | ok t =>
          simp only [hread]
          exact ih hv t

lemma Field.of_read_ne_ok {name : String} {c : Codec α} {get : σ → α} {set : α → σ → σ}
    {v : Setting} (h : ∀ a, c.read v ≠ .ok a) (s s' : σ) :
    (Field.of name c get set).read v s ≠ .ok s' := by
  change (c.read v).map (set · s) ≠ _
  cases hread : c.read v with
  | error m =>
    intro h
    cases h
  | ok a => exact absurd hread (h a)

/-- A value that cannot be read above the field below it makes the whole record unreadable. -/
lemma Codec.read_record_ne_ok {expected : String} {initial below : σ} {fields : List (Field σ)}
    (hnames : (fields.map (·.name)).Nodup) {f : Field σ} (hf : f ∈ fields) {es : Toml.Entries}
    {w : Toml.Value} (hw : Keyed.find? f.name es = some w) (earlier later : Source)
    (hfail : ∀ s s', f.read ((Setting.ofValue earlier (f.write below)).merge
      (.ofValue later w)) s ≠ .ok s') (s' : σ) :
    (record expected initial fields).read
      ((Setting.ofValue earlier ((record expected initial fields).write below)).merge
        (.ofValue later (.table .header es))) ≠ .ok s' := by
  have hbelow : Keyed.find? f.name
      (Setting.ofEntries earlier (fields.map fun f => (f.name, f.write below)))
        = some (.ofValue earlier (f.write below)) := by
    rw [Field.ofEntries_write, Keyed.find?_sort, Field.find?_map,
      find?_eq_some_of_nodup (·.name) hnames hf]
    rfl
  have habove : Keyed.find? f.name (Setting.ofEntries later es) = some (.ofValue later w) := by
    rw [Setting.ofEntries_eq_sort, Keyed.find?_sort, Keyed.find?_map, hw]
    rfl
  have hsorted : Keyed.Sorted (Setting.ofEntries later es) := by
    rw [Setting.ofEntries_eq_sort]
    exact Keyed.sorted_sort _
  change (record expected initial fields).read ((Setting.ofValue earlier (.table .header _)).merge _)
    ≠ _
  rw [Setting.ofValue, Setting.ofValue, Setting.merge_table]
  apply Field.readKeys_ne_ok hnames hf hfail
  rw [Setting.find?_mergeEntries _ hsorted, hbelow, habove]
  rfl

end Unreadable

/-- Detectors that were replaced by a text cannot be read. -/
lemma Settings.read_ne_ok (s : Settings) (tag : String) (earlier later : Source)
    (below s' : Settings) :
    codec.read ((Setting.ofValue earlier (codec.write below)).merge (.ofValue later
      (.table .header (s.entriesWith (.table .header (s.scan.entriesWith (.text tag))))))) ≠ .ok s' := by
  apply Codec.read_record_ne_ok
    (f := .of "scan" ScanSettings.codec (·.scan) fun v s => { s with scan := v })
    (by decide) (by simp) rfl
  intro t t'
  apply Field.of_read_ne_ok
  intro a
  apply Codec.read_record_ne_ok
    (f := .of "detectors" (.table .text) (·.detectors) fun v s => { s with detectors := v })
    (by decide) (by simp) rfl
  intro r r'
  apply Field.of_read_ne_ok
  intro b
  rw [Setting.ofValue, Setting.merge_scalar]
  intro h
  cases h

namespace Settings

/-! ### Layers -/

variable {s : Settings} {text path : String} {environment : List (String × String)}

/-- The settings with the built-in detectors that they lack. -/
def completed (s : Settings) : Settings :=
  { s with scan := { s.scan with
    detectors := ({} : Settings).scan.detectors.insertAll s.scan.detectors.entries } }

lemma completed_eq_iff :
    s.completed = s ↔ ∀ k ∈ ({} : Settings).scan.detectors.keys, k ∈ s.scan.detectors.keys := by
  rw [← Table.insertAll_entries_eq_iff]
  constructor
  · intro h
    exact congrArg (·.scan.detectors) h
  · intro h
    rw [completed, h]

/-- No variable sets anything, as when none has the prefix. -/
lemma environmentLayer_eq (h : ∀ e ∈ environment, Environment.path? e.1 = none) :
    environmentLayer environment = .ok (.table .environment []) := by
  have hlayer : Environment.layer? environment = some (.table .environment []) := by
    rw [Environment.layer?]
    generalize Setting.table .environment [] = settings
    induction environment with
    | nil => rfl
    | cons e environment ih =>
      rw [List.foldlM_cons]
      simp only [h e (.head _)]
      exact ih fun d hd => h d (.tail _ hd)
  rw [environmentLayer, hlayer]

/-- What a rendered file says. -/
lemma read?_render (h : s.render = .ok text) :
    Toml.read? text = some (s.entriesWith (ScanSettings.codec.write s.scan)) := by
  obtain ⟨inside, hwrite, hprintable⟩ := s.isSection
  have hinside : s.entriesWith (ScanSettings.codec.write s.scan) = inside := by
    rw [write_eq] at hwrite
    exact (Toml.Value.table.inj hwrite).2
  have hstatements : s.statements = Toml.assignmentsOf inside ++ Toml.sectionsOf [] inside := by
    rw [statements, hwrite]
  rw [render] at h
  split at h
  · cases h
  · next hfits =>
    rw [← Except.ok.inj h, hstatements, hinside]
    apply hprintable.read?_write (by decide)
    rw [← hstatements]
    intro st hst
    exact Bool.eq_false_iff.mpr fun hst' => hfits (List.any_eq_true.mpr ⟨st, hst, hst'⟩)

/-- The layer of a rendered file, given what the detectors stand for. -/
lemma fileLayer_render (h : s.render = .ok text) :
    fileLayer (some ⟨path, text⟩) = match ((Codec.table .text).write s.scan.detectors).resolve? with
      | some v => .ok (.ofValue (.file path)
        (.table .header (s.entriesWith (.table .header (s.scan.entriesWith v)))))
      | none => .error .malformed := by
  rw [fileLayer, read?_render h, Option.bind_some, resolveEntries?_entriesWith,
    ScanSettings.resolve?_write]
  cases ((Codec.table .text).write s.scan.detectors).resolve? with
  | none => rfl
  | some v =>
    change Except.ok (Setting.table _ _) = Except.ok (Setting.ofValue _ (.table .header _))
    rw [Setting.ofValue]

section Load

variable {es : Toml.Entries} (henvironment : ∀ e ∈ environment, Environment.path? e.1 = none)
  (hfile : fileLayer (some ⟨path, text⟩) = .ok (.ofValue (.file path) (.table .header es)))

include henvironment hfile

/-- What is loaded from a file: nothing of the environment comes over it. -/
lemma load_eq :
    load (some ⟨path, text⟩) environment = do
      let s ← (codec.read (builtInLayer.merge
        (.ofValue (.file path) (.table .header es)))).mapError LoadFailure.mismatch
      s.validate.mapError LoadFailure.broken
      return s := by
  have hread : codec.read ((builtInLayer.merge (.ofValue (.file path) (.table .header es))).merge
      (.table .environment []))
        = codec.read (builtInLayer.merge (.ofValue (.file path) (.table .header es))) := by
    rw [builtInLayer, write_eq, Setting.ofValue, Setting.ofValue, Setting.merge_table,
      Setting.merge_table, Setting.mergeEntries]
    rfl
  rw [load, environmentLayer_eq henvironment, hfile, ← hread]
  rfl

lemma load_eq_of_read
    (h : codec.read (builtInLayer.merge (.ofValue (.file path) (.table .header es))) = .ok s) :
    load (some ⟨path, text⟩) environment = do
      s.validate.mapError LoadFailure.broken
      return s := by
  rw [load_eq henvironment hfile, h]
  rfl

lemma load_ne_ok_of_read
    (h : ∀ s, codec.read (builtInLayer.merge (.ofValue (.file path) (.table .header es))) ≠ .ok s)
    (s : Settings) : load (some ⟨path, text⟩) environment ≠ .ok s := by
  rw [load_eq henvironment hfile]
  cases hread : codec.read (builtInLayer.merge (.ofValue (.file path) (.table .header es))) with
  | error m =>
    intro h
    cases h
  | ok a => exact absurd hread (h a)

end Load

lemma keys_write (t : Table String) :
    (t.entries.map fun e => (e.1, Codec.text.write e.2)).map (·.1) = t.keys := by
  rw [List.map_map]
  rfl

/-- What the detectors stand for when they are read from a file. -/
lemma resolve?_detectors (t : Table String) :
    ((Codec.table .text).write t).resolve?
      = Toml.standIn? .header (t.entries.map fun e => (e.1, Codec.text.write e.2)) := by
  apply Toml.Value.resolve?_table
  intro e he
  obtain ⟨a, -, rfl⟩ := List.mem_map.mp he
  exact (Toml.Value.IsAssigned.text a.2).resolve?

section Render

variable (henvironment : ∀ e ∈ environment, Environment.path? e.1 = none) (h : s.render = .ok text)

include henvironment h

/-- The settings that are loaded from a rendered file are those that were rendered, completed by the
built-in detectors. -/
theorem load_render (hsource : sourceKey ∉ s.scan.detectors.keys)
    (hstandIn : standInKey ∉ s.scan.detectors.keys) :
    load (some ⟨path, text⟩) environment = do
      s.completed.validate.mapError LoadFailure.broken
      return s.completed := by
  have hdetectors : ((Codec.table .text).write s.scan.detectors).resolve?
      = some ((Codec.table .text).write s.scan.detectors) := by
    rw [resolve?_detectors, Toml.standIn?_eq_self]
    · rfl
    · rwa [keys_write]
    · rwa [keys_write]
  have hfile : fileLayer (some ⟨path, text⟩) = _ := fileLayer_render h
  rw [hdetectors] at hfile
  exact load_eq_of_read henvironment hfile (Settings.overlays {} s .builtIn (.file path))

/-- Nothing is loaded from a rendered file if a detector has a reserved name. -/
lemma load_render_ne_ok
    (hreserved : sourceKey ∈ s.scan.detectors.keys ∨ standInKey ∈ s.scan.detectors.keys)
    (s' : Settings) : load (some ⟨path, text⟩) environment ≠ .ok s' := by
  have hfile : fileLayer (some ⟨path, text⟩) = _ := fileLayer_render h
  have hkeys := keys_write s.scan.detectors
  rw [resolve?_detectors] at hfile
  generalize hes : s.scan.detectors.entries.map (fun e => (e.1, Codec.text.write e.2)) = es
    at hfile hkeys
  by_cases hsource : sourceKey ∈ s.scan.detectors.keys
  · rw [Toml.standIn?_eq_none (hkeys ▸ hsource)] at hfile
    rw [load, environmentLayer_eq henvironment, hfile]
    intro h
    cases h
  · obtain ⟨v, hv, hmem⟩ := Toml.exists_standIn?_eq (hkeys ▸ hsource)
      (hkeys ▸ hreserved.resolve_left hsource)
    obtain ⟨e, -, he⟩ := List.mem_map.mp (hes ▸ hmem)
    rw [hv, ← (Prod.mk.inj he).2] at hfile
    exact load_ne_ok_of_read henvironment hfile
      (s.read_ne_ok e.2 .builtIn (.file path) {}) s'

/-- Rendered settings are loaded as they were if and only if they lack none of the built-in
detectors, and none of their detectors has a reserved name. -/
theorem load_render_eq_ok_iff (hvalid : s.validate = .ok ()) :
    load (some ⟨path, text⟩) environment = .ok s
      ↔ (∀ k ∈ ({} : Settings).scan.detectors.keys, k ∈ s.scan.detectors.keys)
        ∧ sourceKey ∉ s.scan.detectors.keys ∧ standInKey ∉ s.scan.detectors.keys := by
  by_cases hreserved : sourceKey ∈ s.scan.detectors.keys ∨ standInKey ∈ s.scan.detectors.keys
  · constructor
    · intro hload
      exact absurd hload (load_render_ne_ok henvironment h hreserved s)
    · rintro ⟨-, hsource, hstandIn⟩
      exact absurd hreserved (not_or.mpr ⟨hsource, hstandIn⟩)
  · rw [not_or] at hreserved
    rw [load_render henvironment h hreserved.1 hreserved.2, ← completed_eq_iff]
    constructor
    · intro hload
      refine ⟨?_, hreserved⟩
      cases hcompleted : s.completed.validate with
      | error rule =>
        rw [hcompleted] at hload
        cases hload
      | ok _ =>
        rw [hcompleted] at hload
        exact Except.ok.inj hload
    · rintro ⟨hcompleted, -⟩
      rw [hcompleted, hvalid]
      rfl

end Render

/-- Settings are rendered if the three numbers that could be too great are not. -/
theorem render_eq (hbuffer : (s.transport.bufferSize.toNat : Int) ≤ Int64.maxValue.toInt)
    (hstep : (s.magnet.stepTime.toNat : Int) ≤ Int64.maxValue.toInt)
    (hchannel : (s.scan.channelCapacity.toNat : Int) ≤ Int64.maxValue.toInt) :
    s.render = .ok (String.ofList (Toml.write s.statements)) := by
  have hmax : Int64.maxValue.toInt = 2 ^ 63 - 1 := by decide
  have hport : (s.transport.port.toNat : Int) ≤ Int64.maxValue.toInt := by
    have := s.transport.port.toNat_lt
    omega
  have hsteps : (s.magnet.steps.toNat : Int) ≤ Int64.maxValue.toInt := by
    have := s.magnet.steps.toNat_lt
    omega
  have hdetectors : Toml.sectionsOf ["scan", "detectors"]
      (s.scan.detectors.entries.map fun e => (e.1, .text e.2)) = [] := by
    apply Toml.sectionsOf_eq_nil
    intro e he
    obtain ⟨a, -, rfl⟩ := List.mem_map.mp he
    rfl
  have hfits : s.statements.any Toml.Statement.overflows = false := by
    simp [statements, codec, ApplicationSettings.codec, TransportSettings.codec,
      MagnetSettings.codec, BeamBlankSettings.codec, ScanSettings.codec, CupSettings.codec,
      HardwareSettings.codec, Codec.record, Codec.table, Field.of, Toml.assignmentsOf,
      Toml.sectionsOf, Toml.Value.isTable, Toml.Statement.overflows, hport, hsteps, hbuffer, hstep,
      hchannel, hdetectors]
  rw [render, hfits]
  rfl

/-- Settings with one more detector and a blank value that is no number are loaded as they were. -/
theorem load_render_eq_ok_extended :
    let s : Settings :=
      { beamBlank := { enabled := true, blankValue := 0 / 0 }
        scan := { detectors := ({} : Settings).scan.detectors.insert "CUP 5" "H3" } }
    let environment := [("PATH", "/usr/bin"), ("RUST_LOG", "debug")]
    (∀ e ∈ environment, Environment.path? e.1 = none)
      ∧ s.validate = .ok ()
      ∧ ∃ text, s.render = .ok text ∧ load (some ⟨"config.toml", text⟩) environment = .ok s := by
  intro s environment
  have henvironment : ∀ e ∈ environment, Environment.path? e.1 = none := by decide +kernel
  have hvalid : s.validate = .ok () := by decide +kernel
  have hrender := s.render_eq (by decide) (by decide) (by decide)
  have hkeys : (∀ k ∈ ({} : Settings).scan.detectors.keys, k ∈ s.scan.detectors.keys)
      ∧ sourceKey ∉ s.scan.detectors.keys ∧ standInKey ∉ s.scan.detectors.keys := by
    decide +kernel
  exact ⟨henvironment, hvalid, _, hrender,
    (load_render_eq_ok_iff henvironment hrender hvalid).mpr hkeys⟩

/-- Settings with a single detector are loaded with the built-in ones at its side. -/
theorem load_render_ne :
    let s : Settings := { scan := { detectors := .ofList [("A", "x")] } }
    s.validate = .ok ()
      ∧ ∃ text, s.render = .ok text ∧ load (some ⟨"config.toml", text⟩) [] = .ok s.completed
        ∧ load (some ⟨"config.toml", text⟩) [] ≠ .ok s := by
  intro s
  have hvalid : s.validate = .ok () := by decide +kernel
  have hrender := s.render_eq (by decide) (by decide) (by decide)
  have hcompleted : s.completed.validate = .ok () := by decide +kernel
  have hload : load (some ⟨"config.toml", String.ofList (Toml.write s.statements)⟩) []
      = .ok s.completed := by
    rw [load_render (by simp) hrender (by decide +kernel) (by decide +kernel), hcompleted]
    rfl
  have hne : s.completed ≠ s := by
    rw [Ne, completed_eq_iff]
    decide +kernel
  refine ⟨hvalid, _, hrender, hload, ?_⟩
  rw [hload]
  exact fun h => hne (Except.ok.inj h)

end Settings

end SpectroRemote
