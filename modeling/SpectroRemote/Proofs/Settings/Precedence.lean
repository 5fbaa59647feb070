import SpectroRemote.Proofs.Settings.Keys
import SpectroRemote.Proofs.Settings.Variables
import SpectroRemote.Settings.Rendering

/-!
# The precedence of the layers

Loaded settings have under each key what the environment sets there, else what the file sets there,
else the built-in value; and so they have for each detector. Nothing else counts, so a variable
changes nothing but the key that it leads to.
-/

namespace SpectroRemote.Settings

/-! ### What is set -/

/-- The entries of a configuration file, with what its tables stand for. -/
def fileEntries? : Option SettingsFile → Option Toml.Entries
  | none => some []
  | some file => (Toml.read? file.text).bind Toml.Value.resolveEntries?

def fileSource : Option SettingsFile → Source
  | none => .file ""
  | some file => .file file.path

/-- What a file has at a path. -/
def fileValue? (file : Option SettingsFile) (path : List String) : Option Toml.Value :=
  (fileEntries? file).bind fun entries => (Toml.Value.table .header entries).at? path

/-- The sections, and the table of the detectors. -/
def tablePaths : List (List String) :=
  [["application"], ["transport"], ["magnet"], ["beam_blank"], ["scan"], ["cups"], ["hardware"],
    ["scan", "detectors"]]

/-- A file in which the sections and the detectors are tables, if it has them. -/
def HasTables (file : Option SettingsFile) : Prop :=
  ∀ path ∈ tablePaths, (fileValue? file path).all Toml.Value.isTable = true

instance (file : Option SettingsFile) : Decidable (HasTables file) :=
  inferInstanceAs (Decidable (∀ path ∈ tablePaths, _))

/-- What is set for a path: by a variable, else by the file. -/
def given? (file : Option SettingsFile) (environment : List (String × String))
    (path : List String) : Option Setting :=
  (Environment.setting? environment path).or
    ((fileValue? file path).map (.ofValue (fileSource file)))

/-- Settings have what was given under a key, as the type of the key has it, and the built-in value
if nothing was given. -/
def Key.Has (k : Key) (s : Settings) (given : Option Setting) : Prop :=
  match given with
  | some v => ∃ a, k.codec.read v = .ok a ∧ k.get s = some a
  | none => k.get s = k.get {}

/-- What is given under a key is had only once. -/
lemma Key.Has.get_eq {k : Key} {s t : Settings} {given : Option Setting} (hs : k.Has s given)
    (ht : k.Has t given) : k.get s = k.get t := by
  cases given with
  | none => exact hs.trans ht.symm
  | some v =>
    obtain ⟨a, ha, hsa⟩ := hs
    obtain ⟨b, hb, htb⟩ := ht
    rw [ha] at hb
    rw [hsa, htb, Except.ok.inj hb]

/-! ### Layers -/

variable {file : Option SettingsFile} {environment : List (String × String)} {s : Settings}

lemma fileLayer_eq_ok {layer : Setting} (h : fileLayer file = .ok layer) :
    ∃ entries, fileEntries? file = some entries
      ∧ layer = .ofValue (fileSource file) (.table .header entries) := by
  cases file with
  | none =>
    rw [← Except.ok.inj h]
    exact ⟨[], rfl, by rw [Setting.ofValue, Setting.ofEntries]; rfl⟩
  | some file =>
    rw [fileLayer] at h
    split at h
    · next entries hentries =>
      rw [← Except.ok.inj h]
      exact ⟨entries, hentries, by rw [Setting.ofValue]; rfl⟩
    · cases h

lemma environmentLayer_eq_ok {layer : Setting} (h : environmentLayer environment = .ok layer) :
    Environment.layer? environment = some layer := by
  rw [environmentLayer] at h
  split at h
  · next hlayer => rw [hlayer, Except.ok.inj h]
  · cases h

/-- The layers of settings that were loaded. -/
lemma exists_layers_of_load (h : load file environment = .ok s) :
    ∃ fromFile fromEnvironment, fileLayer file = .ok fromFile
      ∧ environmentLayer environment = .ok fromEnvironment
      ∧ codec.read ((builtInLayer.merge fromFile).merge fromEnvironment) = .ok s
      ∧ s.validate = .ok () := by
  rw [load] at h
  cases henvironment : environmentLayer environment with
  | error e =>
    rw [henvironment] at h
    cases h
  | ok fromEnvironment =>
    rw [henvironment] at h
    cases hfile : fileLayer file with
    | error e =>
      rw [hfile] at h
      cases h
    | ok fromFile =>
      rw [hfile] at h
      cases hread : codec.read ((builtInLayer.merge fromFile).merge fromEnvironment) with
      | error m =>
        simp [hread, Except.mapError, bind, Except.bind] at h
      | ok t =>
        cases hvalid : t.validate with
        | error rule => simp [hread, hvalid, Except.mapError, bind, Except.bind] at h
        | ok _ =>
          simp [hread, hvalid, Except.mapError, bind, Except.bind, pure, Except.pure] at h
          exact ⟨fromFile, fromEnvironment, rfl, rfl, h ▸ hread, h ▸ hvalid⟩

section Layers

variable {fromFile fromEnvironment : Setting}

lemma exists_path_of_mem_fixed {k : Key} (h : k ∈ Key.fixed) :
    ∃ part name, k.path = [part, name] ∧ [part] ∈ tablePaths := by
  have hfixed : ∀ k ∈ Key.fixed, k.path.length = 2 ∧ k.path.take 1 ∈ tablePaths := by decide
  obtain ⟨hlength, hpart⟩ := hfixed k h
  obtain ⟨part, name, hpath⟩ := List.length_eq_two.mp hlength
  rw [hpath] at hpart
  exact ⟨part, name, hpath, hpart⟩

lemma opens_of_isTable {v : Toml.Value} (h : v.isTable = true) (name : String) :
    v.OpensAlong [name] := by
  cases v with
  | table _ _ => exact fun _ _ => trivial
  | _ => cases h

lemma opens_of_hasTables {entries : Toml.Entries} (hentries : fileEntries? file = some entries)
    (htables : HasTables file) {k : Key} (hk : k.Valid) :
    (Toml.Value.table .header entries).OpensAlong k.path := by
  have htable {path : List String} (hpath : path ∈ tablePaths) {v : Toml.Value}
      (hv : (Toml.Value.table .header entries).at? path = some v) : v.isTable = true := by
    have hall := htables path hpath
    rwa [fileValue?, hentries, Option.bind_some, hv] at hall
  cases hk with
  | fixed h =>
    obtain ⟨part, name, hpath, hpart⟩ := exists_path_of_mem_fixed h
    rw [hpath]
    intro v hv
    refine opens_of_isTable (htable hpart ?_) name
    rw [Toml.Value.at?, hv]
    rfl
  | detector id =>
    intro v hv
    have hscan : v.isTable = true := by
      apply htable (by decide : ["scan"] ∈ tablePaths)
      rw [Toml.Value.at?, hv]
      rfl
    cases v with
    | table form inside =>
      intro w hw
      refine opens_of_isTable (htable (by decide : ["scan", "detectors"] ∈ tablePaths) ?_) id
      rw [Toml.Value.at?, hv, Option.bind_some, Toml.Value.at?, hw]
      rfl
    | _ => cases hscan

lemma at?_fileLayer (hfile : fileLayer file = .ok fromFile) (htables : HasTables file) {k : Key}
    (hk : k.Valid) : fromFile.OpensAlong k.path
      ∧ fromFile.at? k.path = (fileValue? file k.path).map (.ofValue (fileSource file)) := by
  obtain ⟨entries, hentries, rfl⟩ := fileLayer_eq_ok hfile
  have hopens := opens_of_hasTables hentries htables hk
  refine ⟨Setting.opens_ofValue _ hopens, ?_⟩
  rw [Setting.at?_ofValue _ hopens, fileValue?, hentries]
  rfl

/-- All layers at the path of a key: what was given comes over whatever was there, and if nothing
was given the built-in value is there. -/
lemma at?_layers (hfile : fileLayer file = .ok fromFile) (htables : HasTables file)
    (henvironment : environmentLayer environment = .ok fromEnvironment)
    (hkeys : Environment.SetsKeys environment) {k : Key} (hk : k.Valid) :
    let layers := (builtInLayer.merge fromFile).merge fromEnvironment
    layers.OpensAlong k.path ∧ match given? file environment k.path with
      | some v => ∃ below, layers.at? k.path = some (Setting.mergeOver below v)
      | none => layers.at? k.path = builtInLayer.at? k.path := by
  obtain ⟨hfileOpens, hfileAt⟩ := at?_fileLayer hfile htables hk
  obtain ⟨henvOpens, henvAt⟩ := Environment.at?_layer hkeys (environmentLayer_eq_ok henvironment)
    k.isKeyPath
  refine ⟨((opens_builtInLayer k.isKeyPath).merge hfileOpens).merge henvOpens, ?_⟩
  rw [Setting.at?_merge henvOpens, Setting.at?_merge hfileOpens, henvAt, hfileAt, given?]
  cases Environment.setting? environment k.path with
  | some v => exact ⟨_, rfl⟩
  | none =>
    cases fileValue? file k.path with
    | some v => exact ⟨_, rfl⟩
    | none => rfl

/-- There are always detectors, since the built-in ones are never taken away. -/
lemma isSome_layers_detectors (hfile : fileLayer file = .ok fromFile) (htables : HasTables file)
    (henvironment : environmentLayer environment = .ok fromEnvironment)
    (hkeys : Environment.SetsKeys environment) :
    (((builtInLayer.merge fromFile).merge fromEnvironment).at? ["scan", "detectors"]).isSome
      = true := by
  have hfileOpens := (at?_fileLayer hfile htables (.detector "")).1
  have henvOpens := (Environment.at?_layer hkeys (environmentLayer_eq_ok henvironment)
    (.detector "")).1
  rw [Setting.at?_merge (Setting.OpensAlong.of_append ["scan", "detectors"] [""] henvOpens).1,
    Setting.at?_merge (Setting.OpensAlong.of_append ["scan", "detectors"] [""] hfileOpens).1,
    Option.isSome_or, Option.isSome_or, isSome_builtInLayer_detectors, Bool.or_true, Bool.or_true]

end Layers

/-- Where layers have the built-in value, settings have it too. -/
lemma get_eq_of_at?_eq {layers : Setting} {k : Key} (hk : k.Valid)
    (hread : codec.read layers = .ok s) (hopens : layers.OpensAlong k.path)
    (hdetectors : (layers.at? ["scan", "detectors"]).isSome = true)
    (hat : layers.at? k.path = builtInLayer.at? k.path) : k.get s = k.get {} := by
  cases hv : builtInLayer.at? k.path with
  | some v =>
    obtain ⟨a, ha, hs⟩ := k.exists_read hread hopens (hat.trans hv)
    obtain ⟨b, hb, hbuiltIn⟩ := k.exists_read read_builtInLayer (opens_builtInLayer k.isKeyPath) hv
    rw [ha] at hb
    rw [hs, hbuiltIn, Except.ok.inj hb]
  | none =>
    rw [hv] at hat
    cases hk with
    | fixed h =>
      have hsome := isSome_builtInLayer_at? k h
      rw [hv] at hsome
      cases hsome
    | detector id =>
      have hbuiltIn := Key.get_detector_eq_none read_builtInLayer
        (opens_builtInLayer (.detector id)) isSome_builtInLayer_detectors hv
      exact (Key.get_detector_eq_none hread hopens hdetectors hat).trans hbuiltIn.symm

/-- Loaded settings have under each key what was given, or else the built-in value. -/
lemma has_given (htables : HasTables file) (hkeys : Environment.SetsKeys environment)
    (h : load file environment = .ok s) {k : Key} (hk : k.Valid) :
    k.Has s (given? file environment k.path) := by
  obtain ⟨fromFile, fromEnvironment, hfile, henvironment, hread, -⟩ := exists_layers_of_load h
  obtain ⟨hopens, hat⟩ := at?_layers hfile htables henvironment hkeys hk
  cases hgiven : given? file environment k.path with
  | some v =>
    rw [hgiven] at hat
    obtain ⟨below, hat⟩ := hat
    obtain ⟨a, ha, hget⟩ := k.exists_read hread hopens hat
    exact ⟨a, k.refusesTables.read_of_mergeOver ha, hget⟩
  | none =>
    rw [hgiven] at hat
    exact get_eq_of_at?_eq hk hread hopens
      (isSome_layers_detectors hfile htables henvironment hkeys) hat

/-- Loaded settings are valid, and they are those that have under each key what the variable that
leads to it sets, else what the file sets, else the built-in value. So a variable counts for no
other key than its own. The name of the variable for a key is made of the prefix, the section and
the key in capitals. For a detector its identifier follows, which counts in small letters. -/
theorem load_precedence (htables : HasTables file) (hkeys : Environment.SetsKeys environment)
    (h : load file environment = .ok s) :
    (∀ t, t = s ↔ ∀ k, Key.Valid k → k.Has t (given? file environment k.path))
      ∧ s.validate = .ok ()
      ∧ (∀ before name text after t, environment = before ++ (name, text) :: after →
          load file (before ++ after) = .ok t →
            ∀ k, Key.Valid k → Environment.path? name ≠ some k.path → k.get s = k.get t)
      ∧ (∀ k ∈ Key.fixed,
          Environment.path? (Environment.variableName (k.path.map String.toUpper)) = some k.path)
      ∧ ∀ id, Environment.IsIdentifier id →
          Environment.path? (Environment.variableName ["SCAN", "DETECTORS", id])
            = some (Key.detector (Environment.lower id)).path := by
  have hgiven : ∀ k, Key.Valid k → k.Has s (given? file environment k.path) :=
    fun _ hk => has_given htables hkeys h hk
  have hnames : ∀ k ∈ Key.fixed, Environment.path?
      (Environment.variableName (k.path.map String.toUpper)) = some k.path := by
    decide +kernel
  refine ⟨fun t => ⟨?_, fun ht => ?_⟩, ?_, ?_, hnames, fun _ => Environment.path?_detector⟩
  · rintro rfl
    exact hgiven
  · exact ext_keys fun k hk => (ht k hk).get_eq (hgiven k hk)
  · obtain ⟨-, -, -, -, -, hvalid⟩ := exists_layers_of_load h
    exact hvalid
  · rintro before name text after t rfl ht k hk hne
    have hfewer : Environment.SetsKeys (before ++ after) :=
      hkeys.sublist ((List.sublist_cons_self _ _).append_left before)
    have hother := has_given htables hfewer ht hk
    rw [given?, ← Environment.setting?_insert_of_ne hne] at hother
    exact (hgiven k hk).get_eq hother

lemma exists_ok_of_any {ε α : Type} {x : Except ε α} {p : α → Bool} (h : x.toOption.any p = true) :
    ∃ a, x = .ok a ∧ p a = true := by
  cases x with
  | error e => cases h
  | ok a => exact ⟨a, rfl, h⟩

/-- A port that file and environment set, a mode and a detector of the file, and a detector of the
environment; the other settings have their built-in values. -/
theorem load_precedence_of_three_layers :
    let file : Option SettingsFile := some
      ⟨"rcs.toml", "[transport]\nmode = \"tcp\"\nport = 2000\n[scan.detectors]\nCUP5 = \"H3\"\n"⟩
    let environment := [("PATH", "/usr/bin"), ("RUST_RCS_TRANSPORT__PORT", "1070"),
      ("RUST_RCS_SCAN__DETECTORS__CUP 6", "H4")]
    HasTables file ∧ Environment.SetsKeys environment
      ∧ ∃ s, load file environment = .ok s
        ∧ (s.transport.port = 1070 ∧ s.transport.mode = .tcp ∧ s.transport.bufferSize = 1024
          ∧ s.scan.detectors.get? "cup 6" = some "H4" ∧ s.scan.detectors.get? "CUP5" = some "H3"
          ∧ s.scan.detectors.get? "CUP 4" = some "H2")
        ∧ ∀ k, Key.Valid k → k.Has s (given? file environment k.path) := by
  intro file environment
  have htables : HasTables file := by decide +kernel
  have hpaths : Environment.paths environment
      = [["transport", "port"], ["scan", "detectors", "cup 6"]] := by decide +kernel
  have hkeys : Environment.SetsKeys environment := by
    constructor
    · rw [hpaths, List.forall_mem_cons, List.forall_mem_singleton]
      exact ⟨.key (by decide), .detector _⟩
    · rw [hpaths]
      decide
  obtain ⟨s, hload, hs⟩ := exists_ok_of_any (x := load file environment) (p := fun s =>
    s.transport.port = 1070 ∧ s.transport.mode = .tcp ∧ s.transport.bufferSize = 1024
      ∧ s.scan.detectors.get? "cup 6" = some "H4" ∧ s.scan.detectors.get? "CUP5" = some "H3"
      ∧ s.scan.detectors.get? "CUP 4" = some "H2") (by decide +kernel)
  exact ⟨htables, hkeys, s, hload, of_decide_eq_true hs,
    ((load_precedence htables hkeys hload).1 s).mp rfl⟩

/-- A table with a value to stand for does not count with its other entries. In a name, an
identifier loses the blanks at its end, an empty one sets nothing, and only the letters from A to Z
become small. -/
theorem load_precedence_ne :
    let file : SettingsFile :=
      ⟨"rcs.toml", "[transport]\nport = 2000\n___figment_value_value = \x7b port = 3000 \x7d\n"⟩
    let tags := [("CUP 5 ", "H3"), ("", "H4"), ("É", "H5")]
    let environment := tags.map fun (id, tag) =>
      (Environment.variableName ["SCAN", "DETECTORS", id], tag)
    ((Toml.read? file.text).bind fun entries =>
        (Toml.Value.table .header entries).at? ["transport", "port"]).bind
          (fun v => (Codec.port.read (.ofValue (.file file.path) v)).toOption) = some 2000
      ∧ (∀ e ∈ tags, '.' ∉ e.1.toList ∧ ¬ ['_', '_'] <:+: e.1.toList)
      ∧ ∃ s, load (some file) environment = .ok s ∧ s.transport.port = 3000
        ∧ ∀ e ∈ tags,
          s.scan.detectors.get? (String.ofList (Text.lowercase e.1.toList)) = none := by
  intro file tags environment
  obtain ⟨s, hload, hs⟩ := exists_ok_of_any (x := load (some file) environment) (p := fun s =>
    s.transport.port = 3000 ∧ ∀ e ∈ tags,
      s.scan.detectors.get? (String.ofList (Text.lowercase e.1.toList)) = none) (by decide +kernel)
  exact ⟨by decide +kernel, by decide +kernel, s, hload, of_decide_eq_true hs⟩

end SpectroRemote.Settings
