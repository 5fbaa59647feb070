import SpectroRemote.Proofs.Settings.Overlays
import SpectroRemote.Proofs.Toml.StandIns

/-!
# The sections of the settings, written and read

For each section: what is read when it is laid over another one of its kind, and that it can be
printed. Only the detectors of a section below come through.
-/

namespace SpectroRemote

namespace Codec

lemma port_replaces : port.Replaces :=
  natural_replaces UInt16.toNat_lt_size fun _ => UInt16.ofNat_toNat

lemma count_replaces : count.Replaces :=
  natural_replaces UInt32.toNat_lt_size fun _ => UInt32.ofNat_toNat

lemma duration_replaces : duration.Replaces :=
  natural_replaces UInt64.toNat_lt_size fun _ => UInt64.ofNat_toNat

lemma size_replaces : size.Replaces :=
  natural_replaces UInt64.toNat_lt_size fun _ => UInt64.ofNat_toNat

lemma logFormat_replaces : logFormat.Replaces :=
  words_replaces (fun f => by cases f <;> decide) (by decide)

lemma transportMode_replaces : transportMode.Replaces :=
  words_replaces (fun m => by cases m <;> decide) (by decide)

end Codec

open Field.Overlays (of of_replaces)

lemma ApplicationSettings.overlays (below above : ApplicationSettings) :
    ApplicationSettings.codec.Overlays below above above := by
  apply Codec.Overlays.record
  · exact .cons (of_replaces Codec.text_replaces) (.cons (of_replaces Codec.text_replaces)
      (.cons (of_replaces Codec.logFormat_replaces) .nil))
  · decide
  · simp
  · rfl

lemma TransportSettings.overlays (below above : TransportSettings) :
    TransportSettings.codec.Overlays below above above := by
  apply Codec.Overlays.record
  · exact .cons (of_replaces Codec.transportMode_replaces)
      (.cons (of_replaces Codec.text_replaces) (.cons (of_replaces Codec.port_replaces)
        (.cons (of_replaces Codec.size_replaces) .nil)))
  · decide
  · simp
  · rfl

lemma MagnetSettings.overlays (below above : MagnetSettings) :
    MagnetSettings.codec.Overlays below above above := by
  apply Codec.Overlays.record
  · exact .cons (of_replaces Codec.float_replaces) (.cons (of_replaces Codec.count_replaces)
      (.cons (of_replaces Codec.duration_replaces) .nil))
  · decide
  · simp
  · rfl

lemma BeamBlankSettings.overlays (below above : BeamBlankSettings) :
    BeamBlankSettings.codec.Overlays below above above := by
  apply Codec.Overlays.record
  · exact .cons (of_replaces Codec.flag_replaces) (.cons (of_replaces Codec.float_replaces) .nil)
  · decide
  · simp
  · rfl

lemma ScanSettings.overlays (below above : ScanSettings) :
    ScanSettings.codec.Overlays below above
      { above with detectors := below.detectors.insertAll above.detectors.entries } := by
  apply Codec.Overlays.record
  · exact .cons (of_replaces Codec.flag_replaces) (.cons (of_replaces Codec.text_replaces)
      (.cons (of_replaces Codec.size_replaces) (.cons (of_replaces Codec.flag_replaces)
        (.cons (of (.table Codec.text_replaces _ _)) .nil))))
  · decide
  · simp
  · rfl

lemma CupSettings.overlays (below above : CupSettings) :
    CupSettings.codec.Overlays below above above := by
  apply Codec.Overlays.record
  · exact .cons (of_replaces Codec.text_replaces)
      (.cons (of_replaces (Codec.list_replaces Codec.text_replaces)) .nil)
  · decide
  · simp
  · rfl

lemma HardwareSettings.overlays (below above : HardwareSettings) :
    HardwareSettings.codec.Overlays below above above := by
  apply Codec.Overlays.record
  · exact .cons (of_replaces Codec.text_replaces) (.cons (of_replaces Codec.text_replaces)
      (.cons (of_replaces Codec.text_replaces) .nil))
  · decide
  · simp
  · rfl

lemma Settings.overlays (below above : Settings) :
    Settings.codec.Overlays below above { above with
      scan := { above.scan with
        detectors := below.scan.detectors.insertAll above.scan.detectors.entries } } := by
  apply Codec.Overlays.record
  · exact .cons (of (ApplicationSettings.overlays _ _)) (.cons (of (TransportSettings.overlays _ _))
      (.cons (of (MagnetSettings.overlays _ _)) (.cons (of (BeamBlankSettings.overlays _ _))
        (.cons (of (ScanSettings.overlays _ _)) (.cons (of (CupSettings.overlays _ _))
          (.cons (of (HardwareSettings.overlays _ _)) .nil))))))
  · decide
  · simp
  · rfl

/-! ### Printing -/

open Toml (sourceKey standInKey)
open Toml.Value (IsAssigned IsSection IsSettled)

section Record

variable {σ : Type} {expected : String} {initial : σ} {depth : Nat}

/-- A record is a section, with the sections inside of it at its end. -/
lemma Codec.isSection_record (values sections : List (Field σ))
    (hnames : ((values ++ sections).map (·.name)).Nodup)
    (hvalues : ∀ f ∈ values, ∀ s, (f.write s).IsAssigned)
    (hsections : ∀ f ∈ sections, ∀ s, (f.write s).IsSection depth) (s : σ) :
    ((record expected initial (values ++ sections)).write s).IsSection (depth + 1) := by
  refine ⟨_, rfl, ?_⟩
  rw [List.map_append]
  apply Toml.Printable.of_append
  · rw [← List.map_append, List.map_map]
    exact hnames
  · intro e he
    obtain ⟨f, hf, rfl⟩ := List.mem_map.mp he
    exact hvalues f hf s
  · intro e he
    obtain ⟨f, hf, rfl⟩ := List.mem_map.mp he
    exact hsections f hf s

/-- A record stands for itself if all of its fields do. -/
lemma Codec.isSettled_record {fields : List (Field σ)}
    (hnames : sourceKey ∉ fields.map (·.name) ∧ standInKey ∉ fields.map (·.name))
    (hfields : ∀ f ∈ fields, ∀ s, (f.write s).IsSettled) (s : σ) :
    ((record expected initial fields).write s).IsSettled := by
  have hkeys : (fields.map fun f => (f.name, f.write s)).map (·.1) = fields.map (·.name) := by
    rw [List.map_map]
    rfl
  change (Toml.Value.table .header (fields.map fun f => (f.name, f.write s))).resolve? = _
  rw [Toml.Value.resolve?_table, Toml.standIn?_eq_self]
  · rfl
  · rw [hkeys]
    exact hnames.1
  · rw [hkeys]
    exact hnames.2
  · intro e he
    obtain ⟨f, hf, rfl⟩ := List.mem_map.mp he
    exact hfields f hf s

end Record

/-- A table is a section, since its keys differ. -/
lemma Codec.isSection_table {depth : Nat} (t : Table String) :
    ((Codec.table .text).write t).IsSection depth := by
  refine ⟨_, rfl, ?_⟩
  obtain ⟨entries, hsorted⟩ := t
  induction entries with
  | nil => exact .nil
  | cons e entries ih =>
    obtain ⟨hfirst, hrest⟩ := List.pairwise_cons.mp hsorted
    apply Toml.Printable.assign
    · exact .text e.2
    · intro d hd hkey
      obtain ⟨a, ha, rfl⟩ := List.mem_map.mp hd
      have hkey : a.1 = e.1 := hkey
      exact String.lt_irrefl _ (hkey ▸ hfirst a ha)
    · exact ih hrest

namespace Codec

@[simp] lemma text_write (s : String) : text.write s = .text s := rfl

@[simp] lemma flag_write (b : Bool) : flag.write b = .boolean b := rfl

@[simp] lemma float_write (v : Float) : float.write v = .float v := rfl

@[simp] lemma port_write (n : UInt16) : port.write n = .integer n.toNat := rfl

@[simp] lemma count_write (n : UInt32) : count.write n = .integer n.toNat := rfl

@[simp] lemma duration_write (n : UInt64) : duration.write n = .integer n.toNat := rfl

@[simp] lemma size_write (n : UInt64) : size.write n = .integer n.toNat := rfl

@[simp] lemma logFormat_write (f : LogFormat) : logFormat.write f = .text f.word := rfl

@[simp] lemma transportMode_write (m : TransportMode) : transportMode.write m = .text m.word := rfl

@[simp] lemma texts_write (items : List String) :
    (list text).write items = .array (items.map .text) := rfl

end Codec

/-- A section without other ones inside of it. -/
lemma Codec.isSection_of_values {σ : Type} {expected : String} {initial : σ}
    {fields : List (Field σ)} (hnames : (fields.map (·.name)).Nodup)
    (hreserved : sourceKey ∉ fields.map (·.name) ∧ standInKey ∉ fields.map (·.name))
    (hfields : ∀ f ∈ fields, ∀ s, (f.write s).IsAssigned) (s : σ) :
    ((record expected initial fields).write s).IsSection 1
      ∧ ((record expected initial fields).write s).IsSettled := by
  constructor
  · have hall : ((record expected initial (fields ++ [])).write s).IsSection (0 + 1) :=
      isSection_record fields [] (by rwa [List.append_nil]) hfields (fun _ h => nomatch h) s
    rwa [List.append_nil] at hall
  · exact isSettled_record hreserved (fun f hf s => (hfields f hf s).resolve?) s

lemma ApplicationSettings.isSection (s : ApplicationSettings) :
    (codec.write s).IsSection 1 ∧ (codec.write s).IsSettled :=
  Codec.isSection_of_values (by decide) (by decide) (by simp [Field.of]) s

lemma TransportSettings.isSection (s : TransportSettings) :
    (codec.write s).IsSection 1 ∧ (codec.write s).IsSettled :=
  Codec.isSection_of_values (by decide) (by decide) (by simp [Field.of]) s

lemma MagnetSettings.isSection (s : MagnetSettings) :
    (codec.write s).IsSection 1 ∧ (codec.write s).IsSettled :=
  Codec.isSection_of_values (by decide) (by decide) (by simp [Field.of]) s

lemma BeamBlankSettings.isSection (s : BeamBlankSettings) :
    (codec.write s).IsSection 1 ∧ (codec.write s).IsSettled :=
  Codec.isSection_of_values (by decide) (by decide) (by simp [Field.of]) s

lemma CupSettings.isSection (s : CupSettings) :
    (codec.write s).IsSection 1 ∧ (codec.write s).IsSettled :=
  Codec.isSection_of_values (by decide) (by decide) (by simp [Field.of]) s

lemma HardwareSettings.isSection (s : HardwareSettings) :
    (codec.write s).IsSection 1 ∧ (codec.write s).IsSettled :=
  Codec.isSection_of_values (by decide) (by decide) (by simp [Field.of]) s

lemma ScanSettings.isSection (s : ScanSettings) : (codec.write s).IsSection 1 :=
  Codec.isSection_record [_, _, _, _] [_] (by decide) (by simp [Field.of])
    (by simp [Field.of, Codec.isSection_table]) s

lemma Settings.isSection (s : Settings) : (codec.write s).IsSection 2 :=
  Codec.isSection_record [] [_, _, _, _, _, _, _] (by decide) (by simp)
    (by simp [Field.of, ApplicationSettings.isSection, TransportSettings.isSection,
      MagnetSettings.isSection, BeamBlankSettings.isSection, ScanSettings.isSection,
      CupSettings.isSection, HardwareSettings.isSection]) s

end SpectroRemote
