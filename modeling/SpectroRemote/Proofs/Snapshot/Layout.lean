import Mathlib.Data.List.Induction
import Mathlib.Tactic.Lemma
import SpectroRemote.Snapshot

/-!
# What a snapshot consists of

A snapshot is made point by point, and its fields are put down one by one. All in all it consists of
whole entries: those of the readings whose tag is not that of the ion counter, the last one first,
and then the last reading with the tag of the ion counter (`snapshot_eq`). Nothing else goes into
it, and each of the former readings goes into it once (`snapshot_entries`).
-/

namespace SpectroRemote

/-! ### Readings -/

/-- The readings at masses of collectors, each with the first collector at its mass. -/
def Cup.readings (cup : Cup) (points : List ScanPoint) : List (Collector × Float) :=
  points.filterMap fun p => (cup.collectorAt? p.mass).map fun c => (c, p.analog)

namespace ScanSettings

variable (settings : ScanSettings)

/-- The readings with the tags of their collectors. -/
def tagged (readings : List (Collector × Float)) : List (String × Float) :=
  readings.map fun r => (settings.tagOf r.1, r.2)

/-- The tagged readings in the order in which a snapshot shows them. -/
def arranged (readings : List (String × Float)) : List (String × Float) :=
  (readings.filter (·.1 ≠ settings.ionCounterTag)).reverse
    ++ (readings.filter (·.1 = settings.ionCounterTag)).getLast?.toList

/-- The fields that show a tagged reading. -/
def entry (tag : String) (reading : Float) : List String :=
  if settings.tagData then [tag, valueText reading] else [valueText reading]

end ScanSettings

/-! ### Assembling -/

namespace Snapshot

variable (settings : ScanSettings)

/-- The fields that show tagged readings. -/
def fieldsOf (readings : List (String × Float)) : List String :=
  readings.flatMap fun r => settings.entry r.1 r.2

/-- The fields that are put down for tagged readings, of each the value before the tag. -/
def putDown (readings : List (String × Float)) : List String :=
  readings.flatMap fun r => (settings.entry r.1 r.2).reverse

/-- Single fields that are turned round give whole entries, the last one first. -/
lemma reverse_putDown (readings : List (String × Float)) :
    (putDown settings readings).reverse = fieldsOf settings readings.reverse := by
  rw [putDown, fieldsOf, List.reverse_flatMap]
  simp only [Function.comp_def, List.reverse_reverse]

/-- What is assembled of tagged readings. -/
def assembled (readings : List (String × Float)) : Assembly where
  fields := (putDown settings (readings.filter (·.1 ≠ settings.ionCounterTag))).toArray
  ionCounter := (readings.filter (·.1 = settings.ionCounterTag)).getLast?.map (·.2)

/-- One more reading puts down its value, and then its tag if tags are shown. -/
lemma putDown_concat (readings : List (String × Float)) (tag : String) (reading : Float) :
    (putDown settings (readings ++ [(tag, reading)])).toArray =
      let fields := (putDown settings readings).toArray.push (valueText reading)
      if settings.tagData then fields.push tag else fields := by
  rw [putDown, putDown, List.flatMap_append, List.flatMap_singleton, ScanSettings.entry]
  cases settings.tagData <;> simp

/-- One more point adds its reading, if it has a collector. -/
lemma add_assembled (cup : Cup) (readings : List (String × Float)) (p : ScanPoint) :
    (assembled settings readings).add settings cup p
      = assembled settings (readings ++ settings.tagged (cup.readings [p])) := by
  rw [Assembly.add, Cup.readings, List.filterMap_cons, List.filterMap_nil]
  cases cup.collectorAt? p.mass with
  | none => simp [ScanSettings.tagged]
  | some c =>
    by_cases h : settings.tagOf c = settings.ionCounterTag
    · simp [h, assembled, ScanSettings.tagged]
    · simp [h, assembled, ScanSettings.tagged, putDown_concat]

lemma foldl_add (cup : Cup) (points : List ScanPoint) :
    points.foldl (Assembly.add settings cup) {}
      = assembled settings (settings.tagged (cup.readings points)) := by
  induction points using List.reverseRecOn with
  | nil => rfl
  | append_singleton points p ih =>
    rw [List.foldl_append, ih, List.foldl_cons, List.foldl_nil, add_assembled, Cup.readings,
      Cup.readings, Cup.readings, List.filterMap_append, ScanSettings.tagged, ScanSettings.tagged,
      ScanSettings.tagged, List.map_append]

lemma allFields_assembled (readings : List (String × Float)) :
    (assembled settings readings).allFields settings
      = fieldsOf settings (settings.arranged readings) := by
  rw [Assembly.allFields, assembled, ScanSettings.arranged]
  dsimp only
  rw [reverse_putDown, fieldsOf, fieldsOf, List.flatMap_append]
  cases h : (readings.filter (·.1 = settings.ionCounterTag)).getLast? with
  | none => simp
  | some r =>
    have hr : r.1 = settings.ionCounterTag := by
      simpa using (List.mem_filter.mp (List.mem_of_getLast? h)).2
    cases htagged : settings.tagData <;> simp [ScanSettings.entry, htagged, hr]

end Snapshot

/-- A snapshot shows entries. -/
theorem ScanSettings.snapshot_eq (settings : ScanSettings) (cup : Cup) (x : Spectrum) :
    settings.snapshot cup x =
      ",".intercalate (Snapshot.fieldsOf settings
        (settings.arranged (settings.tagged (cup.readings x.points)))) := by
  rw [snapshot, Snapshot.foldl_add, Snapshot.allFields_assembled]

/-! ### What counts -/

lemma Collector.isAtMass_eq (c : Collector) (mass : Float) :
    c.isAtMass mass = c.mass.any (· == mass) := by
  rw [isAtMass]
  cases c.mass <;> rfl

lemma Keyed.find?_eq {α : Type} (k : String) (entries : List (String × α)) :
    Keyed.find? k entries = (entries.find? fun e => e.1 = k).map (·.2) := by
  induction entries with
  | nil => rfl
  | cons e entries ih =>
    by_cases h : e.1 = k
    · simp [Keyed.find?, h]
    · simp [Keyed.find?, h, ih]

/-- The tagged readings of points, by the masses of the collectors and the list of detectors. -/
lemma ScanSettings.tagged_readings (settings : ScanSettings) (cup : Cup)
    (points : List ScanPoint) :
    settings.tagged (cup.readings points) =
      points.filterMap fun p =>
        (cup.collectors.find? fun c => c.mass.any (· == p.mass)).map fun c =>
          (((settings.detectors.entries.find? fun e => e.1 = c.identifier).map (·.2)).getD "",
            p.analog) := by
  rw [tagged, Cup.readings, List.map_filterMap]
  simp only [Cup.collectorAt?, Collector.isAtMass_eq, Option.map_map, Function.comp_def, tagOf,
    Table.get?, Keyed.find?_eq]

/-- Points at no collector's mass give no readings. -/
lemma Cup.readings_filter (cup : Cup) (points : List ScanPoint) :
    cup.readings (points.filter fun p => cup.collectors.any fun c => c.mass.any (· == p.mass))
      = cup.readings points := by
  rw [readings, readings, List.filterMap_filter]
  congr 1
  funext p
  split
  · rfl
  · next hnone =>
    have hfind : cup.collectorAt? p.mass = none := by
      rw [collectorAt?, List.find?_eq_none]
      simpa [Collector.isAtMass_eq] using hnone
    rw [hfind]
    rfl

/-- The readings of a spectrum at masses of collectors have the tag under which the first collector
at the mass is listed, or an empty one. A snapshot shows every such reading that has not the tag of
the ion counter once, the last one first, and then the last one that has it: the tag, if tags are
shown, and the value. Points at no collector's mass can be left out. -/
theorem ScanSettings.snapshot_entries (settings : ScanSettings) (cup : Cup) (x : Spectrum) :
    let points := x.series.flatten
    let readings : List (String × Float) := points.filterMap fun p =>
      (cup.collectors.find? fun c => c.mass.any (· == p.mass)).map fun c =>
        (((settings.detectors.entries.find? fun e => e.1 = c.identifier).map (·.2)).getD "",
          p.analog)
    let others := readings.filter (·.1 ≠ settings.ionCounterTag)
    let counter? := (readings.filter (·.1 = settings.ionCounterTag)).getLast?
    let entry (r : String × Float) : List String :=
      if settings.tagData then [r.1, valueText r.2] else [valueText r.2]
    let detected := points.filter fun p => cup.collectors.any fun c => c.mass.any (· == p.mass)
    settings.snapshot cup x
        = ",".intercalate (others.reverse.flatMap entry ++ counter?.elim [] entry)
      ∧ settings.snapshot cup x = settings.snapshot cup ⟨[detected]⟩ := by
  intro points readings others counter? entry detected
  have hcounter : counter?.toList.flatMap entry = counter?.elim [] entry := by
    cases counter? with
    | none => rfl
    | some r => simp
  have htagged : settings.tagged (cup.readings x.points) = readings :=
    settings.tagged_readings cup points
  constructor
  · rw [snapshot_eq, htagged, ← hcounter, ← List.flatMap_append]
    rfl
  · have hpoints : Spectrum.points ⟨[detected]⟩ = detected := List.append_nil _
    rw [snapshot_eq, snapshot_eq, hpoints, cup.readings_filter]
    rfl

/-- A collector that is not listed, a point at no mass, and two readings of the ion counter, with
tags and without. -/
theorem ScanSettings.snapshot_entries_argon :
    let cup : Cup :=
      ⟨"cc-1", "Argon", [], [.faraday "CUP 4" (some 40), .faraday "CUP 9" (some 38),
        .counter "CDD 0" (some 36), .faraday "CUP 3" (some 40)]⟩
    let x : Spectrum := ⟨[[⟨36, 10⟩, ⟨40, 1.5⟩], [⟨12, 99⟩, ⟨38, 0.5⟩], [⟨36, 11⟩]]⟩
    ScanSettings.snapshot {} cup x = ",0.5,H2,1.5,CDD,11"
      ∧ ScanSettings.snapshot { tagData := false } cup x = "0.5,1.5,11" := by
  intro cup x
  constructor
  · exact (snapshot_entries {} cup x).1.trans (by decide +kernel)
  · exact (snapshot_entries { tagData := false } cup x).1.trans (by decide +kernel)

end SpectroRemote
