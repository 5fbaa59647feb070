import SpectroRemote.Instrument.Simulated
import SpectroRemote.Proofs.Double.Representation
import SpectroRemote.Proofs.Snapshot.Layout

/-!
# Snapshots of the simulated instrument

The simulated instrument acquires a reading for each collector that has a mass, and puts it at this
mass. A snapshot shows it with the tag of the first collector at the mass. If the masses are numbers
of which no two are equal, this is the collector that the reading was acquired for, so every reading
is shown with the tag of its own collector (`snapshot_acquire`).
-/

namespace SpectroRemote

/-- A double that is a number equals itself. -/
lemma Double.beq_self {v : Float} (h : v.isNaN = false) : (v == v) = true := by
  change v.toModel.unpack.isNaN = false at h
  change v.toModel.unpack.beq v.toModel.unpack = true
  cases hv : v.toModel.unpack with
  | notANumber =>
    rw [hv] at h
    cases h
  | infinity s => cases s <;> rfl
  | zero s => rfl
  | finite s m e hm =>
    cases s <;> simp [Float.Model.UnpackedFloat.beq, Float.Model.UnpackedFloat.compare]

/-! ### Collectors with masses -/

namespace Collector

/-- A collector with its mass, if it has one. -/
def withMass? (c : Collector) : Option (Collector × Float) := c.mass.map fun mass => (c, mass)

lemma withMass?_eq_some_iff {c d : Collector} {mass : Float} :
    c.withMass? = some (d, mass) ↔ c = d ∧ c.mass = some mass := by
  rw [withMass?]
  cases c.mass <;> simp

lemma isAtMass_iff {c : Collector} {mass : Float} :
    c.isAtMass mass = true ↔ ∃ m, c.mass = some m ∧ (m == mass) = true := by
  rw [isAtMass]
  cases c.mass <;> simp

end Collector

namespace Cup

/-- The collectors that have a mass, each with its mass. -/
def assigned (cup : Cup) : List (Collector × Float) := cup.collectors.filterMap (·.withMass?)

/-- All masses are numbers, and no two of them are equal. Zeros of both signs are equal. -/
structure HasDistinctMasses (cup : Cup) : Prop where
  numbers : ∀ mass ∈ cup.assigned.map (·.2), mass.isNaN = false
  distinct : (cup.assigned.map (·.2)).Pairwise fun a b => (a == b) = false

variable {cup : Cup}

lemma HasDistinctMasses.congr {other : Cup} (h : cup.HasDistinctMasses)
    (hassigned : other.assigned.map (fun a => (a.1.identifier, a.2))
      = cup.assigned.map fun a => (a.1.identifier, a.2)) : other.HasDistinctMasses := by
  have hsame := congrArg (List.map (·.2)) hassigned
  rw [List.map_map, List.map_map] at hsame
  have hmasses : other.assigned.map (·.2) = cup.assigned.map (·.2) := hsame
  constructor
  · rw [hmasses]
    exact h.numbers
  · rw [hmasses]
    exact h.distinct

lemma masses_eq (cup : Cup) : cup.collectors.filterMap (·.mass) = cup.assigned.map (·.2) := by
  simp [assigned, Collector.withMass?, List.map_filterMap, Function.comp_def]

/-- A collector with a mass is the first one at it, since none before it has an equal mass. -/
lemma collectorAt?_of_mem (h : cup.HasDistinctMasses) {c : Collector} {mass : Float}
    (hc : (c, mass) ∈ cup.assigned) : cup.collectorAt? mass = some c := by
  have hself := Double.beq_self (h.numbers mass (List.mem_map_of_mem hc))
  obtain ⟨d, hd, hwith⟩ := List.mem_filterMap.mp hc
  obtain ⟨rfl, hmass⟩ := Collector.withMass?_eq_some_iff.mp hwith
  obtain ⟨before, after, hsplit⟩ := List.append_of_mem hd
  have hdistinct := List.pairwise_map.mp h.distinct
  rw [assigned, hsplit, List.filterMap_append, List.pairwise_append] at hdistinct
  obtain ⟨-, -, hacross⟩ := hdistinct
  have hlater : (d, mass) ∈ (d :: after).filterMap (·.withMass?) :=
    List.mem_filterMap.mpr ⟨d, .head _, hwith⟩
  rw [collectorAt?, List.find?_eq_some_iff_append]
  refine ⟨Collector.isAtMass_iff.mpr ⟨mass, hmass, hself⟩, before, after, hsplit, ?_⟩
  intro e he
  rw [Bool.not_eq_true']
  apply Bool.eq_false_iff.mpr
  intro hat
  obtain ⟨other, hother, heq⟩ := Collector.isAtMass_iff.mp hat
  have hearlier : (e, other) ∈ before.filterMap (·.withMass?) :=
    List.mem_filterMap.mpr ⟨e, he, Collector.withMass?_eq_some_iff.mpr ⟨rfl, hother⟩⟩
  exact Bool.false_ne_true ((hacross _ hearlier _ hlater).symm.trans heq)

end Cup

/-! ### Acquired readings -/

namespace SimulatedInstrument

variable {i : SimulatedInstrument} {cup : Cup}

lemma points_acquire (hactive : i.activeCup? = some cup) (cycle : UInt64) :
    (i.acquire cycle).points
      = cup.assigned.mapIdx fun place a => ⟨a.2, reading cycle place⟩ := by
  rw [acquire, hactive, Spectrum.points]
  dsimp only
  rw [cup.masses_eq, List.mapIdx_eq_zipIdx_map, List.mapIdx_eq_zipIdx_map, List.zipIdx_map,
    List.map_map, ← List.flatMap_def, List.map_eq_flatMap]
  rfl

/-- What is acquired counts as a reading of every collector with a mass, in their order. -/
lemma readings_acquire (hactive : i.activeCup? = some cup) (hmasses : cup.HasDistinctMasses)
    (cycle : UInt64) : cup.readings (i.acquire cycle).points
      = cup.assigned.mapIdx fun place a => (a.1, reading cycle place) := by
  rw [points_acquire hactive, Cup.readings, List.mapIdx_eq_zipIdx_map, List.mapIdx_eq_zipIdx_map,
    List.filterMap_map, List.filterMap_eq_map_iff_forall_eq_some]
  rintro ⟨⟨c, mass⟩, place⟩ ha
  have hc : (c, mass) ∈ cup.assigned := List.fst_mem_of_mem_zipIdx ha
  rw [Function.comp_apply, Cup.collectorAt?_of_mem hmasses hc, Option.map_some]

/-- The readings of a cycle, each with the tag of the collector that it was acquired for. -/
def ownReadings (settings : ScanSettings) (cup : Cup) (cycle : UInt64) : List (String × Float) :=
  cup.assigned.mapIdx fun place a => (settings.tagOf a.1, reading cycle place)

lemma tagged_acquire (settings : ScanSettings) (hactive : i.activeCup? = some cup)
    (hmasses : cup.HasDistinctMasses) (cycle : UInt64) :
    settings.tagged (cup.readings (i.acquire cycle).points) = ownReadings settings cup cycle := by
  rw [readings_acquire hactive hmasses, ScanSettings.tagged, ownReadings,
    List.mapIdx_eq_zipIdx_map, List.mapIdx_eq_zipIdx_map, List.map_map]
  rfl

/-- The readings depend on the identifiers of the collectors with a mass only. -/
lemma ownReadings_congr (settings : ScanSettings) {other : Cup}
    (h : other.assigned.map (fun a => (a.1.identifier, a.2))
      = cup.assigned.map fun a => (a.1.identifier, a.2)) (cycle : UInt64) :
    ownReadings settings other cycle = ownReadings settings cup cycle := by
  have hbyIdentifier (c : Cup) : ownReadings settings c cycle
      = (c.assigned.map fun a => (a.1.identifier, a.2)).mapIdx fun place a =>
          ((settings.detectors.get? a.1).getD "", reading cycle place) := by
    rw [ownReadings, List.mapIdx_eq_zipIdx_map, List.mapIdx_eq_zipIdx_map, List.zipIdx_map,
      List.map_map]
    rfl
  rw [hbyIdentifier, hbyIdentifier, h]

/-- The fields of a snapshot of own readings. -/
lemma snapshot_acquire_eq {settings : ScanSettings} (htagged : settings.tagData = true)
    (hactive : i.activeCup? = some cup) (hmasses : cup.HasDistinctMasses) (cycle : UInt64) :
    settings.snapshot cup (i.acquire cycle)
      = ",".intercalate ((settings.arranged (ownReadings settings cup cycle)).flatMap
          fun r => [r.1, valueText r.2]) := by
  have hentry : (fun r : String × Float => settings.entry r.1 r.2)
      = fun r => [r.1, valueText r.2] := by
    funext r
    rw [ScanSettings.entry, if_pos htagged]
  rw [settings.snapshot_eq, tagged_acquire settings hactive hmasses, Snapshot.fieldsOf, hentry]

/-- With tags a snapshot of what is acquired shows a tag and a reading for each collector that has a
mass and not the tag of the ion counter, the last collector first, and then those for the last
collector that has both. Nothing else counts: neither which collectors are active nor those that
have no mass. -/
theorem snapshot_acquire (settings : ScanSettings) (htagged : settings.tagData = true)
    (i : SimulatedInstrument) (cup : Cup) (hactive : i.activeCup? = some cup)
    (hmasses : cup.HasDistinctMasses) (cycle : UInt64) :
    let own := ownReadings settings cup cycle
    let others := own.filter (·.1 ≠ settings.ionCounterTag)
    let counter? := (own.filter (·.1 = settings.ionCounterTag)).getLast?
    settings.snapshot cup (i.acquire cycle)
        = ",".intercalate
          ((others.reverse ++ counter?.toList).flatMap fun r => [r.1, valueText r.2])
      ∧ ∀ (j : SimulatedInstrument) (other : Cup), j.activeCup? = some other →
          other.assigned.map (fun a => (a.1.identifier, a.2))
              = cup.assigned.map (fun a => (a.1.identifier, a.2)) →
            settings.snapshot other (j.acquire cycle) = settings.snapshot cup (i.acquire cycle) := by
  intro own others counter?
  refine ⟨snapshot_acquire_eq htagged hactive hmasses cycle, ?_⟩
  intro j other hother hassigned
  rw [snapshot_acquire_eq htagged hactive hmasses,
    snapshot_acquire_eq htagged hother (hmasses.congr hassigned),
    ownReadings_congr settings hassigned]

/-- The multicollector shows six of its seven collectors, the inactive ion counter too. -/
theorem snapshot_acquire_multicollector :
    ∃ cup, multicollector.activeCup? = some cup ∧ cup.collectors.length = 7
      ∧ cup.HasDistinctMasses
      ∧ ScanSettings.snapshot {} cup (multicollector.acquire 3) = ",".intercalate
          ["L2", valueText (reading 3 4), "L1", valueText (reading 3 3),
            "AX", valueText (reading 3 2), "H1", valueText (reading 3 1),
            "H2", valueText (reading 3 0), "CDD", valueText (reading 3 5)] := by
  obtain ⟨cup, hactive, hcollectors⟩ : ∃ cup, multicollector.activeCup? = some cup
      ∧ cup.collectors = [.faraday "CUP 4" (some 40.0), .faraday "CUP 3" (some 39.0),
        .faraday "CUP 2" (some 38.0), .faraday "CUP 1" (some 37.0), .faraday "CUP 0" (some 35.5),
        .counter "CDD 0" (some 36.0), .counter "CDD 1" none] := ⟨_, rfl, rfl⟩
  have hassigned : cup.assigned = [(.faraday "CUP 4" (some 40.0), 40.0),
      (.faraday "CUP 3" (some 39.0), 39.0), (.faraday "CUP 2" (some 38.0), 38.0),
      (.faraday "CUP 1" (some 37.0), 37.0), (.faraday "CUP 0" (some 35.5), 35.5),
      (.counter "CDD 0" (some 36.0), 36.0)] := by
    rw [Cup.assigned, hcollectors]
    rfl
  have hmasses : cup.HasDistinctMasses := by
    constructor
    · rw [hassigned]
      decide +kernel
    · rw [hassigned]
      decide +kernel
  have hown : ownReadings {} cup 3 = [("H2", reading 3 0), ("H1", reading 3 1),
      ("AX", reading 3 2), ("L1", reading 3 3), ("L2", reading 3 4), ("CDD", reading 3 5)] := by
    rw [ownReadings, hassigned]
    rfl
  obtain ⟨hsnapshot, -⟩ := snapshot_acquire {} rfl multicollector cup hactive hmasses 3
  refine ⟨cup, hactive, by rw [hcollectors]; rfl, hmasses, ?_⟩
  rw [hsnapshot, hown]
  rfl

end SimulatedInstrument

end SpectroRemote
