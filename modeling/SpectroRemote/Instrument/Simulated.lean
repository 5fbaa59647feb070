import SpectroRemote.Instrument

/-!
# The simulated instrument

A spectrometer in memory. Its parameters are a table: a write to any name succeeds and is read back,
unless the refusal of the name or of the number of the attempt was asked for. Every attempt to write
is kept, refused ones too.
-/

namespace SpectroRemote

structure SimulatedInstrument where
  parameters : Table Float := .empty
  /-- Every attempt to write, in order. -/
  writes : Array (String × Float) := #[]
  refusedNames : List String := []
  /-- The numbers of the attempts that are refused, counted from one. -/
  refusedWrites : List Nat := []
  cups : List Cup := []
  /-- The identifiers of the active cup and sub-cup configuration. -/
  active : String × String := ("", "")
  pushes : List (String × String) := []
  cupChangeRequests : Nat := 0
  refusesCupChanges : Bool := false
  measurement : Measurement := ⟨.monitor, 1048.576, 0, none⟩
  scanPreparations : Nat := 0
  monitoringRequests : List Measurement := []
  appliedTunes : List String := []

namespace SimulatedInstrument

def value? (i : SimulatedInstrument) (name : String) : Option Float := i.parameters.get? name

/-- Sets a parameter without an attempt to write. -/
def preset (i : SimulatedInstrument) (name : String) (v : Float) : SimulatedInstrument :=
  { i with parameters := i.parameters.insert name v }

def refuses (i : SimulatedInstrument) (number : Nat) (name : String) : Bool :=
  i.refusedNames.contains name || i.refusedWrites.contains number

def attemptsOn (i : SimulatedInstrument) (name : String) : List Float :=
  (i.writes.toList.filter fun w => w.1 = name).map (·.2)

def cupWithIdentifier? (i : SimulatedInstrument) (identifier : String) : Option Cup :=
  i.cups.find? fun c => c.identifier = identifier

def activeCup? (i : SimulatedInstrument) : Option Cup := i.cupWithIdentifier? i.active.1

/-- Changes the first element that satisfies `p`. -/
def modifyFirst {α : Type} (p : α → Bool) (f : α → α) : List α → List α
  | [] => []
  | a :: l => if p a then f a :: l else a :: modifyFirst p f l

/-! ### Operations -/

def readParameter (i : SimulatedInstrument) (name : String) : Except Refusal Float :=
  match i.value? name with
  | some v => .ok v
  | none => .error (.unknownParameter name)

def writeParameter (i : SimulatedInstrument) (name : String) (v : Float) :
    Except Refusal Unit × SimulatedInstrument :=
  let number := i.writes.size + 1
  let i' := { i with writes := i.writes.push (name, v) }
  if i.refuses number name then (.error (.write number v name), i')
  else (.ok (), i'.preset name v)

/-- The names of the active configurations. A sub-cup configuration that does not exist has the
empty name. -/
def activePair (i : SimulatedInstrument) : Except Refusal (String × String) :=
  match i.activeCup? with
  | none => .error .noActiveCup
  | some cup =>
    .ok (cup.name, ((cup.subCups.find? fun s => s.identifier = i.active.2).map (·.name)).getD "")

/-- Makes configurations active. Only the cup configuration has to exist. -/
def setActive (i : SimulatedInstrument) (cup subCup : String) :
    Except Refusal Unit × SimulatedInstrument :=
  match i.cupWithIdentifier? cup with
  | none => (.error (.unknownCup cup), i)
  | some _ => (.ok (), { i with active := (cup, subCup) })

def pushHardwareParameters (i : SimulatedInstrument) (cup subCup : String) :
    Except Refusal Unit × SimulatedInstrument :=
  (.ok (), { i with pushes := i.pushes ++ [(cup, subCup)] })

def requestCupChange (i : SimulatedInstrument) : Except Refusal Unit × SimulatedInstrument :=
  let i' := { i with cupChangeRequests := i.cupChangeRequests + 1 }
  if i.refusesCupChanges then (.error .cupChange, i') else (.ok (), i')

/-- Switches the first collector with an identifier. -/
def switchInCup (collector : String) (active : Bool) (c : Cup) : Cup :=
  let switch := modifyFirst (fun item : Collector => decide (item.identifier = collector))
    fun item => { item with active := active }
  { c with collectors := switch c.collectors }

def switchInCups (cups : List Cup) (cup collector : String) (active : Bool) : List Cup :=
  modifyFirst (fun c => c.identifier = cup) (switchInCup collector active) cups

/-- Switches a collector, which has to exist. -/
def switchCollector (i : SimulatedInstrument) (cup collector : String) (active : Bool) :
    Except Refusal Unit × SimulatedInstrument :=
  match (i.cupWithIdentifier? cup).bind
      fun c => c.collectors.find? fun item => item.identifier = collector with
  | none => (.error (.unknownCollector collector cup), i)
  | some _ =>
    (.ok (), { i with cups := switchInCups i.cups cup collector active })

def prepareScan (i : SimulatedInstrument) : Except Refusal Unit × SimulatedInstrument :=
  (.ok (), { i with scanPreparations := i.scanPreparations + 1 })

def beginMonitoring (i : SimulatedInstrument) (m : Measurement) :
    Except Refusal Unit × SimulatedInstrument :=
  (.ok (), { i with monitoringRequests := i.monitoringRequests ++ [m], measurement := m })

/-- Takes over the parameters of a tune, without attempts to write. -/
def applyTune (i : SimulatedInstrument) (t : Tune) : Except Refusal Unit × SimulatedInstrument :=
  (.ok (), { i with
    parameters := i.parameters.insertAll t.parameters.entries
    appliedTunes := i.appliedTunes ++ [t.name] })

/-- The reading of the collector at this place among those with a mass: it swings about one volt, in
a phase that advances with the cycles. -/
def reading (cycle : UInt64) (place : Nat) : Float :=
  1.0 + 0.05 * ((cycle.toFloat * 0.1) + place.toUInt64.toFloat).sin

/-- The spectrum of a cycle: one point for each collector with a mass. -/
def acquire (i : SimulatedInstrument) (cycle : UInt64) : Spectrum :=
  match i.activeCup? with
  | none => {}
  | some cup =>
    ⟨(cup.collectors.filterMap (·.mass)).mapIdx fun place mass => [⟨mass, reading cycle place⟩]⟩

instance : Instrument SimulatedInstrument where
  readParameter := readParameter
  writeParameter := writeParameter
  cups i := .ok i.cups
  activePair := activePair
  setActive := setActive
  pushHardwareParameters := pushHardwareParameters
  requestCupChange := requestCupChange
  switchCollector := switchCollector
  prepareScan := prepareScan
  measurement i := .ok i.measurement
  beginMonitoring := beginMonitoring
  applyTune := applyTune
  acquire := acquire

/-! ### A multicollector -/

/-- A five-cup multicollector with an ion counter, set up for argon. -/
def multicollector : SimulatedInstrument where
  parameters := .ofList [
    ("Field Set", 4.5), ("Y-Symmetry Set", 12.5), ("Z-Symmetry Set", 3.2), ("Z-Focus Set", 60.0),
    ("Extraction Lens Set", 85.0), ("Ion Repeller Set", -1.5), ("Trap Voltage Set", 120.0),
    ("Trap Voltage Readback", 120.3), ("Electron Energy Set", 100.0),
    ("Electron Energy Readback", 99.8), ("Acceleration Reference Set", 4.5),
    ("Valve Ion Pump Set", 0.0), ("Deflection H2 Set", 10.0), ("Deflection H1 Set", 20.0),
    ("Deflection AX Set", 30.0), ("Deflection L1 Set", 40.0), ("Deflection L2 Set", 50.0),
    ("Deflection CDD Set", 60.0), ("CDD Supply Set", 1800.0)]
  cups := [
    { identifier := "cc-1"
      name := "Argon"
      subCups := [⟨"sc-1", "Ar40"⟩, ⟨"sc-2", "Ar36"⟩]
      collectors := [
        .faraday "CUP 4" (some 40.0), .faraday "CUP 3" (some 39.0), .faraday "CUP 2" (some 38.0),
        .faraday "CUP 1" (some 37.0), .faraday "CUP 0" (some 35.5), .counter "CDD 0" (some 36.0),
        .counter "CDD 1" none] },
    { identifier := "cc-2"
      name := "Helium"
      subCups := [⟨"sc-3", "He4"⟩]
      collectors := [.faraday "CUP 2" (some 4.0), .counter "CDD 0" (some 3.0)] }]
  active := ("cc-1", "sc-1")

end SimulatedInstrument

def TuneStore.ofList (l : List (String × List (String × Float))) : TuneStore :=
  Table.ofList (l.map fun (name, parameters) => (name, ⟨name, .ofList parameters⟩))

def TuneStore.sample : TuneStore := .ofList [
  ("Argon", [("Trap Voltage Set", 120.0), ("Electron Energy Set", 100.0)]),
  ("HighSens", [("Trap Voltage Set", 200.0), ("Electron Energy Set", 90.0)])]

end SpectroRemote
