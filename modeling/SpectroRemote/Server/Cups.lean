import SpectroRemote.Server

/-!
# Choosing cup configurations

Cup configurations are found by name, activated together with one of their sub-cups, and their ion
counters are switched on and off. The configurations belong to the instrument.
-/

namespace SpectroRemote.Server

variable {σ : Type} [Instrument σ]

def allCups (s : Server σ) : Except Failure (List Cup) :=
  match Instrument.cups s.instrument with
  | .ok cups => .ok cups
  | .error e => .error (.lookup (.listUnavailable e.message))

/-- The first cup configuration of a name. -/
def cupNamed (s : Server σ) (name : String) : Except Failure Cup × Server σ :=
  match s.allCups with
  | .error e => (.error e, s)
  | .ok cups =>
    match cups.find? fun c => c.name = name with
    | some cup => (.ok cup, s)
    | none =>
      (.error (.lookup (.unknownCup name)),
        s.log .error ("Could not find cup configuration '" ++ name ++ "'"))

/-- Asks for the physical switch to the configuration that was made active. -/
def requestChange (s : Server σ) : Except Failure Unit × Server σ :=
  match Instrument.requestCupChange s.instrument with
  | (.error _, i) =>
    (.error .cupChangeRefused,
      { s with instrument := i }.log .error "Could not request a cup configuration change")
  | (.ok (), i) =>
    (.ok (), { s with instrument := i }.log .info "Cup configuration activated")

/-- Makes configurations active, given by their identifiers, and switches the hardware to them. -/
def chooseIdentified (s : Server σ) (cup subCup : String) : Except Failure Unit × Server σ :=
  match Instrument.setActive s.instrument cup subCup with
  | (.error e, i) => (.error (.lookup (.activationRefused e.message)), { s with instrument := i })
  | (.ok (), i) =>
    match Instrument.pushHardwareParameters i cup subCup with
    | (.error _, i) =>
      (.error .cupChangeRefused, { s with instrument := i }.log .error
        "Could not push cup configuration hardware parameters")
    | (.ok (), i) => { s with instrument := i }.requestChange

/-- Makes configurations active, given by their names, and switches the hardware to them. -/
def choose (s : Server σ) (cupName subCupName : String) : Except Failure Unit × Server σ :=
  match s.cupNamed cupName with
  | (.error e, s) => (.error e, s)
  | (.ok cup, s) =>
    match cup.subCupNamed? subCupName with
    | none =>
      (.error (.lookup (.unknownSubCup subCupName cupName)),
        s.log .error ("Could not find sub cup configuration '" ++ subCupName
          ++ "' in cup configuration '" ++ cupName ++ "'"))
    | some sub => s.chooseIdentified cup.identifier sub.identifier

/-- Activates a sub-cup of the configured cup configuration. -/
def chooseSubCup (st : Station) (s : Server σ) (name : String) : Except Failure Unit × Server σ :=
  s.choose st.settings.cups.cupConfiguration name

def activePair (s : Server σ) : Except Failure (String × String) :=
  match Instrument.activePair s.instrument with
  | .ok names => .ok names
  | .error e => .error (.lookup (.noActiveCup e.message))

/-- The cup configuration that has the name of the active one. -/
def activeCup (s : Server σ) : Except Failure Cup × Server σ :=
  match s.activePair with
  | .error e => (.error e, s)
  | .ok (name, _) => s.cupNamed name

/-- Switches the collectors of a cup configuration one after the other, passing over those that are
refused. The answer counts the others. -/
def switchCollectors (cup : String) (active : Bool) :
    List Collector → Server σ → Nat × Server σ
  | [], s => (0, s)
  | c :: rest, s =>
    match Instrument.switchCollector s.instrument cup c.identifier active with
    | (.ok (), i) =>
      let (n, s) := switchCollectors cup active rest { s with instrument := i }
      (n + 1, s)
    | (.error _, i) =>
      switchCollectors cup active rest
        ({ s with instrument := i }.log .warn "Could not toggle collector")

/-- Switches the connected ion counters of the active cup configuration, and counts them. -/
def setIonCounters (s : Server σ) (active : Bool) : Except Failure Nat × Server σ :=
  let s := s.log .info ("Setting IonCounterState " ++ toString active)
  match s.activeCup with
  | (.error e, s) => (.error e, s)
  | (.ok cup, s) =>
    let (n, s) :=
      switchCollectors cup.identifier active (cup.collectors.filter (·.isConnectedCounter)) s
    (.ok n, s)

def cupNames (s : Server σ) : Except Failure (List String) := s.allCups.map (·.map (·.name))

def subCupNames (s : Server σ) (cupName : String) : Except Failure (List String) × Server σ :=
  match s.cupNamed cupName with
  | (.error e, s) => (.error e, s)
  | (.ok cup, s) => (.ok (cup.subCups.map (·.name)), s)

/-- The configured sub-cup parameters as `name,value` pairs. Parameters that cannot be read are left
out. -/
def subCupReadings (st : Station) (s : Server σ) : String :=
  ";".intercalate (st.settings.cups.subCupParameters.filterMap fun name =>
    match s.read name with
    | .ok v => some (name ++ "," ++ valueText v)
    | .error _ => none)

end SpectroRemote.Server
