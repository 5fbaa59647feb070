import SpectroRemote.Request
import SpectroRemote.Server.Blanking
import SpectroRemote.Server.Magnet
import SpectroRemote.Server.Tunes

/-!
# Serving requests

Every request is answered with one reply. A request that is not understood, or whose argument is
missing or unreadable, is answered with `Error: Invalid Command` and changes nothing.
-/

namespace SpectroRemote

/-! ### Names of parameters that some verbs address -/

namespace ParameterName

def accelerationReference : String := "Acceleration Reference Set"
def trapVoltageReadback : String := "Trap Voltage Readback"
def trapVoltage : String := "Trap Voltage Set"
def electronEnergyReadback : String := "Electron Energy Readback"
def electronEnergy : String := "Electron Energy Set"
def ionRepeller : String := "Ion Repeller Set"
def zSymmetry : String := "Z-Symmetry Set"
def zFocus : String := "Z-Focus Set"
def extractionLens : String := "Extraction Lens Set"
def ionCounterSupply : String := "CDD Supply Set"

def deflection (detector : String) : String := "Deflection " ++ trimmed detector ++ " Set"

end ParameterName

namespace Server

variable {σ : Type} [Instrument σ]

/-- What serving a request comes to: a reply or a failure, and the state afterwards. -/
abbrev Outcome (σ : Type) := Except Failure String × Server σ

/-- A reply that leaves the state as it is. -/
def answer (s : Server σ) (reply : String) : Outcome σ := (.ok reply, s)

def replied (r : String × Server σ) : Outcome σ := (.ok r.1, r.2)

/-- Goes on with a value that the request must supply. -/
def withValue {α : Type} (s : Server σ) (value : Except Failure α) (next : α → Outcome σ) :
    Outcome σ :=
  match value with
  | .ok a => next a
  | .error e => (.error e, s)

/-- Starts to monitor with another integration time, given in seconds, if that is allowed. -/
def changeIntegrationTime (st : Station) (s : Server σ) (seconds : Float) : Outcome σ :=
  if !st.settings.scan.allowIntegrationTimeChange then s.answer doneReply
  else
    let failure := Failure.writeRefused "integration time" seconds
    match Instrument.measurement s.instrument with
    | .error _ => (.error failure, s.log .error "Could not read measurement settings")
    | .ok m =>
      match Instrument.beginMonitoring s.instrument
          { m with scanKind := .monitor, integrationTime := seconds * 1000 } with
      | (.error _, i) =>
        (.error failure,
          { s with instrument := i }.log .error "Could not start the modified monitor scan")
      | (.ok (), i) =>
        (.ok doneReply,
          { s with instrument := i }.log .info
            ("Integration time set to " ++ valueText seconds ++ " s"))

/-- Activates a sub-cup, with a reply of its own if that fails. -/
def setSubCup (st : Station) (s : Server σ) (name : String) : String × Server σ :=
  match s.chooseSubCup st name with
  | (.ok (), s) => (doneReply, s)
  | (.error _, s) =>
    ("Error: could not set sub cup to " ++ name, s.log .error "Could not set sub cup")

/-- Switches the ion counters. The reply does not tell whether that worked. -/
def switchIonCounters (s : Server σ) (active : Bool) : String × Server σ :=
  match s.setIonCounters active with
  | (.ok _, s) => (doneReply, s)
  | (.error _, s) => (doneReply, s.log .warn "Ion counter state unchanged")

def done (r : Except Failure Unit × Server σ) : Outcome σ := (r.1.map fun () => doneReply, r.2)

/-- Whether the ion pump valve is open, in words. -/
def valveState (st : Station) (s : Server σ) : Except Failure String :=
  (s.read st.settings.hardware.ionPumpValve).map fun v => if v == 1 then "True" else "False"

def serveRequest (st : Station) (s : Server σ) (r : Request) : Outcome σ :=
  let names := st.settings.hardware
  let readout (name : String) : Outcome σ := s.answer (s.readout name)
  let setting (name : String) : Outcome σ :=
    s.withValue r.number fun v => replied (s.writeAndReply name v)
  match r.verb with
  | .getTuningSettingsList => s.answer st.tuneList
  | .setTuningSettings => s.withValue r.givenArgument fun name => done (s.applyTune st name)
  | .getData => s.answer s.snapshot
  | .setIntegrationTime => s.withValue r.number (s.changeIntegrationTime st)
  | .blankBeam =>
    if !st.settings.beamBlank.enabled then s.answer doneReply
    else s.withValue r.givenArgument fun a => replied (s.switchBlanking st (a = "true"))
  | .getCupConfigurationList =>
    s.withValue s.cupNames fun names => s.answer ("\r".intercalate names)
  | .getSubCupConfigurationList =>
    s.withValue r.givenArgument fun name =>
      let (names, s) := s.subCupNames name
      (names.map ("\r".intercalate ·), s)
  | .getActiveCupConfiguration => s.withValue s.activePair fun names => s.answer names.1
  | .getActiveSubCupConfiguration => s.withValue s.activePair fun names => s.answer names.2
  | .getSubCupParameters => s.answer (s.subCupReadings st)
  | .setSubCupConfiguration =>
    s.withValue r.givenArgument fun name => replied (s.setSubCup st name)
  | .activateIonCounter => replied (s.switchIonCounters true)
  | .deactivateIonCounter => replied (s.switchIonCounters false)
  | .open => replied (s.writeAndReply names.ionPumpValve 1)
  | .close => replied (s.writeAndReply names.ionPumpValve 0)
  | .getValveState => (s.valveState st, s)
  | .getMagnetDAC => readout names.magnetDac
  | .setMagnetDAC => s.withValue r.number fun v => replied (s.setMagnet st v)
  | .getHighVoltage => s.answer (s.scaledReadout ParameterName.accelerationReference 1000)
  | .getHV => readout ParameterName.accelerationReference
  | .setHighVoltage | .setHV =>
    s.withValue r.number fun v =>
      replied (s.writeAndReply ParameterName.accelerationReference (v / 1000))
  | .getTrapVoltage => readout ParameterName.trapVoltageReadback
  | .setTrapVoltage => setting ParameterName.trapVoltage
  | .getElectronEnergy => readout ParameterName.electronEnergyReadback
  | .setElectronEnergy => setting ParameterName.electronEnergy
  | .getIonRepeller => readout ParameterName.ionRepeller
  | .setIonRepeller => setting ParameterName.ionRepeller
  | .getYSymmetry => readout names.ySymmetry
  | .setYSymmetry => setting names.ySymmetry
  | .getZSymmetry => readout ParameterName.zSymmetry
  | .setZSymmetry => setting ParameterName.zSymmetry
  | .getZFocus => readout ParameterName.zFocus
  | .setZFocus => setting ParameterName.zFocus
  | .getExtractionLens => readout ParameterName.extractionLens
  | .setExtractionLens => setting ParameterName.extractionLens
  | .getDeflection =>
    s.withValue r.givenArgument fun detector => readout (ParameterName.deflection detector)
  | .setDeflection =>
    s.withValue r.nameAndValue fun (detector, v) =>
      replied (s.writeAndReply (ParameterName.deflection detector) v)
  | .getIonCounterVoltage => readout ParameterName.ionCounterSupply
  | .setIonCounterVoltage => setting ParameterName.ionCounterSupply
  | .getParameter => s.withValue r.givenArgument readout
  | .setParameter =>
    s.withValue r.nameAndValue fun (name, v) => replied (s.writeAndReply name v)

/-- Serves one request line and gives the reply line. -/
def serveLine (st : Station) (s : Server σ) (line : String) : String × Server σ :=
  match Request.parse line with
  | .error e => (e.reply, s)
  | .ok r =>
    match s.serveRequest st r with
    | (.ok reply, s) => (reply, s)
    | (.error e, s) => (e.reply, s)

def serveLines (st : Station) (s : Server σ) : List String → List String × Server σ
  | [] => ([], s)
  | line :: rest =>
    let (reply, s) := s.serveLine st line
    let (replies, s) := serveLines st s rest
    (reply :: replies, s)

/-- Gets the instrument ready for scans and the server ready to blank the beam. -/
def makeReady (st : Station) (s : Server σ) : Server σ :=
  match Instrument.prepareScan s.instrument with
  | (.ok (), i) => { s with instrument := i }.primeBlank st
  | (.error _, i) =>
    ({ s with instrument := i }.log .warn "Could not initialize script scan").primeBlank st

end Server

end SpectroRemote
