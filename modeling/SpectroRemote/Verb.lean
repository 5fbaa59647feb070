/-!
# Verbs

The words that requests begin with. They are matched exactly, letter case included.
-/

namespace SpectroRemote

inductive Verb
  | getTuningSettingsList
  | setTuningSettings
  | getData
  /-- Restart monitoring with a new integration time in seconds. -/
  | setIntegrationTime
  /-- Blank the beam (`true`) or unblank it. -/
  | blankBeam
  | getCupConfigurationList
  | getSubCupConfigurationList
  | getActiveCupConfiguration
  | getActiveSubCupConfiguration
  /-- The configured sub-cup parameters as `name,value` pairs. -/
  | getSubCupParameters
  /-- Activate a sub-cup of the configured cup configuration. -/
  | setSubCupConfiguration
  | activateIonCounter
  | deactivateIonCounter
  | open
  | close
  /-- `True` when the ion pump valve is open. -/
  | getValveState
  | getMagnetDAC
  /-- Move the magnet to a field, in steps if it is far. -/
  | setMagnetDAC
  /-- The acceleration voltage in volts. -/
  | getHighVoltage
  /-- Set the acceleration voltage, given in volts. -/
  | setHighVoltage
  /-- The acceleration voltage in kilovolts. -/
  | getHV
  /-- Set the acceleration voltage, given in volts. -/
  | setHV
  /-- The trap voltage that is read back. -/
  | getTrapVoltage
  | setTrapVoltage
  /-- The electron energy that is read back. -/
  | getElectronEnergy
  | setElectronEnergy
  | getIonRepeller
  | setIonRepeller
  | getYSymmetry
  | setYSymmetry
  | getZSymmetry
  | setZSymmetry
  | getZFocus
  | setZFocus
  | getExtractionLens
  | setExtractionLens
  | getDeflection
  /-- Set the deflection of one detector, given as `detector,value`. -/
  | setDeflection
  | getIonCounterVoltage
  | setIonCounterVoltage
  | getParameter
  /-- Set any instrument parameter, given as `name,value`. -/
  | setParameter
deriving Repr, DecidableEq, Inhabited

namespace Verb

/-- Every verb, in the order of the protocol table. -/
def all : List Verb :=
  [.getTuningSettingsList, .setTuningSettings, .getData, .setIntegrationTime, .blankBeam,
    .getCupConfigurationList, .getSubCupConfigurationList, .getActiveCupConfiguration,
    .getActiveSubCupConfiguration, .getSubCupParameters, .setSubCupConfiguration,
    .activateIonCounter, .deactivateIonCounter, .open, .close, .getValveState, .getMagnetDAC,
    .setMagnetDAC, .getHighVoltage, .setHighVoltage, .getHV, .setHV, .getTrapVoltage,
    .setTrapVoltage, .getElectronEnergy, .setElectronEnergy, .getIonRepeller, .setIonRepeller,
    .getYSymmetry, .setYSymmetry, .getZSymmetry, .setZSymmetry, .getZFocus, .setZFocus,
    .getExtractionLens, .setExtractionLens, .getDeflection, .setDeflection,
    .getIonCounterVoltage, .setIonCounterVoltage, .getParameter, .setParameter]

def name : Verb → String
  | .getTuningSettingsList => "GetTuningSettingsList"
  | .setTuningSettings => "SetTuningSettings"
  | .getData => "GetData"
  | .setIntegrationTime => "SetIntegrationTime"
  | .blankBeam => "BlankBeam"
  | .getCupConfigurationList => "GetCupConfigurationList"
  | .getSubCupConfigurationList => "GetSubCupConfigurationList"
  | .getActiveCupConfiguration => "GetActiveCupConfiguration"
  | .getActiveSubCupConfiguration => "GetActiveSubCupConfiguration"
  | .getSubCupParameters => "GetSubCupParameters"
  | .setSubCupConfiguration => "SetSubCupConfiguration"
  | .activateIonCounter => "ActivateIonCounter"
  | .deactivateIonCounter => "DeactivateIonCounter"
  | .open => "Open"
  | .close => "Close"
  | .getValveState => "GetValveState"
  | .getMagnetDAC => "GetMagnetDAC"
  | .setMagnetDAC => "SetMagnetDAC"
  | .getHighVoltage => "GetHighVoltage"
  | .setHighVoltage => "SetHighVoltage"
  | .getHV => "GetHV"
  | .setHV => "SetHV"
  | .getTrapVoltage => "GetTrapVoltage"
  | .setTrapVoltage => "SetTrapVoltage"
  | .getElectronEnergy => "GetElectronEnergy"
  | .setElectronEnergy => "SetElectronEnergy"
  | .getIonRepeller => "GetIonRepeller"
  | .setIonRepeller => "SetIonRepeller"
  | .getYSymmetry => "GetYSymmetry"
  | .setYSymmetry => "SetYSymmetry"
  | .getZSymmetry => "GetZSymmetry"
  | .setZSymmetry => "SetZSymmetry"
  | .getZFocus => "GetZFocus"
  | .setZFocus => "SetZFocus"
  | .getExtractionLens => "GetExtractionLens"
  | .setExtractionLens => "SetExtractionLens"
  | .getDeflection => "GetDeflection"
  | .setDeflection => "SetDeflection"
  | .getIonCounterVoltage => "GetIonCounterVoltage"
  | .setIonCounterVoltage => "SetIonCounterVoltage"
  | .getParameter => "GetParameter"
  | .setParameter => "SetParameter"

def ofName? (word : String) : Option Verb := all.find? fun v => v.name = word

/-- The place of a verb in the protocol table, counted from zero. -/
def index (v : Verb) : Nat := all.idxOf v

end Verb

end SpectroRemote
