import SpectroRemote.Cup
import SpectroRemote.Decimal.Positional
import SpectroRemote.Spectrum
import SpectroRemote.Table

/-!
# Instruments

What the server asks of a mass spectrometer. An instrument is a type of states with operations on
them; an operation that is refused tells why, and may still have changed the state.
-/

namespace SpectroRemote

inductive ScanKind
  /-- Continuously at one mass. -/
  | monitor
  /-- In steps across a range of masses. -/
  | sweep
deriving Repr, DecidableEq, Inhabited

structure Measurement where
  scanKind : ScanKind
  /-- The integration time of a point in milliseconds. -/
  integrationTime : Float
  /-- The settling time before a point in milliseconds. -/
  settlingTime : UInt32
  /-- The mass to monitor; without one it is that of the master collector. -/
  mass : Option Float
deriving Repr, DecidableEq, Inhabited

/-- A stored set of parameter values. -/
structure Tune where
  name : String
  parameters : Table Float

abbrev TuneStore := Table Tune

inductive Refusal
  | unknownParameter (name : String)
  /-- The write attempt of this number, counted over all parameters, was refused. -/
  | write (number : Nat) (value : Float) (name : String)
  | noActiveCup
  | unknownCup (identifier : String)
  | cupChange
  | unknownCollector (collector cup : String)
  | reported (reason : String)
deriving Repr, DecidableEq

def Refusal.message : Refusal → String
  | unknownParameter name => "MockInstrument: unknown parameter '" ++ name ++ "'"
  | write number value name =>
    "MockInstrument: write #" ++ toString number ++ " of " ++ valueText value ++ " to '" ++ name
      ++ "' rejected"
  | noActiveCup => "MockInstrument: no active cup configuration"
  | unknownCup identifier =>
    "MockInstrument: unknown cup configuration id '" ++ identifier ++ "'"
  | cupChange => "MockInstrument: configuration change rejected"
  | unknownCollector collector cup =>
    "MockInstrument: no collector '" ++ collector ++ "' in '" ++ cup ++ "'"
  | reported reason => reason

/-- The operations of a mass spectrometer. -/
class Instrument (σ : Type) where
  readParameter : σ → String → Except Refusal Float
  writeParameter : σ → String → Float → Except Refusal Unit × σ
  cups : σ → Except Refusal (List Cup)
  /-- The names of the active cup and sub-cup configuration. -/
  activePair : σ → Except Refusal (String × String)
  /-- Make a cup and sub-cup configuration active, given by their identifiers. -/
  setActive : σ → (cup subCup : String) → Except Refusal Unit × σ
  /-- Transfer the hardware parameters of a cup and sub-cup configuration. -/
  pushHardwareParameters : σ → (cup subCup : String) → Except Refusal Unit × σ
  /-- Ask for the physical switch to the active configuration. -/
  requestCupChange : σ → Except Refusal Unit × σ
  switchCollector : σ → (cup collector : String) → Bool → Except Refusal Unit × σ
  prepareScan : σ → Except Refusal Unit × σ
  measurement : σ → Except Refusal Measurement
  beginMonitoring : σ → Measurement → Except Refusal Unit × σ
  applyTune : σ → Tune → Except Refusal Unit × σ
  acquire : σ → UInt64 → Spectrum

end SpectroRemote
