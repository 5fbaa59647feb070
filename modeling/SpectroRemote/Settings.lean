import SpectroRemote.Table

/-!
# Settings

Everything about the server that can be configured. Each setting has a default.
-/

namespace SpectroRemote

inductive LogFormat
  | pretty
  | compact
  | json
deriving Repr, DecidableEq, Inhabited

/-- The kind of socket that requests arrive on. -/
inductive TransportMode
  | udp
  | tcp
deriving Repr, DecidableEq, Inhabited

structure ApplicationSettings where
  name : String := "Remote Control Server"
  logLevel : String := "info"
  logFormat : LogFormat := .compact

structure TransportSettings where
  mode : TransportMode := .udp
  bindAddress : String := "0.0.0.0"
  port : UInt16 := 1069
  /-- The size of the receive buffer in bytes. -/
  bufferSize : UInt64 := 1024

def TransportSettings.socketAddress (t : TransportSettings) : String :=
  t.bindAddress ++ ":" ++ toString t.port.toNat

structure MagnetSettings where
  /-- A move farther than this is made in steps. -/
  moveThreshold : Float := 0.25
  steps : UInt32 := 20
  /-- The pause between steps in milliseconds. -/
  stepTime : UInt64 := 0

structure BeamBlankSettings where
  enabled : Bool := false
  /-- The y symmetry while the beam is blanked. -/
  blankValue : Float := -50

structure ScanSettings where
  /-- Whether readings carry the tags of their detectors. -/
  tagData : Bool := true
  /-- The tag of the ion counter, whose reading comes last. -/
  ionCounterTag : String := "CDD"
  /-- How many spectra may wait to be processed. -/
  channelCapacity : UInt64 := 16
  allowIntegrationTimeChange : Bool := false
  detectors : Table String :=
    .ofList [("CUP 4", "H2"), ("CUP 3", "H1"), ("CUP 2", "AX"), ("CUP 1", "L1"), ("CUP 0", "L2"),
      ("CDD 0", "CDD")]

structure CupSettings where
  /-- The cup configuration whose sub-cups can be activated. -/
  cupConfiguration : String := "Argon"
  /-- The parameters that are reported together. -/
  subCupParameters : List String :=
    ["Deflection H2 Set", "Deflection H1 Set", "Deflection AX Set", "Deflection L1 Set",
      "Deflection L2 Set", "Deflection CDD Set", "CDD Supply Set"]

/-- The names of the parameters that some verbs address. -/
structure HardwareSettings where
  magnetDac : String := "Field Set"
  ySymmetry : String := "Y-Symmetry Set"
  ionPumpValve : String := "Valve Ion Pump Set"

structure Settings where
  application : ApplicationSettings := {}
  transport : TransportSettings := {}
  magnet : MagnetSettings := {}
  beamBlank : BeamBlankSettings := {}
  scan : ScanSettings := {}
  cups : CupSettings := {}
  hardware : HardwareSettings := {}

end SpectroRemote
