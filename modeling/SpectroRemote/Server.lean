import SpectroRemote.Activity
import SpectroRemote.Failure
import SpectroRemote.Instrument
import SpectroRemote.LogLevel
import SpectroRemote.Settings

/-!
# The state of the server

What the server remembers between requests, together with the instrument that it drives, and the
reading and writing of instrument parameters. Every read or write is attempted exactly once.
-/

namespace SpectroRemote

/-- Whether the beam is blanked, and the y symmetry to restore afterwards. -/
structure Blanking where
  isBlanked : Bool := false
  restore : Float := 0
deriving Repr, DecidableEq, Inhabited

/-- What does not change while the server runs. -/
structure Station where
  settings : Settings := {}
  tunes : TuneStore := .empty

/-- The state of a server that drives an instrument. -/
structure Server (σ : Type) where
  instrument : σ
  blank : Blanking := {}
  /-- The latest scan snapshot; empty before the first one. -/
  snapshot : String := ""
  /-- All subscriptions there have been, from the oldest on. -/
  subscriptions : List Subscription := []
  /-- The activities that wait for their turn, in its order. -/
  ready : List Activity := []
  /-- The activities that wait for the next round of turns, from the latest on. -/
  postponed : List Activity := []
  /-- The acquisitions that wait until they are due, in the order in which they began to wait. -/
  sleeping : List Acquisition := []
  /-- The time in milliseconds. -/
  clock : Nat := 0
  journal : Array Event := #[]

namespace Server

variable {σ : Type}

def log (s : Server σ) (level : LogLevel) (message : String) : Server σ :=
  { s with journal := s.journal.push ⟨level, message⟩ }

/-! ### Parameters -/

variable [Instrument σ]

def doneReply : String := "OK"

def read (s : Server σ) (name : String) : Except Failure Float :=
  match Instrument.readParameter s.instrument name with
  | .ok v => .ok v
  | .error _ => .error (.unreadable name)

def write (s : Server σ) (name : String) (v : Float) : Except Failure Unit × Server σ :=
  match Instrument.writeParameter s.instrument name v with
  | (.ok (), i) => (.ok (), { s with instrument := i })
  | (.error _, i) =>
    (.error (.writeRefused name v),
      { s with instrument := i }.log .warn "Parameter write rejected")

/-- The reply that shows a parameter, multiplied by `scale`. -/
def scaledReadout (s : Server σ) (name : String) (scale : Float) : String :=
  match s.read name with
  | .ok v => valueText (v * scale)
  | .error e => e.reply

def readout (s : Server σ) (name : String) : String := s.scaledReadout name 1

def writeAndReply (s : Server σ) (name : String) (v : Float) : String × Server σ :=
  match s.write name v with
  | (.ok (), s) => (doneReply, s)
  | (.error e, s) => (e.reply, s)

end Server

end SpectroRemote
