import SpectroRemote.Magnet
import SpectroRemote.Server.Time

/-!
# Moving the magnet

A move is carried out write by write, with pauses in between. A refused write is recorded and the
remaining ones are still made; the reply is that to the last one.
-/

namespace SpectroRemote.Server

variable {σ : Type} [Instrument σ]

def writeSetpoint (st : Station) (s : Server σ) (field : Float) : String × Server σ :=
  match s.write st.settings.hardware.magnetDac field with
  | (.ok (), s) => (doneReply, s)
  | (.error e, s) => (e.reply, s.log .warn "Magnet step failed, continuing")

def pause (st : Station) (s : Server σ) : Server σ := s.elapse st st.settings.magnet.stepTime.toNat

/-- Writes the fields of a move after the first one, each after a pause. The reply so far is that to
the write before. -/
def continueMove (st : Station) : List Float → String × Server σ → String × Server σ
  | [], r => r
  | field :: rest, (_, s) => continueMove st rest ((s.pause st).writeSetpoint st field)

def carryOut (st : Station) (s : Server σ) : List Float → String × Server σ
  | [] => (doneReply, s)
  | field :: rest => continueMove st rest (s.writeSetpoint st field)

def setMagnet (st : Station) (s : Server σ) (target : Float) : String × Server σ :=
  match s.read st.settings.hardware.magnetDac with
  | .error e => (e.reply, s)
  | .ok current =>
    let move := st.settings.magnet.plan current target
    let s := if move.isDivided then s.log .info "Stepping magnet DAC" else s
    s.carryOut st move.setpoints

end SpectroRemote.Server
