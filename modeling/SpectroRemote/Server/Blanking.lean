import SpectroRemote.Server

/-!
# Blanking the beam

The beam is blanked by a y symmetry far off the axis and is restored with the y symmetry from
before. That value is taken once, when the beam is blanked. A request for the state that already
holds does nothing, and a refused write leaves the state as it was.
-/

namespace SpectroRemote.Server

variable {σ : Type} [Instrument σ]

/-- Blanks the beam, which is not blanked. -/
def blankBeam (st : Station) (s : Server σ) : String × Server σ :=
  let parameter := st.settings.hardware.ySymmetry
  match s.read parameter with
  | .error e => (e.reply, s)
  | .ok current =>
    match s.write parameter st.settings.beamBlank.blankValue with
    | (.error e, s) => (e.reply, s)
    | (.ok (), s) => (doneReply, { s with blank := ⟨true, current⟩ }.log .info "Beam blanked")

/-- Restores the beam, which is blanked. -/
def unblankBeam (st : Station) (s : Server σ) : String × Server σ :=
  match s.write st.settings.hardware.ySymmetry s.blank.restore with
  | (.error e, s) => (e.reply, s)
  | (.ok (), s) =>
    (doneReply, { s with blank := { s.blank with isBlanked := false } }.log .info "Beam unblanked")

/-- Blanks or restores the beam, if blanking is enabled. -/
def switchBlanking (st : Station) (s : Server σ) (blank : Bool) : String × Server σ :=
  if !st.settings.beamBlank.enabled then (doneReply, s)
  else match blank, s.blank.isBlanked with
    | true, false => s.blankBeam st
    | false, true => s.unblankBeam st
    | _, _ => (doneReply, s)

/-- Takes the present y symmetry as the one to restore. -/
def primeBlank (st : Station) (s : Server σ) : Server σ :=
  match s.read st.settings.hardware.ySymmetry with
  | .ok v => { s with blank := { s.blank with restore := v } }
  | .error _ => s.log .warn "Could not read initial Y-Symmetry"

end SpectroRemote.Server
