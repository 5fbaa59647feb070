import Mathlib.Tactic.Lemma
import SpectroRemote.Instrument

/-!
# Recorded writes

An instrument of any kind together with a record of the writes that it accepted. The record is kept
beside the instrument, which does not notice it.
-/

namespace SpectroRemote

/-- An instrument and the writes that it accepted, in order. -/
structure Recorder (σ : Type) where
  instrument : σ
  accepted : List (String × Float) := []

namespace Recorder

variable {σ : Type}

/-- Goes on with another state of the instrument, and with `writes` added to the record. -/
def proceed (r : Recorder σ) (result : Except Refusal Unit × σ)
    (writes : List (String × Float) := []) : Except Refusal Unit × Recorder σ :=
  (result.1, ⟨result.2, r.accepted ++ writes⟩)

/-- The record of an attempt to write with this answer. -/
def entry (name : String) (v : Float) : Except Refusal Unit → List (String × Float)
  | .ok () => [(name, v)]
  | .error _ => []

variable [Instrument σ]

instance : Instrument (Recorder σ) where
  readParameter r name := Instrument.readParameter r.instrument name
  writeParameter r name v :=
    let result := Instrument.writeParameter r.instrument name v
    r.proceed result (entry name v result.1)
  cups r := Instrument.cups r.instrument
  activePair r := Instrument.activePair r.instrument
  setActive r cup subCup := r.proceed (Instrument.setActive r.instrument cup subCup)
  pushHardwareParameters r cup subCup :=
    r.proceed (Instrument.pushHardwareParameters r.instrument cup subCup)
  requestCupChange r := r.proceed (Instrument.requestCupChange r.instrument)
  switchCollector r cup collector active :=
    r.proceed (Instrument.switchCollector r.instrument cup collector active)
  prepareScan r := r.proceed (Instrument.prepareScan r.instrument)
  measurement r := Instrument.measurement r.instrument
  beginMonitoring r m := r.proceed (Instrument.beginMonitoring r.instrument m)
  applyTune r t := r.proceed (Instrument.applyTune r.instrument t)
  acquire r cycle := Instrument.acquire r.instrument cycle

/-- An attempt is recorded exactly when it is accepted. -/
lemma accepted_of_writeParameter {r r' : Recorder σ} {name : String} {v : Float}
    {answer : Except Refusal Unit} (h : Instrument.writeParameter r name v = (answer, r')) :
    r'.accepted = r.accepted ++ entry name v answer := by
  obtain ⟨rfl, rfl⟩ := Prod.mk.inj h
  rfl

end Recorder

end SpectroRemote
