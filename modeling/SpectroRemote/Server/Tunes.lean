import SpectroRemote.Server

/-!
# Applying tunes
-/

namespace SpectroRemote

def Station.tuneList (st : Station) : String := ",".intercalate st.tunes.keys

namespace Server

variable {σ : Type} [Instrument σ]

def applyTune (st : Station) (s : Server σ) (name : String) : Except Failure Unit × Server σ :=
  let failure := Failure.tune ("could not set tuning settings " ++ name)
  match st.tunes.get? name with
  | none => (.error failure, s.log .error ("Could not load tune setting '" ++ name ++ "'"))
  | some tune =>
    match Instrument.applyTune s.instrument tune with
    | (.error _, i) =>
      (.error failure,
        { s with instrument := i }.log .error
          ("Tune setting '" ++ name ++ "' could not be applied"))
    | (.ok (), i) =>
      (.ok (),
        { s with instrument := i }.log .info
          ("Tune setting '" ++ name ++ "' successfully loaded"))

end Server

end SpectroRemote
