import SpectroRemote.LogLevel
import SpectroRemote.Settings

/-!
# Logging

Which events are logged, and in what form.
-/

namespace SpectroRemote

structure Logging where
  level : LogLevel
  format : LogFormat
deriving Repr, DecidableEq

def Settings.logging (s : Settings) : Except String Logging := do
  return ⟨← LogLevel.parse s.application.logLevel, s.application.logFormat⟩

end SpectroRemote
