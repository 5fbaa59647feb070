import SpectroRemote.Settings.Environment
import SpectroRemote.Settings.Schema
import SpectroRemote.Settings.Validation
import SpectroRemote.Toml.Reader
import SpectroRemote.Toml.StandIn

/-!
# Loading settings

The settings of the server are the built-in ones, with those of a configuration file over them and
those of the environment over both. A value of the environment that cannot be told ends the loading
before anything else. Then a file that cannot be read as such is the first thing to be reported,
then the first setting of the wrong kind, then the first rule that the settings break.
-/

namespace SpectroRemote

structure SettingsFile where
  path : String
  text : String
deriving Repr, DecidableEq

inductive LoadFailure
  /-- The quoted text of a variable would be cut inside a character. -/
  | cutCharacter
  | malformed
  | mismatch (m : Mismatch)
  | broken (rule : BrokenRule)
deriving Repr, DecidableEq

def LoadFailure.failure : LoadFailure → Failure
  | cutCharacter => .unreadableSettings "a quoted text is cut inside a character"
  | malformed => .unreadableSettings "TOML parse error"
  | mismatch m => .unreadableSettings m.message
  | broken rule => .invalidSettings rule.message

/-- The exit code of a program that ends for want of settings. -/
def LoadFailure.exitCode : LoadFailure → UInt32
  | cutCharacter => 101
  | _ => 1

namespace Settings

def builtInLayer : Setting := .ofValue .builtIn (codec.write {})

/-- The layer of a configuration file, which may be missing. -/
def fileLayer : Option SettingsFile → Except LoadFailure Setting
  | none => .ok (.table (.file "") [])
  | some file =>
    match (Toml.read? file.text).bind Toml.Value.resolveEntries? with
    | some entries => .ok (.table (.file file.path) (Setting.ofEntries (.file file.path) entries))
    | none => .error .malformed

def environmentLayer (environment : List (String × String)) : Except LoadFailure Setting :=
  match Environment.layer? environment with
  | some layer => .ok layer
  | none => .error .cutCharacter

/-- Loads settings from a configuration file, if there is one, and from variables. -/
def load (file : Option SettingsFile) (environment : List (String × String)) :
    Except LoadFailure Settings := do
  let fromEnvironment ← environmentLayer environment
  let layers := (builtInLayer.merge (← fileLayer file)).merge fromEnvironment
  let s ← (codec.read layers).mapError .mismatch
  s.validate.mapError .broken
  return s

end Settings

end SpectroRemote
