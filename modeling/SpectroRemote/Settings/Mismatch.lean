import SpectroRemote.Decimal.Positional
import SpectroRemote.Settings.Setting
import SpectroRemote.Text.Quoted

/-!
# Settings of the wrong kind

Why a setting cannot be used, and the message that says so: what was found, what was expected, at
which key, and where it was set.
-/

namespace SpectroRemote

inductive Fault
  | wrongKind (found expected : String)
  | outOfRange (found expected : String)
  | unknownWord (word : String) (known : List String)
deriving Repr, DecidableEq

/-- A setting that cannot be used. -/
structure Mismatch where
  fault : Fault
  /-- The keys that lead to the setting. -/
  path : List String
  source : Source
deriving Repr, DecidableEq

def describedText (s : List Char) : String := "string " ++ String.ofList (Text.quoted '"' s)

def Scalar.description : Scalar → String
  | .text s => describedText s.toList
  | .letter c => describedText [c]
  | .flag b => "bool " ++ toString b
  | .signed n => "signed int `" ++ toString n ++ "`"
  | .unsigned n => "unsigned int `" ++ toString n ++ "`"
  | .float v => "float `" ++ valueText v ++ "`"

def Setting.description : Setting → String
  | .scalar _ v => v.description
  | .list _ _ => "sequence"
  | .table _ _ => "map"

def choice (words : List String) : String :=
  match words.map fun w => "`" ++ w ++ "`" with
  | [] => "none"
  | [a] => a
  | [a, b] => a ++ " or " ++ b
  | many => "one of " ++ ", ".intercalate many

def Fault.message : Fault → String
  | wrongKind found expected => "invalid type: found " ++ found ++ ", expected " ++ expected
  | outOfRange found expected => "invalid value " ++ found ++ ", expected " ++ expected
  | unknownWord word known =>
    "unknown variant: found `" ++ word ++ "`, expected `" ++ choice known ++ "`"

/-- What the names of environment variables begin with. -/
def variablePrefix : String := "RUST_RCS_"

/-- A path in the form of its source: the keys of variables are in capitals, those of other sources
stand below the name of the profile. -/
def Source.keyText (source : Source) (path : List String) : String :=
  match source with
  | environment =>
    ".".intercalate (path.map fun key => String.ofList (key.toList.map Char.toUpper))
  | _ => ".".intercalate ("default" :: path)

def Source.description : Source → String
  | builtIn => "built-in settings"
  | file path => path ++ " TOML file"
  | environment => "`" ++ variablePrefix ++ "` environment variable(s)"

namespace Mismatch

def message (m : Mismatch) : String :=
  let key := m.source.keyText m.path
  m.fault.message ++ " for key " ++ String.ofList (Text.quoted '"' key.toList) ++ " in "
    ++ m.source.description

/-- The same mismatch, seen from the table or list around it. -/
def under (key : String) (m : Mismatch) : Mismatch := { m with path := key :: m.path }

def wrongKind (s : Setting) (expected : String) : Mismatch :=
  ⟨.wrongKind s.description expected, [], s.source⟩

def outOfRange (s : Setting) (expected : String) : Mismatch :=
  ⟨.outOfRange s.description expected, [], s.source⟩

end Mismatch

end SpectroRemote
