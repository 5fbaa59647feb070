import SpectroRemote.Failure
import SpectroRemote.Settings.Schema
import SpectroRemote.Toml.Printer

/-!
# Settings as a configuration file

All settings written as the text of a configuration file: a table for each section and one for the
detectors. A number that the format cannot hold is refused.
-/

namespace SpectroRemote

namespace Toml

/-- Whether a value gets a header of its own. -/
def Value.isTable : Value → Bool
  | .table _ _ => true
  | _ => false

/-- The assignments for the entries of a table that are not tables. -/
def assignmentsOf (entries : List (String × Value)) : List Statement :=
  (entries.filter fun e => !e.2.isTable).map fun (key, v) => .assign ⟨[], key⟩ v

/-- The statements for the tables among the entries of the table at `scope`. -/
def sectionsOf (scope : List String) : List (String × Value) → List Statement
  | [] => []
  | (key, .table _ entries) :: rest =>
    .table ⟨scope, key⟩ :: assignmentsOf entries ++ sectionsOf (scope ++ [key]) entries
      ++ sectionsOf scope rest
  | _ :: rest => sectionsOf scope rest

/-- Whether a statement assigns an integer that does not fit 64 bits with a sign. -/
def Statement.overflows : Statement → Bool
  | .assign _ (.integer n) => Int64.maxValue.toInt < n
  | _ => false

end Toml

namespace Settings

def statements (s : Settings) : List Toml.Statement :=
  match codec.write s with
  | .table _ entries => Toml.assignmentsOf entries ++ Toml.sectionsOf [] entries
  | _ => []

def render (s : Settings) : Except Failure String :=
  if s.statements.any Toml.Statement.overflows then
    .error (.invalidSettings "out-of-range value for u64 type")
  else .ok (String.ofList (Toml.write s.statements))

end Settings

end SpectroRemote
