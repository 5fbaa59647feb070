import SpectroRemote.Toml.Value

/-!
# Statements

A configuration file is a list of statements: headers, each of which opens a table for the
assignments after it, and assignments to keys of the open table. A dotted key names a table inside
the open one.

A table is opened at most once and a key is assigned at most once. What was written as one value
cannot be extended, and neither can a table with a header of its own by a dotted key.
-/

namespace SpectroRemote.Toml

/-- The way to a key: the keys of the tables around it, and the key itself. -/
structure Path where
  tables : List String
  key : String
deriving Repr, DecidableEq

/-- All keys of a path, from the outside in. -/
def Path.keys (p : Path) : List String := p.tables ++ [p.key]

inductive Statement
  | table (path : Path)
  /-- Opens one more table in a list of tables. -/
  | element (path : Path)
  | assign (path : Path) (v : Value)

namespace Entries

/-- Makes a change to the table at the end of a path, starting from the entries of a table of the
given form. Tables that are missing on the way are made, of form `made`. -/
def changeAt? (made : TableForm) (change : TableForm → Entries → Option Entries) :
    List String → TableForm → Entries → Option Entries
  | [], form, entries => change form entries
  | key :: path, _, entries =>
    match entries.find? key with
    | none => do
      let inside ← changeAt? made change path made []
      return entries.set key (.table made inside)
    | some (.table form inside) =>
      if form = .inline || (made = .dotted && form = .header) then none
      else do
        let inside ← changeAt? made change path form inside
        return entries.set key (.table form inside)
    | some (.tables earlier current) => do
      let current ← changeAt? made change path .header current
      return entries.set key (.tables earlier current)
    | some _ => none

/-- Gives a key a value that it does not have yet. -/
def define? (key : String) (v : Value) (entries : Entries) : Option Entries :=
  match entries.find? key with
  | none => some (entries.set key v)
  | some _ => none

/-- Carries out an assignment. Only tables made by dotted keys take further dotted keys. -/
def assign? (path : Path) (v : Value) (entries : Entries) : Option Entries :=
  let dotted := !path.tables.isEmpty
  changeAt? .dotted
    (fun form inside => if (form == .dotted) == dotted then define? path.key v inside else none)
    path.tables .header entries

/-- Opens a table. It may be there already if only the headers of other tables named it. -/
def openTable? (path : Path) (entries : Entries) : Option Entries :=
  changeAt? .implied
    (fun _ inside =>
      match inside.find? path.key with
      | none => some (inside.set path.key (.table .header []))
      | some (.table .implied deeper) => some (inside.set path.key (.table .header deeper))
      | some _ => none)
    path.tables .header entries

def openElement? (path : Path) (entries : Entries) : Option Entries :=
  changeAt? .implied
    (fun _ inside =>
      match inside.find? path.key with
      | none => some (inside.set path.key (.tables [] []))
      | some (.tables earlier current) =>
        some (inside.set path.key (.tables (earlier ++ [.table .header current]) []))
      | some _ => none)
    path.tables .header entries

/-- Carries out statements one after the other; `scope` is the path of the open table. -/
def perform? : (scope : List String) → List Statement → Entries → Option Entries
  | _, [], entries => some entries
  | _, .table path :: rest, entries => do perform? path.keys rest (← openTable? path entries)
  | _, .element path :: rest, entries => do perform? path.keys rest (← openElement? path entries)
  | scope, .assign path v :: rest, entries => do
    perform? scope rest (← changeAt? .implied (fun _ => assign? path v) scope .header entries)

def ofStatements? (statements : List Statement) : Option Entries := perform? [] statements []

def ofAssignments? (assignments : List (Path × Value)) : Option Entries :=
  assignments.foldlM (fun entries (path, v) => assign? path v entries) []

end Entries

end SpectroRemote.Toml
