import SpectroRemote.Toml.Moment

/-!
# Values of configuration files

What a configuration file can say of a key. The entries of a table are listed in the order in which
they were defined.
-/

namespace SpectroRemote.Toml

/-- How a table came to be, which decides how it can be extended. -/
inductive TableForm
  /-- Written as one value: it is complete. -/
  | inline
  /-- Opened by a header of its own. -/
  | header
  /-- Named in the header of a table inside it. -/
  | implied
  /-- Named in a dotted key. -/
  | dotted
deriving Repr, DecidableEq, Inhabited

inductive Value
  | text (s : String)
  | integer (n : Int)
  | float (v : Float)
  | boolean (b : Bool)
  | moment (m : Moment)
  | array (items : List Value)
  | table (form : TableForm) (entries : List (String × Value))
  /-- Tables with a common header, of which only the last can still be extended. -/
  | tables (earlier : List Value) (current : List (String × Value))

/-- The entries of a table, in the order of their definition. -/
abbrev Entries := List (String × Value)

namespace Entries

def find? (entries : Entries) (key : String) : Option Value := entries.lookup key

/-- Entries with the value of a key replaced, or with a new entry at the end. -/
def set (entries : Entries) (key : String) (v : Value) : Entries :=
  match entries with
  | [] => [(key, v)]
  | e :: rest => if e.1 = key then (key, v) :: rest else e :: set rest key v

end Entries

end SpectroRemote.Toml
