import SpectroRemote.Table
import SpectroRemote.Toml.Value

/-!
# Layers of settings

Settings are made in layers: the built-in values, a configuration file, the environment. A layer is
a table that holds a table for every section. A later layer wins over an earlier one; tables are
merged key by key, everything else is replaced as a whole. Each part of the outcome remembers where
it was set.
-/

namespace SpectroRemote

/-- Where a setting was made. -/
inductive Source
  | builtIn
  | file (path : String)
  | environment
deriving Repr, DecidableEq

/-- A value without parts. -/
inductive Scalar
  | text (s : String)
  | letter (c : Char)
  | flag (b : Bool)
  | signed (n : Int)
  | unsigned (n : Nat)
  | float (v : Float)
deriving Repr, DecidableEq

/-- A value together with where it was set. The entries of a table are in ascending order. -/
inductive Setting
  | scalar (source : Source) (v : Scalar)
  | list (source : Source) (items : List Setting)
  | table (source : Source) (entries : List (String × Setting))

namespace Setting

def source : Setting → Source
  | scalar source _ | list source _ | table source _ => source

mutual

/-- A value with a later one over it. -/
def merge (earlier : Setting) : Setting → Setting
  | table source later =>
    match earlier with
    | table _ entries => table source (mergeEntries entries later)
    | _ => table source later
  | later => later

def mergeEntries (entries : List (String × Setting)) :
    List (String × Setting) → List (String × Setting)
  | [] => entries
  | (key, v) :: later =>
    let merged := match Keyed.find? key entries with
      | some earlier => merge earlier v
      | none => v
    mergeEntries (Keyed.insert key merged entries) later

end

/-- The key under which the text of a date or a time is found in a table of its own. -/
def momentKey : String := "$__toml_private_datetime"

mutual

/-- A value of a configuration file as a setting. -/
def ofValue (source : Source) : Toml.Value → Setting
  | .text s => scalar source (.text s)
  | .integer n => scalar source (.signed n)
  | .float v => scalar source (.float v)
  | .boolean b => scalar source (.flag b)
  | .moment m => table source [(momentKey, scalar source (.text (String.ofList m.text)))]
  | .array items => list source (ofItems source items)
  | .table _ entries => table source (ofEntries source entries)
  | .tables earlier current =>
    list source (ofItems source earlier ++ [table source (ofEntries source current)])

def ofItems (source : Source) : List Toml.Value → List Setting
  | [] => []
  | v :: items => ofValue source v :: ofItems source items

/-- The entries of a table as settings, in ascending order. -/
def ofEntries (source : Source) : List (String × Toml.Value) → List (String × Setting)
  | [] => []
  | (key, v) :: entries => Keyed.insert key (ofValue source v) (ofEntries source entries)

end

end Setting

end SpectroRemote
