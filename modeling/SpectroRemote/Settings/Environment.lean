import SpectroRemote.Decimal.Reader
import SpectroRemote.Decimal.Whole
import SpectroRemote.Settings.Environment.Quoted
import SpectroRemote.Settings.Mismatch
import SpectroRemote.Text.Blank
import SpectroRemote.Text.Fields

/-!
# Settings from the environment

A variable whose name begins with the prefix, in any letter case, sets what the rest of its name
says: two underscores or a point stand between the keys, and capitals count as small letters.

A value is `true`, `false`, a number, a text in double quotes, a character in single ones, a list
`[a, b]`, a table `{k = v}` or a plain text, which is taken without the blanks around it. A text of
which only a part follows these rules stands for itself, with all its blanks.
-/

namespace SpectroRemote.Environment

/-! ### Values -/

/-- A blank between the parts of a value. -/
def isGap (c : Char) : Bool := [' ', '\t', '\n', '\r', '\x0c'].contains c

def dropGap (s : List Char) : List Char := s.dropWhile isGap

/-- A character that can be part of a value without quotes. -/
def isPlain (c : Char) : Bool :=
  !([',', '\x7b', '\x7d', '[', ']'] : List Char).contains c

def isKeyChar (c : Char) : Bool := c.isAlphanum || c == '_' || c == '-'

/-- What a value without quotes and brackets stands for. Only with a point is a number a
floating-point number. -/
def plainScalar (s : List Char) : Scalar :=
  match (if s.contains '.' then Decimal.read? s else none) with
  | some v => .float v
  | none =>
    match Decimal.readNatural? UInt64.size s with
    | some n => .unsigned n
    | none =>
      match Decimal.readInteger? 64 s with
      | some n => .signed n
      | none => .text (String.ofList s)

/-- Reads items with commas between them, up to and with the bracket that closes them. A comma may
stand after the last item. -/
def readItems {α : Type} (closing : Char) (item : PartReader α) (s : List Char) :
    Except Stop (List α × List Char) :=
  if s.head? = some closing then .ok ([], s.tail)
  else match item s with
    | .error e => .error e
    | .ok (a, rest) =>
      if rest.head? = some closing then .ok ([a], rest.tail)
      else if rest.head? = some ',' then
        if _h : rest.tail.length < s.length then
          (readItems closing item rest.tail).map fun (as, rest) => (a :: as, rest)
        else .error .mismatch
      else .error .mismatch
termination_by s.length
decreasing_by exact _h

def readKey : PartReader String
  | '"' :: s => Quoted.read s
  | s =>
    let (key, rest) := s.span isKeyChar
    if key.isEmpty then .error .mismatch else .ok (String.ofList key, rest)

def readPair (value : PartReader Setting) : PartReader (String × Setting) := fun s =>
  match readKey (dropGap s) with
  | .error e => .error e
  | .ok (key, rest) =>
    match dropGap rest with
    | '=' :: rest => (value (dropGap rest)).map fun (v, rest) => ((key, v), dropGap rest)
    | _ => .error .mismatch

/-- The table of a list of entries; of entries of one key the last stays. -/
def tableOf (entries : List (String × Setting)) : Setting :=
  .table .environment (entries.foldl (fun t (key, v) => Keyed.insert key v t) [])

/-- Reads a value with blanks around it; lists and tables are nested less than `depth` deep. -/
def readValue : (depth : Nat) → PartReader Setting
  | 0, _ => .error .mismatch
  | depth + 1, s =>
    let scalar (v : Scalar) (rest : List Char) : Except Stop (Setting × List Char) :=
      .ok (.scalar .environment v, dropGap rest)
    match dropGap s with
    | 't' :: 'r' :: 'u' :: 'e' :: rest => scalar (.flag true) rest
    | 'f' :: 'a' :: 'l' :: 's' :: 'e' :: rest => scalar (.flag false) rest
    | '\x7b' :: rest =>
      (readItems '\x7d' (readPair (readValue depth)) rest).map fun (entries, rest) =>
        (tableOf entries, dropGap rest)
    | '[' :: rest =>
      (readItems ']' (readValue depth) rest).map fun (items, rest) =>
        (.list .environment items, dropGap rest)
    | '"' :: rest => (Quoted.read rest).bind fun (t, rest) => scalar (.text t) rest
    | '\'' :: c :: '\'' :: rest => scalar (.letter c) rest
    | '\'' :: _ => .error .mismatch
    | s =>
      let (plain, rest) := s.span isPlain
      scalar (plainScalar (Text.trim plain)) rest

/-- What the value of a variable stands for, unless it cannot be told at all. -/
def value? (text : String) : Option Setting :=
  let s := text.toList
  match readValue (s.length + 1) s with
  | .ok (v, []) => some v
  | .error .cutCharacter => none
  | _ => some (.scalar .environment (.text text))

/-! ### Names -/

/-- A name with a point for every two underscores. -/
def pointed : List Char → List Char
  | '_' :: '_' :: s => '.' :: pointed s
  | c :: s => c :: pointed s
  | [] => []

/-- What follows the prefix in a name, if the name has it. -/
def afterPrefix? (name : List Char) : Option (List Char) :=
  let start := variablePrefix.toList
  let lower (s : List Char) : List Char := s.map Char.toLower
  if lower (name.take start.length) = lower start then some (name.drop start.length) else none

/-- The keys that the name of a variable leads to. -/
def path? (name : String) : Option (List String) :=
  (afterPrefix? (Text.trim name.toList)).bind fun rest =>
    let keys := Text.fields '.' ((Text.trim (pointed rest)).map Char.toLower)
    if keys.any (·.isEmpty) then none else some (keys.map String.ofList)

def nested : List String → Setting → Setting
  | [], v => v
  | key :: path, v => .table .environment [(key, nested path v)]

/-- The layer of a list of variables; later ones win. There is none if it cannot be told what one
of the values stands for. -/
def layer? (environment : List (String × String)) : Option Setting :=
  environment.foldlM (fun settings (name, text) =>
    match path? name with
    | some path => (value? text).map fun v => settings.merge (nested path v)
    | none => some settings) (.table .environment [])

end SpectroRemote.Environment
