import SpectroRemote.Decimal.Positional
import SpectroRemote.Toml.Quoted
import SpectroRemote.Toml.Reader

/-!
# Writing configuration files

Each statement stands on a line of its own, and a blank line stands before each header but the first
line of a file. Arrays of two or more items have each item on a line of its own. Floating-point
numbers have no exponent and always a point.
-/

namespace SpectroRemote.Toml

/-! ### Keys -/

/-- A key, without quotes if it can do without them. -/
def keyText (key : String) : List Char :=
  let s := key.toList
  let escapes := s.any fun c => isControl c
  if !s.isEmpty && s.all isKeyChar then s
  else if !escapes && !s.contains '\\' && !s.contains '"' then Quoted.write .basic s
  else if !escapes && !s.contains '\'' then Quoted.write .literal s
  else Quoted.write .basic s

def joined (separator : List Char) (texts : List (List Char)) : List Char :=
  List.intercalate separator texts

def Path.text (p : Path) : List Char := joined ['.'] (p.keys.map keyText)

/-! ### Values -/

def floatText (v : Float) : List Char :=
  if v.isNaN then ['n', 'a', 'n']
  else
    let digits := Decimal.text v
    if v.isFinite && !digits.contains '.' then digits ++ ['.', '0'] else digits

def arrayText (items : List (List Char)) : List Char :=
  match items with
  | [] => ['[', ']']
  | [item] => '[' :: item ++ [']']
  | items =>
    ['[', '\n'] ++ items.flatMap (fun item => [' ', ' ', ' ', ' '] ++ item ++ [',', '\n']) ++ [']']

/-- The text of a table that is written as one value, given those of its entries. -/
def inlineText (entries : List (List Char)) : List Char :=
  match entries with
  | [] => ['\x7b', '\x7d']
  | entries => ['\x7b', ' '] ++ joined [',', ' '] entries ++ [' ', '\x7d']

mutual

def Value.toChars : Value → List Char
  | .text s => Quoted.write (Quoted.styleOf s.toList) s.toList
  | .integer n => (toString n).toList
  | .float v => floatText v
  | .boolean b => if b then ['t', 'r', 'u', 'e'] else ['f', 'a', 'l', 's', 'e']
  | .moment m => m.text
  | .array items => arrayText (Value.itemTexts items)
  | .table _ entries => inlineText (Value.entryTexts entries)
  | .tables earlier current =>
    arrayText (Value.itemTexts earlier ++ [inlineText (Value.entryTexts current)])

def Value.itemTexts : List Value → List (List Char)
  | [] => []
  | v :: rest => v.toChars :: Value.itemTexts rest

def Value.entryTexts : List (String × Value) → List (List Char)
  | [] => []
  | (key, v) :: rest => (keyText key ++ [' ', '=', ' '] ++ v.toChars) :: Value.entryTexts rest

end

/-! ### Statements -/

def Statement.line : Statement → List Char
  | .table path => '[' :: path.text ++ [']']
  | .element path => ['[', '['] ++ path.text ++ [']', ']']
  | .assign path v => path.text ++ [' ', '=', ' '] ++ v.toChars

/-- Whether a statement opens a table. -/
def Statement.isHeader : Statement → Bool
  | .table _ | .element _ => true
  | .assign _ _ => false

/-- The lines of statements that are not the first ones of a file. -/
def laterLines : List Statement → List Char
  | [] => []
  | s :: rest => (if s.isHeader then ['\n'] else []) ++ s.line ++ '\n' :: laterLines rest

def write : List Statement → List Char
  | [] => []
  | s :: rest => s.line ++ '\n' :: laterLines rest

end SpectroRemote.Toml
