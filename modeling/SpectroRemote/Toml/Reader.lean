import SpectroRemote.Toml.Bare
import SpectroRemote.Toml.Quoted
import SpectroRemote.Toml.Statement

/-!
# Reading configuration files

The text of a configuration file is read into statements, and these into the entries that they
define. A text that is no such file is refused as a whole.

Arrays may be spread over lines, with comments between the items and a comma after the last one; a
table written as one value stands on one line and has no such comma.
-/

namespace SpectroRemote.Toml

open Text (Reader)

/-- How deep values can be nested, and how many keys a path can have. -/
def maxDepth : Nat := 79

/-! ### Blanks and comments -/

def dropSpaces (s : List Char) : List Char := s.dropWhile isSpace

def dropComment : List Char → List Char
  | '#' :: s => s.dropWhile fun c => !isControl c
  | s => s

/-- What follows the end of the line, if only blanks and a comment stand before it. -/
def endLine? (s : List Char) : Option (List Char) :=
  match dropComment (dropSpaces s) with
  | [] => some []
  | s => Quoted.lineBreak? s

theorem dropSpaces_length (s : List Char) : (dropSpaces s).length ≤ s.length :=
  (List.dropWhile_suffix _).length_le

theorem dropComment_length (s : List Char) : (dropComment s).length ≤ s.length := by
  fun_cases dropComment s with
  | case1 s => exact Nat.le_succ_of_le (List.dropWhile_suffix _).length_le
  | case2 s => exact Nat.le_refl _

/-- A text without the blanks, line breaks and comments at its front. -/
def dropLines (s : List Char) : List Char :=
  match _h : Quoted.lineBreak? (dropComment (dropSpaces s)) with
  | some rest => dropLines rest
  | none => dropSpaces s
termination_by s.length
decreasing_by
  have h1 := Quoted.lineBreak?_length _h
  have h2 := dropComment_length (dropSpaces s)
  have h3 := dropSpaces_length s
  omega

/-! ### Keys -/

def isKeyChar (c : Char) : Bool := c.isAlphanum || c == '_' || c == '-'

def readKey? : Reader String := fun s =>
  match s with
  | '"' :: _ | '\'' :: _ => (Quoted.readLine? s).map fun (key, rest) => (String.ofList key, rest)
  | _ =>
    let (key, rest) := s.span isKeyChar
    if key.isEmpty then none else some (String.ofList key, rest)

/-- Reads keys with points between them, and the blanks around them. -/
def readKeys? (s : List Char) : Option (List String × List Char) :=
  match readKey? (dropSpaces s) with
  | none => none
  | some (key, rest) =>
    match dropSpaces rest with
    | '.' :: rest =>
      if _h : rest.length < s.length then
        (readKeys? rest).map fun (keys, rest) => (key :: keys, rest)
      else none
    | rest => some ([key], rest)
termination_by s.length

def Path.ofKeys? (keys : List String) : Option Path :=
  if maxDepth < keys.length then none
  else keys.getLast?.map fun key => ⟨keys.dropLast, key⟩

def readPath? : Reader Path := fun s => do
  let (keys, rest) ← readKeys? s
  return (← Path.ofKeys? keys, rest)

/-! ### Values -/

/-- Reads items up to and with the bracket that closes them. -/
def readItems? (item : Reader Value) (s : List Char) : Option (List Value × List Char) :=
  match dropLines s with
  | ']' :: rest => some ([], rest)
  | start =>
    match item start with
    | none => none
    | some (v, rest) =>
      match dropLines rest with
      | ']' :: rest => some ([v], rest)
      | ',' :: rest =>
        if _h : rest.length < s.length then
          (readItems? item rest).map fun (items, rest) => (v :: items, rest)
        else none
      | _ => none
termination_by s.length

def readAssignment? (value : Reader Value) : Reader (Path × Value) := fun s =>
  match readPath? s with
  | some (path, '=' :: rest) =>
    (value (dropSpaces rest)).map fun (v, rest) => ((path, v), rest)
  | _ => none

/-- Reads assignments with commas between them, up to and with the brace that closes them. -/
def readAssignments? (value : Reader Value) (s : List Char) :
    Option (List (Path × Value) × List Char) :=
  match readAssignment? value s with
  | none => none
  | some (a, rest) =>
    match dropSpaces rest with
    | '\x7d' :: rest => some ([a], rest)
    | ',' :: rest =>
      if _h : rest.length < s.length then
        (readAssignments? value rest).map fun (as, rest) => (a :: as, rest)
      else none
    | _ => none
termination_by s.length

/-- Reads a table that is written as one value, after its opening brace. -/
def readInlineTable? (value : Reader Value) : Reader Value := fun s =>
  match dropSpaces s with
  | '\x7d' :: rest => some (.table .inline [], rest)
  | _ => do
    let (assignments, rest) ← readAssignments? value s
    return (.table .inline (← Entries.ofAssignments? assignments), rest)

/-- Reads a value; arrays and tables are nested at most `depth` deep. -/
def readValue? : (depth : Nat) → Reader Value
  | depth, s =>
    match s with
    | '"' :: _ | '\'' :: _ => (Quoted.read? s).map fun (t, rest) => (.text (String.ofList t), rest)
    | '[' :: rest =>
      match depth with
      | 0 => none
      | depth + 1 =>
        (readItems? (readValue? depth) rest).map fun (items, rest) => (.array items, rest)
    | '\x7b' :: rest =>
      match depth with
      | 0 => none
      | depth + 1 => readInlineTable? (readValue? depth) rest
    | _ => Bare.read? s

/-! ### Statements -/

/-- Reads a path and the brackets that close a header. -/
def readHeader? (closing : List Char) : Reader Path := fun s => do
  let (path, rest) ← readPath? s
  if closing.isPrefixOf rest then some (path, rest.drop closing.length) else none

def readStatement? : Reader Statement := fun s =>
  match dropSpaces s with
  | '[' :: '[' :: rest =>
    (readHeader? [']', ']'] rest).map fun (path, rest) => (.element path, rest)
  | '[' :: rest => (readHeader? [']'] rest).map fun (path, rest) => (.table path, rest)
  | start =>
    (readAssignment? (readValue? maxDepth) start).map fun ((path, v), rest) =>
      (.assign path v, rest)

/-- Reads a line, which may hold a statement. -/
def readLine? : Reader (Option Statement) := fun s =>
  match endLine? s with
  | some rest => some (none, rest)
  | none =>
    match readStatement? s with
    | some (statement, rest) => (endLine? rest).map (some statement, ·)
    | none => none

def readStatements? (s : List Char) : Option (List Statement) :=
  if s.isEmpty then some []
  else match readLine? s with
    | none => none
    | some (statement, rest) =>
      if _h : rest.length < s.length then (readStatements? rest).map (statement.toList ++ ·)
      else none
termination_by s.length

/-- The mark that may stand at the front of a file. -/
def byteOrderMark : Char := '\uFEFF'

def read? (text : String) : Option Entries :=
  let s := text.toList
  let s := if s.head? = some byteOrderMark then s.tail else s
  (readStatements? s).bind Entries.ofStatements?

end SpectroRemote.Toml
