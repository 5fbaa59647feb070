import SpectroRemote.Text.Escape

/-!
# Quoted texts

A text can be quoted in four styles: on one line or over several, and with or without escapes. The
texts of the literal styles stand for themselves. In the basic styles a backslash begins an escape;
over several lines a backslash at the end of a line also removes the blanks up to the next text.

A text over several lines may hold one or two of its quotes in a row, and the line break right
after its opening quotes does not belong to it.
-/

namespace SpectroRemote.Toml

inductive QuoteStyle
  | basic
  | literal
  | multilineBasic
  | multilineLiteral
deriving Repr, DecidableEq

/-- A character that only an escape can bring into a text. -/
def isControl (c : Char) : Bool := (c < ' ' && c != '\t') || c == '\x7f'

def isSpace (c : Char) : Bool := c == ' ' || c == '\t'

namespace Quoted

open Text (Reader)

/-! ### Reading -/

def prepend (c : Char) : Option (List Char × List Char) → Option (List Char × List Char)
  | some (text, rest) => some (c :: text, rest)
  | none => none

/-- Reads a basic text up to and with its closing quote. -/
def readBasic? (s : List Char) : Option (List Char × List Char) :=
  match s with
  | [] => none
  | '"' :: s => some ([], s)
  | '\\' :: s =>
    match _h : Text.Escape.read? s with
    | none => none
    | some (c, rest) => prepend c (readBasic? rest)
  | c :: s => if isControl c then none else prepend c (readBasic? s)
termination_by s.length
decreasing_by
  · exact Nat.lt_succ_of_lt (Text.Escape.read?_length _h)
  · exact Nat.lt_succ_self _

def readLiteral? : Reader (List Char)
  | [] => none
  | '\'' :: s => some ([], s)
  | c :: s => if isControl c then none else prepend c (readLiteral? s)

/-- A text without the spaces and line breaks at its front. -/
def dropLayout : List Char → List Char
  | '\r' :: '\n' :: s => dropLayout s
  | '\n' :: s => dropLayout s
  | ' ' :: s => dropLayout s
  | '\t' :: s => dropLayout s
  | s => s

theorem dropLayout_length (s : List Char) : (dropLayout s).length ≤ s.length := by
  fun_induction dropLayout s with
  | case1 s ih => exact Nat.le_succ_of_le (Nat.le_succ_of_le ih)
  | case2 s ih => exact Nat.le_succ_of_le ih
  | case3 s ih => exact Nat.le_succ_of_le ih
  | case4 s ih => exact Nat.le_succ_of_le ih
  | case5 s => exact Nat.le_refl _

/-- What follows the line break at the front of a text, if there is one. -/
def lineBreak? : List Char → Option (List Char)
  | '\n' :: s => some s
  | '\r' :: '\n' :: s => some s
  | _ => none

theorem lineBreak?_length {s rest : List Char} (h : lineBreak? s = some rest) :
    rest.length < s.length := by
  fun_cases lineBreak? s with
  | case1 s => cases h; exact Nat.lt_succ_self _
  | case2 s => cases h; exact Nat.lt_succ_of_lt (Nat.lt_succ_self _)
  | case3 => simp_all [lineBreak?]

/-- What follows a backslash at the end of a line, without the blanks in between. -/
def continuedLine? (s : List Char) : Option (List Char) :=
  (lineBreak? (s.dropWhile isSpace)).map dropLayout

theorem continuedLine?_length {s rest : List Char} (h : continuedLine? s = some rest) :
    rest.length < s.length := by
  obtain ⟨r, hr, rfl⟩ := Option.map_eq_some_iff.1 h
  have h1 := lineBreak?_length hr
  have h2 := dropLayout_length r
  have h3 := (List.dropWhile_suffix isSpace (l := s)).length_le
  omega

def readMultilineBasic? (s : List Char) : Option (List Char × List Char) :=
  match s with
  | [] => none
  | '"' :: '"' :: '"' :: '"' :: '"' :: s => some (['"', '"'], s)
  | '"' :: '"' :: '"' :: '"' :: s => some (['"'], s)
  | '"' :: '"' :: '"' :: s => some ([], s)
  | '\\' :: s =>
    match _hc : continuedLine? s with
    | some rest => readMultilineBasic? rest
    | none =>
      match _he : Text.Escape.read? s with
      | none => none
      | some (c, rest) => prepend c (readMultilineBasic? rest)
  | '\n' :: s => prepend '\n' (readMultilineBasic? s)
  | '\r' :: '\n' :: s => prepend '\n' (readMultilineBasic? s)
  | c :: s => if isControl c then none else prepend c (readMultilineBasic? s)
termination_by s.length
decreasing_by
  · exact Nat.lt_succ_of_lt (continuedLine?_length _hc)
  · exact Nat.lt_succ_of_lt (Text.Escape.read?_length _he)
  · exact Nat.lt_succ_self _
  · exact Nat.lt_succ_of_lt (Nat.lt_succ_self _)
  · exact Nat.lt_succ_self _

def readMultilineLiteral? : Reader (List Char)
  | [] => none
  | '\'' :: '\'' :: '\'' :: '\'' :: '\'' :: s => some (['\'', '\''], s)
  | '\'' :: '\'' :: '\'' :: '\'' :: s => some (['\''], s)
  | '\'' :: '\'' :: '\'' :: s => some ([], s)
  | '\n' :: s => prepend '\n' (readMultilineLiteral? s)
  | '\r' :: '\n' :: s => prepend '\n' (readMultilineLiteral? s)
  | c :: s => if isControl c then none else prepend c (readMultilineLiteral? s)

def dropLineBreak (s : List Char) : List Char := (lineBreak? s).getD s

/-- Reads a text in either one-line style. -/
def readLine? : Reader (List Char)
  | '"' :: s => readBasic? s
  | '\'' :: s => readLiteral? s
  | _ => none

def read? : Reader (List Char)
  | '"' :: '"' :: '"' :: s => readMultilineBasic? (dropLineBreak s)
  | '\'' :: '\'' :: '\'' :: s => readMultilineLiteral? (dropLineBreak s)
  | s => readLine? s

/-! ### Writing -/

/-- The two-digit escape of a control character. -/
def codeEscape (c : Char) : List Char :=
  let digit (n : Nat) : Char := (Nat.toDigits 16 n).headD '0' |>.toUpper
  ['\\', 'u', '0', '0', digit (c.toNat / 16), digit (c.toNat % 16)]

/-- A character of a basic text: as it is or, if it cannot stand there, as an escape. Line breaks
and quotes are dealt with apart. -/
def escaped (c : Char) : List Char :=
  if c = '\x08' then ['\\', 'b']
  else if c = '\t' then ['\\', 't']
  else if c = '\x0c' then ['\\', 'f']
  else if c = '\r' then ['\\', 'r']
  else if c = '\\' then ['\\', '\\']
  else if isControl c then codeEscape c
  else [c]

/-- The inside of a basic text on one line. -/
def escapeLine : List Char → List Char
  | [] => []
  | '"' :: s => '\\' :: '"' :: escapeLine s
  | '\n' :: s => '\\' :: 'n' :: escapeLine s
  | c :: s => escaped c ++ escapeLine s

/-- The inside of a basic text over several lines, after a number of quotes that stand as they are.
Every third quote in a row is escaped. -/
def escapeLines : (quotes : Nat) → List Char → List Char
  | _, [] => []
  | quotes, '"' :: s =>
    if quotes < 2 then '"' :: escapeLines (quotes + 1) s else '\\' :: '"' :: escapeLines 0 s
  | _, '\n' :: s => '\n' :: escapeLines 0 s
  | _, c :: s => escaped c ++ escapeLines 0 s

/-- Whether a text holds more than `limit` of a character in a row, after `count` of them. -/
def exceedsRun (quote : Char) (limit : Nat) : (count : Nat) → List Char → Bool
  | count, [] => limit < count
  | count, c :: s =>
    if c = quote then exceedsRun quote limit (count + 1) s
    else limit < count || exceedsRun quote limit 0 s

/-- Whether a text needs an escape in whatever way it is quoted. -/
def needsEscape (s : List Char) : Bool := s.any fun c => isControl c && c != '\n'

/-- The style that shows a text best: the first that needs no escape but those for tabs. -/
def styleOf (s : List Char) : QuoteStyle :=
  let escapes := needsEscape s
  let lines := s.contains '\n'
  if !escapes && !s.contains '\\' && !s.contains '"' && !lines then .basic
  else if !escapes && !s.contains '\'' && !lines then .literal
  else if !escapes && !s.contains '\\' && !exceedsRun '"' 2 0 s then .multilineBasic
  else if !escapes && !exceedsRun '\'' 2 0 s then .multilineLiteral
  else if lines then .multilineBasic
  else .basic

/-- The line break that is put in front of a text with line breaks. -/
def openingBreak (s : List Char) : List Char := if s.contains '\n' then ['\n'] else []

def write (style : QuoteStyle) (s : List Char) : List Char :=
  match style with
  | .basic => '"' :: escapeLine s ++ ['"']
  | .literal => '\'' :: s ++ ['\'']
  | .multilineBasic => ['"', '"', '"'] ++ openingBreak s ++ escapeLines 0 s ++ ['"', '"', '"']
  | .multilineLiteral => ['\'', '\'', '\''] ++ openingBreak s ++ s ++ ['\'', '\'', '\'']

end Quoted

end SpectroRemote.Toml
