import SpectroRemote.Decimal.Reader
import SpectroRemote.Text.Escape
import SpectroRemote.Text.Fields
import SpectroRemote.Toml.Value

/-!
# Values without quotes

Numbers, booleans and moments are words of letters, digits, signs, points, colons and underscores. A
word is read as a whole: it either is such a value or no value at all.

Single underscores may stand between the digits of a number. Integers are signed and have 64 bits; a
floating-point number must not be too great for a double, while one that is too far below zero is
minus infinity.
-/

namespace SpectroRemote.Toml

namespace Bare

def isWordChar (c : Char) : Bool :=
  c.isAlphanum || c == '+' || c == '-' || c == '.' || c == ':' || c == '_'

/-- The digits of a number, without the underscores between them. -/
def digits? (isDigit : Char → Bool) (s : List Char) : Option (List Char) :=
  let groups := Text.fields '_' s
  if groups.all fun g => !g.isEmpty && g.all isDigit then some groups.flatten else none

def ofDigits (base : Nat) (digits : List Char) : Nat :=
  digits.foldl (fun n c => base * n + (Text.Escape.hexDigit? c).getD 0) 0

/-- An integer, if 64 bits can hold it. -/
def inRange? (n : Int) : Option Int :=
  if Int64.minValue.toInt ≤ n ∧ n ≤ Int64.maxValue.toInt then some n else none

def readBase? (base : Nat) (s : List Char) : Option Int :=
  let isDigit (c : Char) : Bool := (Text.Escape.hexDigit? c).any (· < base)
  (digits? isDigit s).bind fun digits => inRange? (ofDigits base digits)

/-- The digits of a natural number in base ten, which has no zero in front. -/
def readWhole? (s : List Char) : Option (List Char) :=
  match digits? Char.isDigit s with
  | some ('0' :: _ :: _) => none
  | other => other

def readInteger? : List Char → Option Int
  | '0' :: 'x' :: s => readBase? 16 s
  | '0' :: 'o' :: s => readBase? 8 s
  | '0' :: 'b' :: s => readBase? 2 s
  | s =>
    let (negative, s) := Decimal.splitSign s
    (readWhole? s).bind fun digits =>
      let n : Int := ofDigits 10 digits
      inRange? (if negative then -n else n)

/-- Whether a text is an exponent: digits with an optional sign in front. -/
def isExponent (s : List Char) : Bool :=
  (digits? Char.isDigit (Decimal.splitSign s).2).isSome

/-- Whether a text is what can follow the digits before the point: a fraction, an exponent or
both. -/
def isFraction : List Char → Bool
  | '.' :: s =>
    let (fraction, rest) := s.span fun c => c != 'e' && c != 'E'
    (digits? Char.isDigit fraction).isSome && (rest.isEmpty || isExponent (rest.drop 1))
  | _ :: s => isExponent s
  | [] => false

def readFloat? (s : List Char) : Option Float :=
  let (negative, unsigned) := Decimal.splitSign s
  if unsigned = ['i', 'n', 'f'] then some (Decimal.ofRank negative Decimal.infinityRank)
  else if unsigned = ['n', 'a', 'n'] then some Decimal.notANumber
  else
    let (whole, rest) := unsigned.span fun c => c != '.' && c != 'e' && c != 'E'
    if (readWhole? whole).isSome && isFraction rest then
      (Decimal.read? (s.filter (· != '_'))).bind fun v =>
        if v == Decimal.ofRank false Decimal.infinityRank then none else some v
    else none

def readWord? (s : List Char) : Option Value :=
  if s = ['t', 'r', 'u', 'e'] then some (.boolean true)
  else if s = ['f', 'a', 'l', 's', 'e'] then some (.boolean false)
  else match Moment.read? s with
    | some m => some (.moment m)
    | none =>
      match readInteger? s with
      | some n => some (.integer n)
      | none => (readFloat? s).map .float

/-- Whether a text is a date without a time. -/
def isDate (s : List Char) : Bool :=
  match Moment.readDate? s with
  | some (_, []) => true
  | _ => false

/-- Reads the word at the front of a text. A date and a time with one space between them make one
value. -/
def read? : Text.Reader Value := fun s =>
  let (word, rest) := s.span isWordChar
  let (time, afterTime) := (rest.drop 1).span isWordChar
  if isDate word && rest.head? == some ' ' && !time.isEmpty then
    (Moment.read? (word ++ ' ' :: time)).map fun m => (.moment m, afterTime)
  else (readWord? word).map (·, rest)

end Bare

end SpectroRemote.Toml
