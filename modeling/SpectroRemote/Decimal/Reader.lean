import SpectroRemote.Decimal.Rank

/-!
# Reading decimals

The accepted texts are, in any letter case, `inf`, `infinity` and `nan`, and decimals: digits with
at most one point among, before or after them, at least one digit in all, and then an optional
exponent. Each may have a sign in front. A decimal is read as the double nearest to it.
-/

namespace SpectroRemote.Decimal

/-- The decimal `digits * 10 ^ exponent`. -/
structure Scientific where
  digits : Nat
  exponent : Int
deriving Repr, DecidableEq

def ofDigits (s : List Char) : Nat := Nat.ofDigitChars 10 s 0

/-- Splits a sign off the front; without one the text is positive. -/
def splitSign : List Char → Bool × List Char
  | '-' :: s => (true, s)
  | '+' :: s => (false, s)
  | s => (false, s)

def readExponent? (s : List Char) : Option Int :=
  let (negative, digits) := splitSign s
  if digits.isEmpty || !digits.all Char.isDigit then none
  else if negative then some (-(ofDigits digits : Int)) else some (ofDigits digits)

/-- Reads what may follow the digits: nothing, or the letter `e` and an exponent. -/
def readScale? : List Char → Option Int
  | [] => some 0
  | c :: s => if c = 'e' || c = 'E' then readExponent? s else none

/-- Splits the digits after the point, if there is one, off the front. -/
def splitFraction : List Char → List Char × List Char
  | '.' :: s => s.span Char.isDigit
  | s => ([], s)

def readScientific? (s : List Char) : Option Scientific := do
  let (whole, rest) := s.span Char.isDigit
  let (fraction, rest) := splitFraction rest
  let scale ← readScale? rest
  if whole.isEmpty && fraction.isEmpty then none
  else some ⟨ofDigits (whole ++ fraction), scale - fraction.length⟩

/-- The rank of the double nearest to a decimal. Far outside the range of doubles, where the answer
is already certain, the power of ten is not computed. -/
def Scientific.rank (x : Scientific) : Nat :=
  let size := Nat.log2 x.digits
  if x.digits = 0 then 0
  else if x.exponent < -400 - size then 0
  else if 400 < x.exponent then infinityRank
  else if 0 ≤ x.exponent then nearestRank (x.digits * Nat.pow 10 x.exponent.toNat) 1
  else nearestRank x.digits (Nat.pow 10 (-x.exponent).toNat)

def read? (s : List Char) : Option Float :=
  let (negative, s) := splitSign s
  let word := s.map Char.toLower
  if word = ['i', 'n', 'f'] || word = ['i', 'n', 'f', 'i', 'n', 'i', 't', 'y'] then
    some (ofRank negative infinityRank)
  else if word = ['n', 'a', 'n'] then some notANumber
  else (readScientific? s).map fun x => ofRank negative x.rank

end SpectroRemote.Decimal
