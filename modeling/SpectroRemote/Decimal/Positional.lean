import SpectroRemote.Decimal.Digits
import SpectroRemote.Decimal.Shortest

/-!
# Doubles in positional notation

The text of a double is its shortest decimal written out in full: never an exponent, no point in a
whole number, and a zero in front of a leading point. The minus sign of negative zero is kept.
-/

namespace SpectroRemote.Decimal

def textOfRank (r : Nat) : List Char :=
  if r = 0 then ['0']
  else
    let (d, e) := shortest r
    positional (d * Nat.pow 10 e) places

def text (v : Float) : List Char :=
  if v.isNaN then ['N', 'a', 'N']
  else
    let magnitude := if v.isFinite then textOfRank (rank v) else ['i', 'n', 'f']
    if isNegative v then '-' :: magnitude else magnitude

end SpectroRemote.Decimal

namespace SpectroRemote

/-- A value as replies show it: `120.3`, `5`, `-50`. -/
def valueText (v : Float) : String := String.ofList (Decimal.text v)

end SpectroRemote
