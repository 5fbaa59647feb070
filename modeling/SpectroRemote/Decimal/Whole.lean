/-!
# Reading whole numbers

Whole numbers are decimal digits, with a sign in front if need be. Nothing else may stand in the
text.
-/

namespace SpectroRemote.Decimal

/-- Reads digits, at least one. -/
def readDigits? (s : List Char) : Option Nat :=
  if s.isEmpty || !s.all Char.isDigit then none else some (Nat.ofDigitChars 10 s 0)

/-- Reads a natural number below `limit`. A plus sign may stand in front. -/
def readNatural? (limit : Nat) (s : List Char) : Option Nat :=
  let digits := match s with
    | '+' :: rest => rest
    | _ => s
  (readDigits? digits).filter (· < limit)

/-- Reads an integer of `bits` bits. A sign may stand in front. -/
def readInteger? (bits : Nat) (s : List Char) : Option Int :=
  match s with
  | '-' :: rest => ((readDigits? rest).filter (· ≤ Nat.pow 2 (bits - 1))).map fun n => -(n : Int)
  | _ => (readNatural? (Nat.pow 2 (bits - 1)) s).map fun n => (n : Int)

end SpectroRemote.Decimal
