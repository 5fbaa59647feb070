/-!
# Digits

Numbers written with a fixed number of digits, and fractions without zeros at their end.
-/

namespace SpectroRemote.Decimal

/-- The digits of a number with zeros in front, at least `width` in all. -/
def padded (width n : Nat) : List Char :=
  let digits := Nat.toDigits 10 n
  List.replicate (width - digits.length) '0' ++ digits

def dropTrailingZeros (s : List Char) : List Char := (s.reverse.dropWhile (· == '0')).reverse

/-- `n / 10 ^ k` written out, without zeros at the end of the fraction. -/
def positional (n k : Nat) : List Char :=
  let whole := Nat.toDigits 10 (n / Nat.pow 10 k)
  match dropTrailingZeros (padded k (n % Nat.pow 10 k)) with
  | [] => whole
  | fraction => whole ++ '.' :: fraction

end SpectroRemote.Decimal
