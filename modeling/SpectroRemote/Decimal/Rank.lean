/-!
# Ranks of doubles

The finite non-negative doubles, listed upwards from zero, are numbered by their *rank*; the rank of
a double is what is left of its 64 bits when the sign bit is dropped. Every one of them is a whole
number of *units* of `2 ^ -1074`, so that questions about rounding become questions about natural
numbers: `units` gives the value of a rank, `nearestRank` the rank closest to a fraction.
-/

namespace SpectroRemote.Decimal

/-- How many ranks share an exponent. -/
def binade : Nat := 0x10000000000000

/-- The exponent of the double of rank `r`, counted upwards from the smallest one. -/
def scale (r : Nat) : Nat := r / binade - 1

/-- The whole number that `2 ^ scale r` multiplies in the value of the double of rank `r`. -/
def significand (r : Nat) : Nat := r - scale r * binade

/-- The value of the double of rank `r`, in units of `2 ^ -1074`. -/
def units (r : Nat) : Nat := significand r * Nat.pow 2 (scale r)

/-- The units in one: a value of `n` units is the real number `n / unitsPerOne`. -/
def unitsPerOne : Nat := Nat.pow 2 1074

/-- The first rank that no finite double has. Infinity has it. -/
def infinityRank : Nat := 2047 * binade

/-- The quotient rounded to the nearest whole number, a tie going to the even one. -/
def divNearestEven (a b : Nat) : Nat :=
  let q := a / b
  let twice := 2 * (a % b)
  if twice < b then q
  else if b < twice then q + 1
  else if q % 2 = 0 then q else q + 1

/-- The rank of the double nearest to the fraction `a / b`, a tie going to the even rank. -/
def nearestRank (a b : Nat) : Nat :=
  let x := a * unitsPerOne
  let s := Nat.log2 (x / b) - 52
  min (s * binade + divNearestEven x (b * Nat.pow 2 s)) infinityRank

/-! ### Doubles and their ranks -/

/-- The sign bit, as the amount that it adds to the bits of a double. -/
def signBit : Nat := 0x8000000000000000

def isNegative (v : Float) : Bool := signBit ≤ v.toBits.toNat

/-- The rank of the magnitude of a double. -/
def rank (v : Float) : Nat := v.toBits.toNat % signBit

def ofRank (negative : Bool) (r : Nat) : Float :=
  Float.ofBits (UInt64.ofNat (if negative then signBit + r else r))

def notANumber : Float := Float.ofBits 0x7FF8000000000000

end SpectroRemote.Decimal
