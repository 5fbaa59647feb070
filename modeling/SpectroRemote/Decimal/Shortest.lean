import SpectroRemote.Decimal.Rank

/-!
# The shortest decimal that reads back

Of the decimals that round to a given double, `shortest` finds one with as few digits as possible
and, among those, the nearest to the double; of two equally near ones it takes the greater.

For a fixed number of digits only the two neighbours of the double on that decimal grid need to be
looked at: if any point of the grid rounds to the double, so does one of them.
-/

namespace SpectroRemote.Decimal

/-- The number of decimal places that are kept, which is enough for every double. -/
def places : Nat := 400

/-- The denominator over which all decimals are held. -/
def denominator : Nat := Nat.pow 10 places

/-- Whether the fraction `n / denominator` rounds to the double of rank `r`: it lies between the
midpoints to the two neighbouring doubles, the midpoints included exactly when `r` is even. -/
def roundsTo (r n : Nat) : Bool :=
  let x := 2 * n * unitsPerOne
  let lower := (units (r - 1) + units r) * denominator
  let upper := (units r + units (r + 1)) * denominator
  if r % 2 = 0 then lower ≤ x && x ≤ upper else lower < x && x < upper

/-- The better of the two neighbours of the double of rank `r` on the grid of multiples of `p`, if
one of them rounds to it. The answer counts in steps of the grid. -/
def onGrid (r p : Nat) : Option Nat :=
  let n := units r * denominator
  let below := n / (unitsPerOne * p)
  let belowFits := roundsTo r (below * p)
  let aboveFits := roundsTo r ((below + 1) * p)
  if belowFits && aboveFits then
    some (if 2 * n < (2 * below + 1) * (unitsPerOne * p) then below else below + 1)
  else if belowFits then some below
  else if aboveFits then some (below + 1)
  else none

/-- The grids to try for a number with `count` digits: one digit, two digits, up to seventeen, each
as the power of ten between its points. -/
def grids (count : Nat) : List Nat := (List.range 17).map (count - 1 - ·)

def digitCount (n : Nat) : Nat := (Nat.toDigits 10 n).length

/-- The shortest decimal that rounds to the double of rank `r`, as digits `d` and a power `e`: the
decimal is `d * 10 ^ e / denominator`. -/
def shortest (r : Nat) : Nat × Nat :=
  let whole := units r * denominator / unitsPerOne
  let found := (grids (digitCount whole)).findSome? fun e => (onGrid r (Nat.pow 10 e)).map (·, e)
  found.getD (whole, 0)

end SpectroRemote.Decimal
