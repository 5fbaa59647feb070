import SpectroRemote.Decimal.Digits

/-!
# Durations

A duration is shown in the greatest of the units seconds, milliseconds, microseconds and nanoseconds
of which it holds at least one, with a fraction if it is no whole number of them.
-/

namespace SpectroRemote.Text

/-- The units from the greatest down: their names, and how many decimal places a nanosecond has in
each. -/
def timeUnits : List (String × Nat) := [("s", 9), ("ms", 6), ("µs", 3), ("ns", 0)]

/-- The text of a duration in nanoseconds. -/
def durationText (nanoseconds : Nat) : String :=
  let (name, places) := (timeUnits.find? fun u => Nat.pow 10 u.2 ≤ nanoseconds).getD ("ns", 0)
  String.ofList (Decimal.positional nanoseconds places) ++ name

end SpectroRemote.Text
