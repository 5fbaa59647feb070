import SpectroRemote.Settings

/-!
# Moves of the magnet

A jump of the magnet field that is larger than a threshold is divided into steps of equal size. The
plan of a move is stated over any arithmetic, so that it can be carried out with doubles and be
studied with exact numbers.
-/

namespace SpectroRemote

/-- The numbers that moves are planned in. -/
class MoveArithmetic (α : Type) extends Add α, Sub α, Mul α, Div α where
  ofCount : Nat → α
  negOne : α
  magnitude : α → α
  /-- Whether the first number is less than the second. -/
  less : α → α → Bool

instance : MoveArithmetic Float where
  ofCount n := n.toUInt64.toFloat
  negOne := -1
  magnitude := Float.abs
  less a b := decide (a < b)

structure MagnetMove (α : Type) where
  /-- The field before the move. -/
  start : α
  target : α
  stepCount : Nat
deriving Repr, DecidableEq

namespace MagnetMove

variable {α : Type} [MoveArithmetic α]

open MoveArithmetic

/-- Plans a move: in steps if it is farther than the threshold, and at once if not. -/
def plan (start target threshold : α) (steps : Nat) : MagnetMove α :=
  { start, target
    stepCount := if less threshold (magnitude (target - start)) then max steps 1 else 1 }

def isDivided (m : MagnetMove α) : Bool := 1 < m.stepCount

/-- One towards greater fields, minus one towards smaller ones. -/
def direction (m : MagnetMove α) : α := if less m.start m.target then ofCount 1 else negOne

def step (m : MagnetMove α) : α := magnitude (m.target - m.start) / ofCount m.stepCount

/-- The fields to set one after the other. -/
def setpoints (m : MagnetMove α) : List α :=
  if m.isDivided then
    (List.range m.stepCount).map fun i => m.start + m.direction * ofCount (i + 1) * m.step
  else [m.target]

end MagnetMove

def MagnetSettings.plan (settings : MagnetSettings) (start target : Float) : MagnetMove Float :=
  .plan start target settings.moveThreshold settings.steps.toNat

end SpectroRemote
