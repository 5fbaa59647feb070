/-!
# Cup configurations

A cup configuration assigns detector channels to masses and offers several sub-cup configurations.
One pair of them is active at a time.
-/

namespace SpectroRemote

inductive CollectorKind
  | faraday
  | counter
deriving Repr, DecidableEq, Inhabited

/-- A detector channel. -/
structure Collector where
  identifier : String
  /-- The assigned mass; a collector without one is not connected. -/
  mass : Option Float
  kind : CollectorKind
  /-- Whether the collector takes part in acquisition. -/
  active : Bool
deriving Repr, DecidableEq, Inhabited

namespace Collector

/-- A Faraday collector, which starts active. -/
def faraday (identifier : String) (mass : Option Float) : Collector :=
  ⟨identifier, mass, .faraday, true⟩

/-- An ion counter, which starts inactive. -/
def counter (identifier : String) (mass : Option Float) : Collector :=
  ⟨identifier, mass, .counter, false⟩

def isConnectedCounter (c : Collector) : Bool := c.kind == .counter && c.mass.isSome

/-- Whether the assigned mass equals `mass` as a number: zeros of both signs are equal, and nothing
equals what is not a number. -/
def isAtMass (c : Collector) (mass : Float) : Bool :=
  match c.mass with
  | some m => m == mass
  | none => false

end Collector

structure SubCup where
  identifier : String
  name : String
deriving Repr, DecidableEq, Inhabited

structure Cup where
  identifier : String
  name : String
  subCups : List SubCup
  collectors : List Collector
deriving Repr, DecidableEq, Inhabited

namespace Cup

/-- The first sub-cup configuration of a name. -/
def subCupNamed? (cup : Cup) (name : String) : Option SubCup :=
  cup.subCups.find? fun s => s.name = name

/-- The first collector at a mass. -/
def collectorAt? (cup : Cup) (mass : Float) : Option Collector :=
  cup.collectors.find? fun c => c.isAtMass mass

end Cup

end SpectroRemote
