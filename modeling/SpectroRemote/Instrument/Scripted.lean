import SpectroRemote.Instrument.Simulated

/-!
# Scripted behaviour

The simulated instrument with a script laid over it: operations that fail with a given reason before
they do anything, and a fixed table of cup configurations that records what was asked of it.
-/

namespace SpectroRemote

/-- An operation that a script can make fail. -/
inductive Operation
  | readParameter
  | writeParameter
  | cups
  | activePair
  | setActive
  | pushHardwareParameters
  | requestCupChange
  /-- Switching any collector. -/
  | switchCollector
  /-- Switching the collector of this identifier. -/
  | switchOneCollector (identifier : String)
  | prepareScan
  | measurement
  | beginMonitoring
  | applyTune
deriving Repr, DecidableEq

/-- What a fixed table of cup configurations was asked to do. -/
inductive RosterCall
  | setActive (cup subCup : String)
  | switchCollector (cup collector : String) (active : Bool)
deriving Repr, DecidableEq

/-- A fixed table of cup configurations. The active names never change. -/
structure Roster where
  cups : List Cup
  activePair : String × String
  calls : List RosterCall := []

/-- The simulated instrument under a script. -/
structure ScriptedInstrument where
  instrument : SimulatedInstrument
  faults : List (Operation × String) := []
  /-- The table that stands in for the cup configurations of the instrument. -/
  roster : Option Roster := none

namespace ScriptedInstrument

def fault? (s : ScriptedInstrument) (op : Operation) : Option String := s.faults.lookup op

/-- Makes an operation fail, or with no reason lets it work again. -/
def setFault (s : ScriptedInstrument) (op : Operation) (reason : Option String) :
    ScriptedInstrument :=
  let others := s.faults.filter fun f => f.1 ≠ op
  { s with faults := (reason.toList.map (op, ·)) ++ others }

/-- A query, unless it is scripted to fail. -/
def query {α : Type} (s : ScriptedInstrument) (op : Operation) (answer : Except Refusal α) :
    Except Refusal α :=
  match s.fault? op with
  | some reason => .error (.reported reason)
  | none => answer

/-- A change of the simulated instrument, unless it is scripted to fail. -/
def change (s : ScriptedInstrument) (op : Operation)
    (f : SimulatedInstrument → Except Refusal Unit × SimulatedInstrument) :
    Except Refusal Unit × ScriptedInstrument :=
  match s.fault? op with
  | some reason => (.error (.reported reason), s)
  | none => ((f s.instrument).1, { s with instrument := (f s.instrument).2 })

/-- A change of the cup configurations: of the fixed table, which only records it, or else of the
simulated instrument. -/
def changeCups (s : ScriptedInstrument) (op : Operation) (call : RosterCall)
    (f : SimulatedInstrument → Except Refusal Unit × SimulatedInstrument) :
    Except Refusal Unit × ScriptedInstrument :=
  match s.fault? op, s.roster with
  | none, some r => (.ok (), { s with roster := some { r with calls := r.calls ++ [call] } })
  | _, _ => s.change op f

instance : Instrument ScriptedInstrument where
  readParameter s name := s.query .readParameter (s.instrument.readParameter name)
  writeParameter s name v := s.change .writeParameter (·.writeParameter name v)
  cups s := s.query .cups (.ok ((s.roster.map (·.cups)).getD s.instrument.cups))
  activePair s :=
    s.query .activePair
      (match s.roster with
        | some r => .ok r.activePair
        | none => s.instrument.activePair)
  setActive s cup subCup :=
    s.changeCups .setActive (.setActive cup subCup) (·.setActive cup subCup)
  pushHardwareParameters s cup subCup :=
    s.change .pushHardwareParameters (·.pushHardwareParameters cup subCup)
  requestCupChange s := s.change .requestCupChange (·.requestCupChange)
  switchCollector s cup collector active :=
    let op := if (s.fault? .switchCollector).isSome then .switchCollector
      else .switchOneCollector collector
    s.changeCups op (.switchCollector cup collector active)
      (·.switchCollector cup collector active)
  prepareScan s := s.change .prepareScan (·.prepareScan)
  measurement s := s.query .measurement (.ok s.instrument.measurement)
  beginMonitoring s m := s.change .beginMonitoring (·.beginMonitoring m)
  applyTune s t := s.change .applyTune (·.applyTune t)
  acquire s cycle := s.instrument.acquire cycle

end ScriptedInstrument

end SpectroRemote
