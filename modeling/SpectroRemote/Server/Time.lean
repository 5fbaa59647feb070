import SpectroRemote.Server.Scan

/-!
# Turns and time

The activities that are ready take turns while no request is served: in the pauses of a request, and
when time is let pass. The clock stands still until no activity is ready, and then goes on to the
next moment at which an acquisition is due. Whoever waits for that same moment is served before the
activities that it makes ready.

Turns come in rounds. What an activity could not finish in its turn waits for the next round.
-/

namespace SpectroRemote.Server

variable {σ : Type} [Instrument σ]

/-! ### Turns -/

def takeTurn (st : Station) (s : Server σ) : Activity → Server σ
  | .processing number => s.processTurn st number
  | .acquisition a => s.acquisitionTurn st a

/-- Gives up to `turns` turns to the activities that are ready. -/
def takeTurns (st : Station) : (turns : Nat) → Server σ → Server σ
  | 0, s => s
  | turns + 1, s =>
    match s.ready with
    | [] => s
    | activity :: ready => takeTurns st turns ({ s with ready }.takeTurn st activity)

/-- The greatest number of turns in a round. -/
def roundLength : Nat := 61

/-- Goes through one round of turns. The activities that it puts off are ready for the next one, the
latest first. -/
def round (st : Station) (s : Server σ) : Server σ :=
  let s := takeTurns st roundLength s
  { s with ready := s.ready ++ s.postponed, postponed := [] }

/-- An upper bound for the turns that are still to be taken. The turn of an acquisition can bring a
spectrum, and with it a turn to process that. -/
def workload (s : Server σ) : Nat :=
  3 * s.ready.length + (s.subscriptions.flatMap (·.queue)).length

/-- Goes through up to `rounds` rounds until something is the case. -/
def roundsUntil (st : Station) (done : Server σ → Bool) : (rounds : Nat) → Server σ → Server σ
  | 0, s => s
  | rounds + 1, s => if done s then s else roundsUntil st done rounds (s.round st)

/-- Goes through rounds until no activity is ready. -/
def settle (st : Station) (s : Server σ) : Server σ :=
  roundsUntil st (·.ready.isEmpty) s.workload s

/-- Ends the subscription and waits until all its spectra are processed. -/
def stopScan (st : Station) (s : Server σ) : Server σ :=
  let s := s.endScan
  roundsUntil st (·.subscriptions.getLast?.all (·.progress = .finished)) s.workload s

/-! ### Time -/

def wakeDue (s : Server σ) : Server σ :=
  { s with
    ready := s.ready ++ (s.sleeping.filter (·.due ≤ s.clock)).map .acquisition
    sleeping := s.sleeping.filter (s.clock < ·.due) }

/-- The earlier of two times, the first of which may be missing. -/
def earlier {now finish : Nat} (a : Option { t : Nat // now < t ∧ t < finish })
    (b : { t : Nat // now < t ∧ t < finish }) : { t : Nat // now < t ∧ t < finish } :=
  match a with
  | none => b
  | some a => if b.1 < a.1 then b else a

/-- The next time after `now` and before `finish` at which a spectrum is due. -/
def nextDue? (now finish : Nat) (acquisitions : List Acquisition) :
    Option { t : Nat // now < t ∧ t < finish } :=
  acquisitions.foldl
    (fun best a =>
      if h : now < a.due ∧ a.due < finish then some (earlier best ⟨a.due, h⟩) else best)
    none

/-- Lets time pass from `now` until the clock shows `finish`: everything that falls due before is
done on the way. -/
def runUntil (st : Station) (finish now : Nat) (s : Server σ) : Server σ :=
  let s := s.settle st
  match nextDue? now finish s.sleeping with
  | none => { s with clock := finish }.wakeDue
  | some ⟨t, _⟩ => runUntil st finish t { s with clock := t }.wakeDue
termination_by finish - now
decreasing_by omega

/-- The longest time that can be let pass at once: thirty years of 365 days, in milliseconds. -/
def longestPause : Nat := 30 * 365 * 24 * 60 * 60 * 1000

/-- Lets some time pass. If it is none at all, no activity has its turn. -/
def elapse (st : Station) (s : Server σ) (milliseconds : Nat) : Server σ :=
  if milliseconds = 0 then s
  else s.runUntil st (s.clock + min milliseconds longestPause) s.clock

end SpectroRemote.Server
