import SpectroRemote.Server.Cups
import SpectroRemote.Snapshot

/-!
# Scans

Completed spectra wait in the queue of the latest subscription, which is of limited length, until
the server turns them into snapshots, in the order in which they came. A spectrum that finds no open
subscription or a full queue is lost. Earlier subscriptions take no more spectra, but what waits in
them is still processed.
-/

namespace SpectroRemote.Server

variable {σ : Type}

/-! ### Subscriptions -/

/-- The number of the latest subscription, if there is one. -/
def latest (s : Server σ) : Nat := s.subscriptions.length - 1

def isSubscribed (s : Server σ) : Bool := s.subscriptions.getLast?.any (·.isOpen)

def changeSubscription (s : Server σ) (number : Nat) (f : Subscription → Subscription) : Server σ :=
  { s with subscriptions := s.subscriptions.modify number f }

/-- Makes the processing of a subscription ready if it is asleep. -/
def wake (s : Server σ) (number : Nat) : Server σ :=
  if s.subscriptions[number]?.any (·.progress = .asleep) then
    { s with ready := s.ready ++ [Activity.processing number] }.changeSubscription number
      ({ · with progress := .ready })
  else s

def close (s : Server σ) : Server σ :=
  (s.changeSubscription s.latest ({ · with isOpen := false })).wake s.latest

/-- Begins a subscription to spectra, which takes the place of the one before it. -/
def startScan (s : Server σ) : Server σ :=
  let s := s.close
  { s with
    subscriptions := s.subscriptions ++ [{}]
    ready := s.ready ++ [.processing s.subscriptions.length] }

def endScan (s : Server σ) : Server σ := s.close.log .info "Stop Server"

/-- Delivers a spectrum. The answer tells whether it was accepted. -/
def emit (st : Station) (s : Server σ) (spectrum : Spectrum) : Bool × Server σ :=
  let capacity := st.settings.scan.channelCapacity.toNat
  if s.subscriptions.getLast?.any fun sub => sub.isOpen && sub.queue.length < capacity then
    let arrived (sub : Subscription) := { sub with queue := sub.queue ++ [spectrum] }
    (true, (s.changeSubscription s.latest arrived).wake s.latest)
  else (false, s)

variable [Instrument σ]

/-! ### Processing -/

/-- Makes the snapshot of a spectrum, with the cup configuration that is active now. -/
def takeSnapshot (st : Station) (s : Server σ) (spectrum : Spectrum) :
    Except Failure Unit × Server σ :=
  match s.activeCup with
  | (.error e, s) => (.error e, s)
  | (.ok cup, s) =>
    (.ok (), { s with snapshot := st.settings.scan.snapshot cup spectrum })

/-- Makes the snapshot of a spectrum, or drops the spectrum if there is no active cup
configuration. -/
def process (st : Station) (s : Server σ) (spectrum : Spectrum) : Server σ :=
  match s.takeSnapshot st spectrum with
  | (.ok (), s) => s
  | (.error _, s) => s.log .warn "Dropping spectrum"

/-- How many spectra can be processed in one turn. Making a snapshot takes as much effort again as
taking a spectrum off the queue. -/
def turnCapacity (s : Server σ) : Nat := if s.activeCup.1.isOk then 64 else 128

/-- Gives the processing of a subscription its turn. If it does as much as one turn allows, it goes
on in a later one. -/
def processTurn (st : Station) (s : Server σ) (number : Nat) : Server σ :=
  match s.subscriptions[number]? with
  | none => s
  | some sub =>
    let capacity := s.turnCapacity
    let goesOn := capacity ≤ sub.queue.length
    let progress := if goesOn then .ready else if sub.isOpen then .asleep else .finished
    let s := if goesOn then { s with postponed := .processing number :: s.postponed } else s
    let left (sub : Subscription) := { sub with queue := sub.queue.drop capacity, progress }
    (sub.queue.take capacity).foldl (process st) (s.changeSubscription number left)

/-! ### Acquisitions -/

/-- Begins to acquire a spectrum in every period, the first one as soon as time passes. -/
def startAcquisition (s : Server σ) (period : Nat) : Server σ :=
  if period = 0 then s
  else { s with ready := s.ready ++ [.acquisition { period, due := s.clock }] }

def acquire (st : Station) (s : Server σ) (cycle : UInt64) : (Bool × Spectrum) × Server σ :=
  let spectrum := Instrument.acquire s.instrument cycle
  let (accepted, s) := s.emit st spectrum
  ((accepted, spectrum), s)

/-- Gives an acquisition its turn. It ends if nobody is there to take its spectrum. -/
def acquisitionTurn (st : Station) (s : Server σ) (a : Acquisition) : Server σ :=
  let cycle := a.cycle + 1
  let ((accepted, _), s) := s.acquire st cycle
  if accepted || s.isSubscribed then
    { s with sleeping := s.sleeping ++ [{ a with cycle, due := s.clock + a.period }] }
  else s

end SpectroRemote.Server
