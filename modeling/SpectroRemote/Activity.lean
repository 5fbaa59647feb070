import SpectroRemote.Spectrum

/-!
# Activities

What goes on beside the requests: subscriptions whose spectra are processed, and acquisitions that
deliver spectra. Only one activity has its turn at a time, and those that are ready take turns in
the order in which they became so.
-/

namespace SpectroRemote

/-- How the processing of the spectra of a subscription stands. -/
inductive Progress
  | ready
  | asleep
  /-- Nothing can come any more, and everything that came is processed. -/
  | finished
deriving Repr, DecidableEq, Inhabited

structure Subscription where
  /-- The spectra that wait to be processed, in the order in which they came. -/
  queue : List Spectrum := []
  isOpen : Bool := true
  progress : Progress := .ready
deriving Repr, DecidableEq, Inhabited

/-- A running series of acquisitions. -/
structure Acquisition where
  /-- The time between spectra in milliseconds. -/
  period : Nat
  cycle : UInt64 := 0
  due : Nat
deriving Repr, DecidableEq, Inhabited

/-- What can have a turn. -/
inductive Activity
  | processing (number : Nat)
  | acquisition (a : Acquisition)
deriving Repr, DecidableEq, Inhabited

end SpectroRemote
