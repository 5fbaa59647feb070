import Mathlib.Tactic.Lemma
import SpectroRemote.Server
import SpectroRemote.Snapshot

/-!
# What is told of spectra

A list of happenings tells which spectra came in and which were processed, which of them is shown,
and whether somebody is subscribed. One more happening adds to each of these at the end.
-/

namespace SpectroRemote

/-- What can be told of spectra and subscriptions. -/
inductive Happening
  /-- A subscription began. -/
  | started
  /-- The subscription ended. -/
  | ended
  /-- The subscription of this number took a spectrum. -/
  | accepted (number : Nat) (x : Spectrum)
  /-- Nobody took the spectrum. -/
  | refused (x : Spectrum)
  /-- The processing of the subscription of this number is through with a spectrum, for which it
  found this cup configuration or none. -/
  | ingested (number : Nat) (x : Spectrum) (cup : Option Cup)

namespace Happening

/-- The spectrum that a subscription took. -/
def acceptedBy (number : Nat) : Happening → Option Spectrum
  | accepted k x => if k = number then some x else none
  | _ => none

/-- The spectrum that the processing of a subscription is through with. -/
def ingestedBy (number : Nat) : Happening → Option Spectrum
  | ingested k x _ => if k = number then some x else none
  | _ => none

/-- The spectrum that was shown, and the cup configuration with which it was. -/
def shown : Happening → Option (Spectrum × Cup)
  | ingested _ x (some cup) => some (x, cup)
  | _ => none

/-- Whether somebody is subscribed from now on. -/
def subscribes : Happening → Option Bool
  | started => some true
  | ended => some false
  | _ => none

end Happening

/-- The spectra that a subscription took, in order. -/
def acceptedBy (number : Nat) (h : List Happening) : List Spectrum :=
  h.filterMap (Happening.acceptedBy number)

/-- The spectra that the processing of a subscription is through with, in order. -/
def ingestedBy (number : Nat) (h : List Happening) : List Spectrum :=
  h.filterMap (Happening.ingestedBy number)

/-- The snapshot of the last spectrum that found a cup configuration. -/
def lastShown (st : Station) (h : List Happening) : String :=
  (h.filterMap Happening.shown).getLast?.elim "" fun p => st.settings.scan.snapshot p.2 p.1

/-- Whether the last subscription did not end. -/
def subscribedAfter (h : List Happening) : Bool :=
  (h.filterMap Happening.subscribes).getLast?.getD false

/-! ### One more happening -/

section More

variable (st : Station) (h : List Happening) (e : Option Happening)

lemma acceptedBy_append (k : Nat) :
    acceptedBy k (h ++ e.toList) = acceptedBy k h ++ (e.bind (Happening.acceptedBy k)).toList := by
  rw [acceptedBy, acceptedBy, List.filterMap_append]
  cases e with
  | none => rfl
  | some e => cases he : e.acceptedBy k <;> simp [he]

lemma ingestedBy_append (k : Nat) :
    ingestedBy k (h ++ e.toList) = ingestedBy k h ++ (e.bind (Happening.ingestedBy k)).toList := by
  rw [ingestedBy, ingestedBy, List.filterMap_append]
  cases e with
  | none => rfl
  | some e => cases he : e.ingestedBy k <;> simp [he]

lemma lastShown_append :
    lastShown st (h ++ e.toList) =
      (e.bind Happening.shown).elim (lastShown st h)
        fun p => st.settings.scan.snapshot p.2 p.1 := by
  rw [lastShown, lastShown, List.filterMap_append]
  cases e with
  | none => simp
  | some e => cases he : e.shown <;> simp [he]

lemma subscribedAfter_append :
    subscribedAfter (h ++ e.toList) =
      (e.bind Happening.subscribes).getD (subscribedAfter h) := by
  rw [subscribedAfter, subscribedAfter, List.filterMap_append]
  cases e with
  | none => simp
  | some e => cases he : e.subscribes <;> simp [he]

end More

end SpectroRemote
