import Mathlib.Tactic.Lemma
import SpectroRemote.Server.Time

/-!
# The passing of time

Time passes in single steps: an activity takes its turn, the activities that were put off become
ready again, the clock goes on. A relation between states that each of these steps keeps is kept by
every pause, however long (`Abiding.elapse`).

The first such relation is `Beside`: while time passes, the instrument and the blanking stay as they
are, and no event is forgotten.
-/

namespace SpectroRemote.Server

variable {σ : Type} [Instrument σ]

/-! ### Relations that hold across every pause -/

/-- A relation between earlier and later states that every single step of time keeps. -/
structure Abiding (st : Station) (R : Server σ → Server σ → Prop) : Prop where
  refl : ∀ s, R s s
  trans : ∀ {s t u}, R s t → R t u → R s u
  turn : ∀ s activity rest, s.ready = activity :: rest →
    R s ({ s with ready := rest }.takeTurn st activity)
  regroup : ∀ s, R s { s with ready := s.ready ++ s.postponed, postponed := [] }
  tick : ∀ s t, R s { s with clock := t }.wakeDue

namespace Abiding

variable {st : Station} {R : Server σ → Server σ → Prop} (h : Abiding st R)
include h

lemma takeTurns (turns : Nat) (s : Server σ) : R s (Server.takeTurns st turns s) := by
  induction turns generalizing s with
  | zero => exact h.refl s
  | succ turns ih =>
    rw [Server.takeTurns]
    split
    · exact h.refl s
    · next activity rest hready => exact h.trans (h.turn s activity rest hready) (ih _)

lemma round (s : Server σ) : R s (s.round st) :=
  h.trans (h.takeTurns roundLength s) (h.regroup _)

lemma roundsUntil (done : Server σ → Bool) (rounds : Nat) (s : Server σ) :
    R s (Server.roundsUntil st done rounds s) := by
  induction rounds generalizing s with
  | zero => exact h.refl s
  | succ rounds ih =>
    rw [Server.roundsUntil]
    split
    · exact h.refl s
    · exact h.trans (h.round s) (ih _)

lemma settle (s : Server σ) : R s (s.settle st) := h.roundsUntil _ _ s

lemma runUntil (finish now : Nat) (s : Server σ) : R s (Server.runUntil st finish now s) := by
  -- along the recursion: each round of it ends at the next moment at which something is due
  fun_induction Server.runUntil st finish now s with
  | case1 now s settled _ => exact h.trans (h.settle s) (h.tick _ _)
  | case2 now s settled t _ _ ih => exact h.trans (h.trans (h.settle s) (h.tick _ _)) ih

/-- Whatever every single step of time keeps, a pause keeps. -/
theorem elapse (s : Server σ) (milliseconds : Nat) : R s (s.elapse st milliseconds) := by
  rw [Server.elapse]
  split
  · exact h.refl s
  · exact h.runUntil _ _ s

end Abiding

/-! ### The instrument and the blanking stay as they are -/

omit [Instrument σ] in
/-- The later state has the same instrument and the same blanking, and all events of the earlier
one. -/
structure Beside (s s' : Server σ) : Prop where
  instrument : s'.instrument = s.instrument
  blank : s'.blank = s.blank
  journal : s.journal.toList <+: s'.journal.toList

namespace Beside

omit [Instrument σ]

lemma refl (s : Server σ) : Beside s s := ⟨rfl, rfl, List.prefix_rfl⟩

lemma trans {s t u : Server σ} (h : Beside s t) (h' : Beside t u) : Beside s u :=
  ⟨h'.instrument.trans h.instrument, h'.blank.trans h.blank, h.journal.trans h'.journal⟩

lemma log (s : Server σ) (level : LogLevel) (message : String) : Beside s (s.log level message) :=
  ⟨rfl, rfl, by simp [Server.log]⟩

lemma wake (s : Server σ) (number : Nat) : Beside s (s.wake number) := by
  rw [Server.wake]
  split
  · exact ⟨rfl, rfl, List.prefix_rfl⟩
  · exact refl s

lemma changeSubscription (s : Server σ) (number : Nat) (f : Subscription → Subscription) :
    Beside s (s.changeSubscription number f) := ⟨rfl, rfl, List.prefix_rfl⟩

lemma close (s : Server σ) : Beside s s.close := (changeSubscription s _ _).trans (wake _ _)

lemma emit (st : Station) (s : Server σ) (spectrum : Spectrum) :
    Beside s (s.emit st spectrum).2 := by
  rw [Server.emit]
  dsimp only
  split
  · exact (changeSubscription s _ _).trans (wake _ _)
  · exact refl s

end Beside

lemma cupNamed_beside (s : Server σ) (name : String) : Beside s (s.cupNamed name).2 := by
  rw [cupNamed]
  split
  · exact .refl s
  · split
    · exact .refl s
    · exact .log s _ _

lemma activeCup_beside (s : Server σ) : Beside s s.activeCup.2 := by
  rw [activeCup]
  split
  · exact .refl s
  · exact cupNamed_beside s _

lemma takeSnapshot_beside (st : Station) (s : Server σ) (spectrum : Spectrum) :
    Beside s (s.takeSnapshot st spectrum).2 := by
  have h := activeCup_beside s
  rw [takeSnapshot]
  split
  · next heq => rwa [heq] at h
  · next heq =>
    rw [heq] at h
    exact h.trans ⟨rfl, rfl, List.prefix_rfl⟩

lemma process_beside (st : Station) (s : Server σ) (spectrum : Spectrum) :
    Beside s (s.process st spectrum) := by
  have h := takeSnapshot_beside st s spectrum
  rw [process]
  split
  · next heq => rwa [heq] at h
  · next heq =>
    rw [heq] at h
    exact h.trans (.log _ _ _)

lemma processAll_beside (st : Station) (spectra : List Spectrum) (s : Server σ) :
    Beside s (spectra.foldl (process st) s) := by
  induction spectra generalizing s with
  | nil => exact .refl s
  | cons spectrum rest ih => exact (process_beside st s spectrum).trans (ih _)

lemma processTurn_beside (st : Station) (s : Server σ) (number : Nat) :
    Beside s (s.processTurn st number) := by
  rw [processTurn]
  split
  · exact .refl s
  · refine Beside.trans ?_ (processAll_beside st _ _)
    split <;> exact ⟨rfl, rfl, List.prefix_rfl⟩

lemma acquisitionTurn_beside (st : Station) (s : Server σ) (a : Acquisition) :
    Beside s (s.acquisitionTurn st a) := by
  have h := Beside.emit st s (Instrument.acquire s.instrument (a.cycle + 1))
  rw [acquisitionTurn, acquire]
  dsimp only
  split
  · exact h.trans ⟨rfl, rfl, List.prefix_rfl⟩
  · exact h

lemma beside_abiding (st : Station) : Abiding st (Beside (σ := σ)) where
  refl := .refl
  trans := .trans
  turn s activity rest _ := by
    have popped : Beside s { s with ready := rest } := ⟨rfl, rfl, List.prefix_rfl⟩
    cases activity with
    | processing number => exact popped.trans (processTurn_beside st _ number)
    | acquisition a => exact popped.trans (acquisitionTurn_beside st _ a)
  regroup _ := ⟨rfl, rfl, List.prefix_rfl⟩
  tick _ _ := ⟨rfl, rfl, List.prefix_rfl⟩

/-- A pause changes neither the instrument nor the blanking. -/
theorem pause_beside (st : Station) (s : Server σ) (milliseconds : Nat) :
    Beside s (s.elapse st milliseconds) := (beside_abiding st).elapse s milliseconds

end SpectroRemote.Server
