import Mathlib.Data.List.Induction
import SpectroRemote.Instrument.Simulated
import SpectroRemote.Proofs.Stopping
import SpectroRemote.Proofs.Underway.Cups

/-!
# Delivery of spectra

What can be done with a server is a choice of actions, in any order (`Action`), and each of them
comes down to steps (`Server.actSteps`). Whatever the steps are and in whatever order, spectra reach
the snapshot in the order in which they were accepted, each of them once and whole, with the cup
configuration that was active then (`spectra_delivered`).
-/

namespace SpectroRemote

/-- What can be done with a server, or happen to its instrument. -/
inductive Action (σ : Type)
  | emit (x : Spectrum)
  | startScan
  | endScan
  | stopScan
  | serve (line : String)
  | elapse (milliseconds : Nat)
  | round
  | settle
  | startAcquisition (period : Nat)
  | makeReady
  /-- The instrument becomes another, such as one that does not tell its active cup
  configuration. -/
  | become (f : σ → σ)

namespace Server

open Underway

variable {σ : Type} [Instrument σ] (st : Station)

/-- The state after an action. -/
def act (s : Server σ) : Action σ → Server σ
  | .emit x => (s.emit st x).2
  | .startScan => s.startScan
  | .endScan => s.endScan
  | .stopScan => s.stopScan st
  | .serve line => (s.serveLine st line).2
  | .elapse milliseconds => s.elapse st milliseconds
  | .round => s.round st
  | .settle => s.settle st
  | .startAcquisition period => s.startAcquisition period
  | .makeReady => s.makeReady st
  | .become f => { s with instrument := f s.instrument }

/-- An action serves a line, makes the server ready or changes the instrument, or else it leaves the
instrument and the blanking as they are. -/
lemma act_cases (s : Server σ) (a : Action σ) :
    (∃ line, a = .serve line) ∨ a = .makeReady ∨ (∃ f, a = .become f) ∨ Beside s (s.act st a) := by
  have beside (h : Beside s (s.act st a)) : (∃ line, a = .serve line) ∨ a = .makeReady
      ∨ (∃ f, a = .become f) ∨ Beside s (s.act st a) := .inr (.inr (.inr h))
  cases a with
  | emit x => exact beside (.emit st s x)
  | startScan => exact beside ((Beside.close s).trans ⟨rfl, rfl, List.prefix_rfl⟩)
  | endScan => exact beside ((Beside.close s).trans (.log _ _ _))
  | stopScan =>
    exact beside (((Beside.close s).trans (.log _ _ _)).trans
      ((beside_abiding st).roundsUntil _ _ _))
  | serve line => exact .inl ⟨line, rfl⟩
  | elapse milliseconds => exact beside (pause_beside st s milliseconds)
  | round => exact beside ((beside_abiding st).round s)
  | settle => exact beside ((beside_abiding st).settle s)
  | startAcquisition period =>
    refine beside ?_
    rw [act, startAcquisition]
    split
    · exact .refl s
    · exact ⟨rfl, rfl, List.prefix_rfl⟩
  | makeReady => exact .inr (.inl rfl)
  | become f => exact .inr (.inr (.inl ⟨f, rfl⟩))

/-! ### Actions as steps -/

/-- The steps of an action. -/
def actSteps (s : Server σ) : Action σ → List (Step σ)
  | .emit x => [.emit x]
  | .startScan => [.start]
  | .endScan => [.finish]
  | .stopScan =>
    let s := s.endScan
    .finish ::
      roundsSteps st (·.subscriptions.getLast?.all (·.progress = .finished)) s.workload s
  | .serve line => s.lineSteps st line
  | .elapse milliseconds => s.elapseSteps st milliseconds
  | .round => turnsSteps st roundLength s
  | .settle => s.settleSteps st
  | .startAcquisition _ => []
  | .makeReady => [.become (s.makeReady st).instrument]
  | .become f => [.become (f s.instrument)]

/-- The steps of actions one after the other. -/
def actsSteps (s : Server σ) : List (Action σ) → List (Step σ)
  | [] => []
  | a :: rest => s.actSteps st a ++ actsSteps (s.act st a) rest

lemma makeReady_eq (s : Server σ) :
    ∃ blank journal, s.makeReady st =
      { s with instrument := (Instrument.prepareScan s.instrument).2, blank, journal } := by
  have hprime (s : Server σ) : ∃ blank journal, s.primeBlank st = { s with blank, journal } := by
    rw [primeBlank]
    split <;> exact ⟨_, _, rfl⟩
  rw [makeReady]
  split
  · next i hprepare =>
    rw [hprepare]
    exact hprime { s with instrument := i }
  · next i hprepare =>
    rw [hprepare]
    exact hprime (log { s with instrument := i } .warn "Could not initialize script scan")

lemma stopScan_underway (s : Server σ) :
    (s.stopScan st).underway = s.underway.after st (s.actSteps st .stopScan) := by
  rw [stopScan, roundsUntil_underway, endScan_underway, actSteps, after_cons]

/-- An action comes down to its steps. -/
lemma act_underway (s : Server σ) (a : Action σ) :
    (s.act st a).underway = s.underway.after st (s.actSteps st a) := by
  cases a with
  | emit x => exact emit_underway st s x
  | startScan => exact startScan_underway st s
  | endScan => exact endScan_underway st s
  | stopScan => exact stopScan_underway st s
  | serve line => exact serveLine_underway st s line
  | elapse milliseconds => exact elapse_underway st s milliseconds
  | round => exact round_underway st s
  | settle => exact settle_underway st s
  | startAcquisition period =>
    rw [act, startAcquisition]
    split <;> rfl
  | makeReady =>
    obtain ⟨blank, journal, h⟩ := makeReady_eq st s
    rw [act, actSteps, h]
    rfl
  | become f => rfl

lemma acts_underway (s : Server σ) (actions : List (Action σ)) :
    (actions.foldl (act st) s).underway = s.underway.after st (s.actsSteps st actions) := by
  induction actions generalizing s with
  | nil => rfl
  | cons a rest ih => rw [List.foldl_cons, ih, act_underway, actsSteps, after_append]

lemma acts_start (i : σ) (actions : List (Action σ)) :
    (actions.foldl (act st) { instrument := i }).underway
      = (start i).after st (actsSteps st { instrument := i } actions) := acts_underway ..

lemma snapshot_acts (i : σ) (actions : List (Action σ)) :
    (actions.foldl (act st) { instrument := i }).snapshot
      = lastShown st ((start i).history st (actsSteps st { instrument := i } actions)) := by
  rw [← (traced st i _).snapshot, ← acts_start]
  rfl

/-! ### Actions keep order -/

/-- The server is between two rounds, and there is order. -/
def IsRested (s : Server σ) : Prop := s.Orderly ∧ s.postponed = []

variable {st} in
lemma Reaches.isRested {P : Effect → Prop} {s t : Server σ} (h : Reaches st P s t)
    (hs : s.IsRested) : t.IsRested := by
  induction h with
  | refl => exact hs
  | @tail t _ _ hstep ih =>
    obtain ⟨e, -, rfl⟩ := hstep
    cases e with
    | change | note | blanking => exact ⟨ih.1.mono rfl (List.Subset.refl _), ih.2⟩
    | pause => exact ⟨(orderly_abiding st).elapse t _ ih.1, elapse_postponed st ih.2 _⟩

lemma act_isRested {s : Server σ} (h : s.IsRested) (a : Action σ) : (s.act st a).IsRested := by
  cases a with
  | emit x => exact ⟨h.1.emit st x, (postponed_emit st s x).trans h.2⟩
  | startScan => exact ⟨h.1.startScan, (postponed_close s).trans h.2⟩
  | endScan => exact ⟨h.1.endScan, (postponed_close s).trans h.2⟩
  | stopScan =>
    refine ⟨(orderly_abiding st).roundsUntil _ _ _ h.1.endScan, ?_⟩
    exact roundsUntil_postponed st _ _ ((postponed_close s).trans h.2)
  | serve line =>
    rw [act]
    cases hparse : Request.parse line with
    | error e => rwa [serveLine_of_parse_error hparse]
    | ok r =>
      rw [serveLine_of_parse hparse]
      exact (serveRequest_reaches st s r).isRested h
  | elapse milliseconds => exact ⟨(orderly_abiding st).elapse s _ h.1, elapse_postponed st h.2 _⟩
  | round => exact ⟨(orderly_abiding st).round s h.1, rfl⟩
  | settle => exact ⟨(orderly_abiding st).settle s h.1, roundsUntil_postponed st _ _ h.2⟩
  | startAcquisition period =>
    rw [act, startAcquisition]
    split
    · exact h
    · exact ⟨h.1.mono rfl (by simp), h.2⟩
  | makeReady =>
    obtain ⟨blank, journal, hready⟩ := makeReady_eq st s
    rw [act, hready]
    exact ⟨h.1.mono rfl (List.Subset.refl _), h.2⟩
  | become f => exact ⟨h.1.mono rfl (List.Subset.refl _), h.2⟩

/-- Whatever is done with a new server, it is between two rounds, and there is order. -/
lemma isRested_acts (i : σ) (actions : List (Action σ)) :
    (actions.foldl (act st) { instrument := i }).IsRested := by
  induction actions using List.reverseRecOn with
  | nil =>
    refine ⟨⟨?_, ?_⟩, rfl⟩
    · intro k sub hsub
      cases hsub
    · intro k sub hsub
      cases hsub
  | append_singleton actions a ih =>
    rw [List.foldl_append]
    exact act_isRested st ih a

/-! ### Delivery -/

/-- What a server, which began with an instrument and has come as far as some steps lead, has made
of the spectra that came in. -/
structure Delivers (i : σ) (steps : List (Step σ)) (s : Server σ) : Prop where
  /-- The instrument is in the state that it was said to be in last. -/
  instrument : s.instrument = (steps.filterMap Step.instrument?).getLast?.getD i
  /-- A spectrum is accepted exactly if someone is subscribed whose queue is not full. -/
  accepts_iff : ∀ x, (s.emit st x).1 = true ↔ subscribedAfter ((start i).history st steps) = true
    ∧ (s.queueOf s.latest).length < st.settings.scan.channelCapacity.toNat
  refuses : ∀ x, (s.emit st x).1 = false → (s.emit st x).2 = s
  /-- The accepted spectra, and no others, are ingested in their order, and those that are not yet
  ingested are in hand or wait. -/
  inOrder : ∀ k, acceptedBy k ((start i).history st steps) =
    ingestedBy k ((start i).history st steps)
      ++ (((start i).after st steps).inHand k ++ s.queueOf k)
  /-- The latest spectrum that found a cup configuration is shown whole. -/
  shows : ∀ line argument, Request.parse line = .ok ⟨.getData, argument⟩ →
    (s.serveLine st line).1 = lastShown st ((start i).history st steps)
  /-- It found the one of the name that was active when it was asked for, while the spectrum was in
  hand. -/
  active : ∀ before k x cup? after,
    (start i).history st steps = before ++ .ingested k x cup? :: after →
      ∃ earlier later, steps = earlier ++ .conclude k :: later
        ∧ (start i).history st earlier = before ∧ Identified st (start i) earlier k x cup?
  /-- Processing that has ended has left nothing behind, and nothing can come any more. -/
  finished : ∀ k sub, s.subscriptions[k]? = some sub → sub.progress = .finished →
    acceptedBy k ((start i).history st steps) = ingestedBy k ((start i).history st steps)
      ∧ (k = s.latest → ∀ x, (s.emit st x).1 = false)

lemma delivers {i : σ} {steps : List (Step σ)} {s : Server σ}
    (hs : s.IsAt ((start i).after st steps)) : Delivers st i steps s := by
  have htraced := traced st i steps
  have hqueue (k : Nat) : ((start i).after st steps).server.queueOf k = s.queueOf k := by
    rw [queueOf, queueOf, hs.subscriptions]
    rfl
  have hsubscribed : s.isSubscribed = subscribedAfter ((start i).history st steps) := by
    rw [← htraced.isSubscribed, isSubscribed, isSubscribed, hs.subscriptions]
    rfl
  have horder := htraced.accepted
  constructor
  · rw [hs.instrument, instrument_after]
    rfl
  · intro x
    rw [emit_fst, hsubscribed]
  · intro x hx
    exact emit_refused hx
  · intro k
    rw [horder, hqueue]
  · intro line argument hparse
    rw [serveLine, hparse, ← htraced.snapshot, ← hs.snapshot]
    rfl
  · intro before k x cup? after hhistory
    obtain ⟨earlier, later, hsteps, hbefore, hhand⟩ := exists_conclude st hhistory
    exact ⟨earlier, later, hsteps, hbefore, identified st { instrument := i } earlier hhand⟩
  · intro k sub hsub hprogress
    obtain ⟨hclosed, hempty, hhand⟩ :=
      htraced.finished k sub (hs.subscriptions ▸ hsub) hprogress
    constructor
    · rw [horder, hqueue, inHand, hhand, queueOf, hsub, Option.map_some, Option.getD_some, hempty]
      exact List.append_nil _
    · rintro rfl x
      apply emit_of_not_isSubscribed
      rw [isSubscribed, List.getLast?_eq_getElem?, ← latest, hsub]
      exact hclosed

/-- When a scan is stopped after some actions, the processing of the latest subscription has ended,
and no more spectra are accepted. -/
lemma stopScan_acts (i : σ) (actions : List (Action σ)) :
    let start : Server σ := { instrument := i }
    let s := (actions.foldl (act st) start).stopScan st
    let steps := start.actsSteps st (actions ++ [.stopScan])
    acceptedBy s.latest ((Underway.start i).history st steps)
        = ingestedBy s.latest ((Underway.start i).history st steps)
      ∧ ∀ x, (s.emit st x).1 = false := by
  intro start s steps
  obtain ⟨horderly, hpostponed⟩ := isRested_acts st i actions
  obtain ⟨hfinished, hclosed⟩ := stopScan_hasFinished st horderly hpostponed
  refine ⟨?_, emit_of_not_isSubscribed hclosed⟩
  have hunderway : s.underway = (Underway.start i).after st steps := by
    rw [← acts_start, List.foldl_append]
    rfl
  have hdelivers : Delivers st i steps s := delivers st (hunderway ▸ isAt_underway s)
  cases hsub : s.subscriptions[s.latest]? with
  | none =>
    rw [hdelivers.inOrder, ← hunderway, queueOf, hsub]
    exact List.append_nil _
  | some sub => exact (hdelivers.finished _ sub hsub (hfinished.progress hsub)).1

/-- Spectra come in, are processed and are shown step by step, and the steps of all subscriptions
and everything else can follow each other in any order: each accepted spectrum is ingested once and
in its order, and the snapshot is that of the latest one, with the cup configuration that was active
then. Whatever is done with the server comes down to such steps, and a spectrum that is processed is
shown with the cup configuration that is active at that time. After a scan has been stopped all
spectra of the latest subscription are ingested, and no more are accepted. -/
theorem spectra_delivered (i : σ) :
    (∀ steps s, s.IsAt ((start i).after st steps) → Delivers st i steps s)
      ∧ (∀ (s : Server σ) (a : Action σ),
        (s.act st a).underway = s.underway.after st (s.actSteps st a))
      ∧ (∀ (s : Server σ) (x : Spectrum),
        (s.process st x).snapshot = (Instrument.activeCup? s.instrument).elim s.snapshot
          fun cup => st.settings.scan.snapshot cup x)
      ∧ ∀ actions : List (Action σ),
          let start : Server σ := { instrument := i }
          let s := actions.foldl (act st) start
          let stopped := s.stopScan st
          let h := (Underway.start i).history st (start.actsSteps st (actions ++ [.stopScan]))
          Delivers st i (start.actsSteps st actions) s
            ∧ acceptedBy stopped.latest h = ingestedBy stopped.latest h
            ∧ ∀ x, (stopped.emit st x).1 = false := by
  refine ⟨fun steps s hs => delivers st hs, act_underway st, snapshot_process st, ?_⟩
  intro actions start s stopped h
  have hunderway : s.underway = _ := acts_start st i actions
  exact ⟨delivers st (hunderway ▸ isAt_underway s), stopScan_acts st i actions⟩

/-- A spectrum comes in while Argon is active, but it is shown with the cup configuration that is
active when it is processed. -/
theorem spectra_delivered_switched :
    let st : Station := { settings := { cups := { cupConfiguration := "Helium" } } }
    let x : Spectrum := ⟨[[⟨40, 1.5⟩], [⟨4, 2.5⟩]]⟩
    let start : Server SimulatedInstrument := { instrument := .multicollector }
    let actions := [.startScan, .emit x, .serve "SetSubCupConfiguration He4", .settle]
    let s := actions.foldl (act st) start
    (s.serveLine st "GetData").1 = "AX,2.5"
      ∧ lastShown st ((Underway.start start.instrument).history st (start.actsSteps st actions))
        = "AX,2.5"
      ∧ ((s.stopScan st).emit st x).1 = false := by
  intro st x start actions s
  obtain ⟨-, -, -, hacts⟩ := spectra_delivered st start.instrument
  obtain ⟨hdelivers, -, hclosed⟩ := hacts actions
  have hparse : Request.parse "GetData" = .ok ⟨.getData, ""⟩ := by decide +kernel
  have hshown : (s.serveLine st "GetData").1 = "AX,2.5" := by decide +kernel
  exact ⟨hshown, (hdelivers.shows _ _ hparse).symm.trans hshown, hclosed x⟩

end Server

end SpectroRemote
