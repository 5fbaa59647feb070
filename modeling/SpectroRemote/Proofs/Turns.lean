import SpectroRemote.Proofs.Effects
import SpectroRemote.Proofs.Underway

/-!
# Turns as steps of spectra

Whatever the server does, spectra are moved on step by step: a turn of processing takes them off
their queue one after the other and brings each of them to its end, an acquisition delivers one, and
between two writes of a magnet move there are as many turns as there is time for. This file lists
the steps of each operation, and shows that they lead to the state after the operation.
-/

namespace SpectroRemote.Server

open Underway

variable {σ : Type} [Instrument σ] (st : Station)

/-! ### The active cup configuration -/

lemma activeCup_snd (s : Server σ) :
    s.activeCup.2 = { s with journal := s.activeCup.2.journal } := by
  unfold activeCup cupNamed
  split
  · rfl
  · split
    · rfl
    · split <;> rfl

lemma toOption_cupNamed (s : Server σ) (name : String) :
    (s.cupNamed name).1.toOption = Instrument.cupNamed? s.instrument name := by
  rw [cupNamed, allCups, Instrument.cupNamed?]
  cases Instrument.cups s.instrument with
  | error e => rfl
  | ok cups =>
    simp only [Except.toOption, Option.bind_some]
    cases cups.find? fun c => c.name = name <;> rfl

lemma toOption_activeCup (s : Server σ) :
    s.activeCup.1.toOption = Instrument.activeCup? s.instrument := by
  rw [activeCup, activePair, Instrument.activeCup?, Instrument.activeName?]
  cases Instrument.activePair s.instrument with
  | error e => rfl
  | ok names => exact toOption_cupNamed s names.1

lemma activeCup_fst_congr {s t : Server σ} (h : t.instrument = s.instrument) :
    t.activeCup.1 = s.activeCup.1 := by
  unfold activeCup activePair cupNamed allCups
  rw [h]
  split
  · rfl
  · split
    · rfl
    · split <;> rfl

/-! ### Single operations -/

lemma emit_underway (s : Server σ) (x : Spectrum) :
    (s.emit st x).2.underway = s.underway.perform st (.emit x) := by
  have hfirst : (s.underway.server.emit st x).1 = (s.emit st x).1 :=
    Bool.eq_iff_iff.mpr ((emit_fst st s.underway.server x).trans (emit_fst st s x).symm)
  cases h : (s.emit st x).1 with
  | false =>
    rw [perform, emit_refused h, emit_refused (hfirst.trans h)]
    rfl
  | true =>
    have hsubscriptions : (s.emit st x).2.subscriptions
        = (s.underway.server.emit st x).2.subscriptions := by
      rw [emit_subscriptions h, emit_subscriptions (hfirst.trans h)]
      rfl
    rw [perform, goOn, underway, underway, hsubscriptions, (Beside.emit st s x).instrument,
      (Beside.emit st s.underway.server x).instrument, snapshot_emit, snapshot_emit]
    rfl

omit [Instrument σ] in
lemma close_underway (s : Server σ) : s.close.underway = s.underway.server.close.underway := by
  rw [underway, underway, close_subscriptions, close_subscriptions, (Beside.close s).instrument,
    (Beside.close s.underway.server).instrument, snapshot_close, snapshot_close]
  rfl

lemma startScan_underway (s : Server σ) : s.startScan.underway = s.underway.perform st .start := by
  have h := close_underway s
  simp only [underway, Underway.mk.injEq] at h
  simp only [perform, goOn, underway, startScan, h]

lemma endScan_underway (s : Server σ) : s.endScan.underway = s.underway.perform st .finish :=
  close_underway s

/-- A spectrum is shown with the cup configuration that is active, if there is one. -/
lemma process_eq (s : Server σ) (x : Spectrum) :
    s.process st x =
      { s with
        snapshot := (Instrument.activeCup? s.instrument).elim s.snapshot
          fun cup => st.settings.scan.snapshot cup x
        journal := (s.process st x).journal } := by
  have hcup := activeCup_snd s
  rw [← toOption_activeCup, process, takeSnapshot]
  rcases h : s.activeCup with ⟨⟨e⟩ | ⟨cup⟩, t⟩
  · rw [h] at hcup
    dsimp only at hcup
    rw [hcup]
    rfl
  · rw [h] at hcup
    dsimp only at hcup
    rw [hcup]
    rfl

lemma snapshot_process (s : Server σ) (x : Spectrum) :
    (s.process st x).snapshot =
      (Instrument.activeCup? s.instrument).elim s.snapshot
        fun cup => st.settings.scan.snapshot cup x := by
  rw [process_eq]

/-- The steps that bring a spectrum to its end. -/
def processingSteps (k : Nat) : List (Step σ) := [.take k, .name k, .identify k, .conclude k]

/-- A spectrum is taken off its queue and processed. -/
lemma process_underway {s : Server σ} {k : Nat} {x : Spectrum} {rest : List Spectrum}
    (hqueue : s.queueOf k = x :: rest) :
    s.underway.after st (processingSteps k)
      = ((s.changeSubscription k ({ · with queue := rest })).process st x).underway := by
  have htake := perform_take st (u := s.underway) (k := k) rfl hqueue
  rw [processingSteps, after_cons, after_cons, after_cons, after_cons, after_nil, htake,
    perform_name st (hands_hold ..), hold_hold, perform_identify st (hands_hold ..), hold_hold,
    perform_conclude st (hands_hold ..), hold_hold, hold_none rfl, process_eq]
  rfl

lemma processAll_eq (xs : List Spectrum) (s : Server σ) :
    ∃ snapshot journal, xs.foldl (process st) s = { s with snapshot, journal } := by
  induction xs generalizing s with
  | nil => exact ⟨_, _, rfl⟩
  | cons x xs ih =>
    obtain ⟨snapshot, journal, h⟩ := ih (s.process st x)
    rw [List.foldl_cons, h, process_eq]
    exact ⟨_, _, rfl⟩

/-- Which snapshot comes out depends on the instrument and on the snapshot before. -/
lemma snapshot_processAll_congr (xs : List Spectrum) {s t : Server σ}
    (hinstrument : t.instrument = s.instrument) (hsnapshot : t.snapshot = s.snapshot) :
    (xs.foldl (process st) t).snapshot = (xs.foldl (process st) s).snapshot := by
  induction xs generalizing s t with
  | nil => exact hsnapshot
  | cons x xs ih =>
    rw [List.foldl_cons, List.foldl_cons]
    apply ih
    · rw [(process_beside st t x).instrument, (process_beside st s x).instrument, hinstrument]
    · rw [snapshot_process, snapshot_process, hinstrument, hsnapshot]

/-- Spectra are taken off a queue and processed one after the other. -/
lemma processAll_underway {k : Nat} (xs : List Spectrum) {rest : List Spectrum} {s : Server σ}
    (hqueue : s.queueOf k = xs ++ rest) :
    s.underway.after st (xs.flatMap fun _ => processingSteps k) =
      { instrument := s.instrument
        subscriptions := s.subscriptions.modify k ({ · with queue := rest })
        snapshot := (xs.foldl (process st) s).snapshot
        hands := fun _ => none } := by
  induction xs generalizing s with
  | nil =>
    have hsame : s.subscriptions.modify k ({ · with queue := rest }) = s.subscriptions := by
      rw [modify_congr (g := id) fun sub hsub => ?_, List.modify_id]
      rw [queueOf, hsub] at hqueue
      rw [← List.nil_append rest, ← hqueue]
      rfl
    rw [hsame]
    rfl
  | cons x xs ih =>
    rw [List.cons_append] at hqueue
    let t := s.changeSubscription k ({ · with queue := xs ++ rest })
    have ht : (t.process st x).subscriptions
        = s.subscriptions.modify k ({ · with queue := xs ++ rest }) := by
      rw [process_eq]
      rfl
    obtain ⟨sub, hsub, -⟩ := exists_of_queueOf hqueue
    have hqueue' : (t.process st x).queueOf k = xs ++ rest := by
      rw [queueOf_modify_eq ht hsub, if_pos rfl]
    have hsnapshot := snapshot_processAll_congr st (x :: xs) (s := s) (t := t) rfl rfl
    rw [List.foldl_cons] at hsnapshot
    rw [List.flatMap_cons, after_append, process_underway st hqueue, ih hqueue', ht,
      List.modify_modify_eq, hsnapshot, (process_beside st t x).instrument]
    rfl

/-! ### Turns of processing -/

lemma processTurn_of_none {s : Server σ} {k : Nat} (hsub : s.subscriptions[k]? = none) :
    s.processTurn st k = s := by
  rw [processTurn, hsub]

lemma processTurn_eq {s : Server σ} {k : Nat} {sub : Subscription}
    (hsub : s.subscriptions[k]? = some sub) :
    ∃ journal, s.processTurn st k =
      { s with
        subscriptions := s.subscriptions.modify k (·.afterTurn s.turnCapacity)
        postponed := if s.turnCapacity ≤ sub.queue.length then .processing k :: s.postponed
          else s.postponed
        snapshot := ((sub.queue.take s.turnCapacity).foldl (process st) s).snapshot
        journal } := by
  rw [processTurn]
  rw [hsub]
  dsimp only
  generalize s.turnCapacity = capacity
  generalize ht : (if capacity ≤ sub.queue.length then
    { s with postponed := .processing k :: s.postponed } else s) = t
  generalize hu : t.changeSubscription k _ = u
  obtain ⟨snapshot, journal, h⟩ := processAll_eq st (sub.queue.take capacity) u
  have hsnapshot : ((sub.queue.take capacity).foldl (process st) s).snapshot = snapshot := by
    have hsame := snapshot_processAll_congr st (sub.queue.take capacity) (s := s) (t := u)
      (by rw [← hu, ← ht]; split <;> rfl) (by rw [← hu, ← ht]; split <;> rfl)
    rw [← hsame, h]
  have hsubscriptions : u.subscriptions = s.subscriptions.modify k (·.afterTurn capacity) := by
    have hsame : t.subscriptions = s.subscriptions := by
      rw [← ht]
      split <;> rfl
    rw [← hu, changeSubscription, hsame]
    refine modify_congr fun old hold => ?_
    obtain rfl := Option.some.inj (hsub.symm.trans hold)
    rfl
  refine ⟨journal, ?_⟩
  rw [h, hsnapshot, ← hsubscriptions, ← hu, ← ht]
  split <;> rfl

/-- The steps of a turn of processing: as many spectra as it allows are processed, and then it is
marked how the processing stands. -/
def turnSteps (s : Server σ) (k : Nat) : List (Step σ) :=
  match s.subscriptions[k]? with
  | none => []
  | some sub =>
    ((sub.queue.take s.turnCapacity).flatMap fun _ => processingSteps k)
      ++ [.mark k (sub.afterTurn s.turnCapacity).progress]

lemma processTurn_underway (s : Server σ) (k : Nat) :
    (s.processTurn st k).underway = s.underway.after st (s.turnSteps k) := by
  rw [turnSteps]
  cases hsub : s.subscriptions[k]? with
  | none => rw [processTurn_of_none st hsub, after_nil]
  | some sub =>
    obtain ⟨journal, h⟩ := processTurn_eq st hsub
    rw [h]
    generalize s.turnCapacity = capacity
    have hqueue : s.queueOf k = sub.queue.take capacity ++ sub.queue.drop capacity := by
      rw [List.take_append_drop, queueOf, hsub]
      rfl
    dsimp only
    rw [after_concat, processAll_underway st _ hqueue, perform_mark]
    · simp only [goOn, underway, server, changeSubscription, List.modify_modify_eq]
      congr 1
      refine modify_congr fun old hold => ?_
      obtain rfl := Option.some.inj (hsub.symm.trans hold)
      rfl
    · intro hfinished
      obtain ⟨hempty, hclosed⟩ := Subscription.afterTurn_finished hfinished
      simp [isThrough, hsub, hempty, hclosed]

/-! ### The passing of time -/

def activitySteps (s : Server σ) : Activity → List (Step σ)
  | .processing number => s.turnSteps number
  | .acquisition a => [.emit (Instrument.acquire s.instrument (a.cycle + 1))]

def turnsSteps (st : Station) : (turns : Nat) → Server σ → List (Step σ)
  | 0, _ => []
  | turns + 1, s =>
    match s.ready with
    | [] => []
    | activity :: ready =>
      activitySteps { s with ready } activity
        ++ turnsSteps st turns ({ s with ready }.takeTurn st activity)

def roundsSteps (st : Station) (done : Server σ → Bool) : (rounds : Nat) → Server σ → List (Step σ)
  | 0, _ => []
  | rounds + 1, s =>
    if done s then [] else turnsSteps st roundLength s ++ roundsSteps st done rounds (s.round st)

def settleSteps (st : Station) (s : Server σ) : List (Step σ) :=
  roundsSteps st (·.ready.isEmpty) s.workload s

def untilSteps (st : Station) (finish now : Nat) (s : Server σ) : List (Step σ) :=
  let settled := s.settle st
  match nextDue? now finish settled.sleeping with
  | none => settleSteps st s
  | some ⟨t, _⟩ => settleSteps st s ++ untilSteps st finish t { settled with clock := t }.wakeDue
termination_by finish - now
decreasing_by omega

def elapseSteps (st : Station) (s : Server σ) (milliseconds : Nat) : List (Step σ) :=
  if milliseconds = 0 then []
  else s.untilSteps st (s.clock + min milliseconds longestPause) s.clock

lemma takeTurn_underway (s : Server σ) (activity : Activity) :
    (s.takeTurn st activity).underway = s.underway.after st (s.activitySteps activity) := by
  cases activity with
  | processing number => exact processTurn_underway st s number
  | acquisition a =>
    have h := emit_underway st s (Instrument.acquire s.instrument (a.cycle + 1))
    rw [takeTurn, acquisitionTurn, acquire]
    dsimp only
    split <;> exact h

lemma takeTurns_underway (turns : Nat) (s : Server σ) :
    (takeTurns st turns s).underway = s.underway.after st (turnsSteps st turns s) := by
  induction turns generalizing s with
  | zero => rfl
  | succ turns ih =>
    rw [takeTurns, turnsSteps]
    cases s.ready with
    | nil => rfl
    | cons activity ready =>
      dsimp only
      rw [ih, takeTurn_underway, after_append]
      rfl

lemma round_underway (s : Server σ) :
    (s.round st).underway = s.underway.after st (turnsSteps st roundLength s) :=
  takeTurns_underway st roundLength s

lemma roundsUntil_underway (done : Server σ → Bool) (rounds : Nat) (s : Server σ) :
    (roundsUntil st done rounds s).underway
      = s.underway.after st (roundsSteps st done rounds s) := by
  induction rounds generalizing s with
  | zero => rfl
  | succ rounds ih =>
    rw [roundsUntil, roundsSteps]
    split
    · rfl
    · rw [ih, round_underway, after_append]

lemma settle_underway (s : Server σ) :
    (s.settle st).underway = s.underway.after st (settleSteps st s) :=
  roundsUntil_underway st _ _ s

lemma runUntil_underway (finish now : Nat) (s : Server σ) :
    (s.runUntil st finish now).underway = s.underway.after st (untilSteps st finish now s) := by
  fun_induction runUntil st finish now s with
  | case1 now s settled hnone =>
    rw [untilSteps, hnone]
    exact settle_underway st s
  | case2 now s settled t hlater hsome ih =>
    rw [untilSteps, hsome]
    dsimp only
    rw [ih, after_append, ← settle_underway]
    rfl

lemma elapse_underway (s : Server σ) (milliseconds : Nat) :
    (s.elapse st milliseconds).underway
      = s.underway.after st (s.elapseSteps st milliseconds) := by
  rw [elapse, elapseSteps]
  split
  · rfl
  · exact runUntil_underway st _ _ s

/-! ### Requests -/

/-- The steps of the writes of a magnet move after the first one, each with the turns before it. -/
def continueSteps (st : Station) : List Float → Server σ → List (Step σ)
  | [], _ => []
  | field :: rest, s =>
    let written := ((s.pause st).writeSetpoint st field).2
    s.elapseSteps st st.settings.magnet.stepTime.toNat
      ++ .become written.instrument :: continueSteps st rest written

def carryOutSteps (s : Server σ) : List Float → List (Step σ)
  | [] => []
  | field :: rest =>
    let written := (s.writeSetpoint st field).2
    .become written.instrument :: continueSteps st rest written

def magnetSteps (s : Server σ) (target : Float) : List (Step σ) :=
  match s.read st.settings.hardware.magnetDac with
  | .error _ => []
  | .ok current =>
    let move := st.settings.magnet.plan current target
    let s := if move.isDivided then s.log .info "Stepping magnet DAC" else s
    s.carryOutSteps st move.setpoints

/-- The steps of a request. One that is no move of the magnet is served in one piece, and only the
instrument may be in another state then. -/
def lineSteps (s : Server σ) (line : String) : List (Step σ) :=
  match Request.parse line with
  | .error _ => []
  | .ok r =>
    if r.verb = .setMagnetDAC then
      match r.number with
      | .error _ => []
      | .ok target => s.magnetSteps st target
    else [.become (s.serveRequest st r).2.instrument]

/-- Effects without a pause concern the instrument at most. -/
lemma Reaches.underway {P : Effect → Prop} {s s' : Server σ} (h : Reaches st P s s')
    (hP : ¬ P .pause) : s'.underway = s.underway.perform st (.become s'.instrument) := by
  have hscan := h.preserves (fun s => (s.subscriptions, s.snapshot)) fun t e he => by
    cases e with
    | pause => exact absurd he hP
    | _ => rfl
  obtain ⟨hsubscriptions, hsnapshot⟩ := Prod.mk.inj hscan
  rw [perform, Server.underway, hsubscriptions, hsnapshot]
  rfl

lemma writeSetpoint_underway (s : Server σ) (field : Float) :
    (s.writeSetpoint st field).2.underway
      = s.underway.perform st (.become (s.writeSetpoint st field).2.instrument) :=
  (writeSetpoint_reaches st (P := (· ≠ .pause)) (fun _ _ => nofun) s field nofun).underway st
    (· rfl)

lemma continueMove_underway (fields : List Float) (r : String × Server σ) :
    (continueMove st fields r).2.underway
      = r.2.underway.after st (continueSteps st fields r.2) := by
  induction fields generalizing r with
  | nil => rfl
  | cons field rest ih =>
    rw [continueMove, continueSteps, ih, writeSetpoint_underway, pause, elapse_underway,
      after_append, after_cons]

lemma carryOut_underway (s : Server σ) (fields : List Float) :
    (s.carryOut st fields).2.underway = s.underway.after st (s.carryOutSteps st fields) := by
  cases fields with
  | nil => rfl
  | cons field rest =>
    rw [carryOut, carryOutSteps, continueMove_underway, writeSetpoint_underway, after_cons]

lemma setMagnet_underway (s : Server σ) (target : Float) :
    (s.setMagnet st target).2.underway = s.underway.after st (s.magnetSteps st target) := by
  rw [setMagnet, magnetSteps]
  cases s.read st.settings.hardware.magnetDac with
  | error e => rfl
  | ok current =>
    dsimp only
    rw [carryOut_underway]
    split <;> rfl

lemma serveLine_underway (s : Server σ) (line : String) :
    (s.serveLine st line).2.underway = s.underway.after st (s.lineSteps st line) := by
  rw [lineSteps]
  cases hparse : Request.parse line with
  | error e => rw [serveLine_of_parse_error hparse, after_nil]
  | ok r =>
    rw [serveLine_of_parse hparse]
    dsimp only
    split
    · next hverb =>
      obtain ⟨verb, argument⟩ := r
      subst hverb
      simp only [serveRequest]
      cases Request.number ⟨.setMagnetDAC, argument⟩ with
      | error e => rfl
      | ok target => exact setMagnet_underway st s target
    · next hverb => exact (serveRequest_reaches st s r).underway st hverb

end SpectroRemote.Server
