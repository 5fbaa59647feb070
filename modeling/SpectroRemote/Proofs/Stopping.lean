import SpectroRemote.Proofs.Turns

/-!
# Stopping a scan

Whoever is not asleep has a turn to come (`Orderly`), and every turn lowers the number of turns that
can still follow (`turnsLeft`). So rounds of turns go on until everything is processed: when a scan
has been stopped, the processing of the latest subscription has ended (`stopScan_finished`).
-/

namespace SpectroRemote

/-- How many turns can come of an activity while no time passes: an acquisition can bring a spectrum
and wake its processing. -/
def Activity.turns : Activity → Nat
  | processing _ => 1
  | acquisition _ => 3

lemma Activity.turns_pos (a : Activity) : 0 < a.turns := by
  cases a <;> simp [turns]

lemma Activity.turns_le (a : Activity) : a.turns ≤ 3 := by
  cases a <;> simp [turns]

namespace Server

variable {σ : Type}

/-! ### Turns to come -/

/-- Where there is something to do a turn is to come, and where there may be something to do later
it can still come. -/
structure Orderly (s : Server σ) : Prop where
  ready : ∀ (k : Nat) (sub : Subscription), s.subscriptions[k]? = some sub → sub.progress = .ready →
    .processing k ∈ s.ready ++ s.postponed
  asleep : ∀ (k : Nat) (sub : Subscription), s.subscriptions[k]? = some sub →
    sub.progress = .asleep → sub.isOpen = true

namespace Orderly

variable {s t : Server σ}

lemma mono (h : s.Orderly) (hsubscriptions : t.subscriptions = s.subscriptions)
    (hready : s.ready ++ s.postponed ⊆ t.ready ++ t.postponed) : t.Orderly := by
  constructor
  · intro k sub hsub hprogress
    rw [hsubscriptions] at hsub
    exact hready (h.ready k sub hsub hprogress)
  · intro k sub hsub
    rw [hsubscriptions] at hsub
    exact h.asleep k sub hsub

/-- A subscription is changed and its processing woken. -/
lemma wake (h : s.Orderly) (k : Nat) (f : Subscription → Subscription)
    (hprogress : ∀ sub, (f sub).progress = sub.progress) :
    ((s.changeSubscription k f).wake k).Orderly := by
  have hturns : s.ready ++ s.postponed ⊆ ((s.changeSubscription k f).wake k).ready
      ++ ((s.changeSubscription k f).wake k).postponed := by
    rw [wake_eq]
    intro a ha
    simp only [List.mem_append] at ha ⊢
    split
    · exact ha.imp_left fun ha => List.mem_append_left _ ha
    · exact ha
  have hfind (j : Nat) (sub : Subscription)
      (hsub : ((s.changeSubscription k f).wake k).subscriptions[j]? = some sub) :
      ∃ old, s.subscriptions[j]? = some old ∧ (k = j ∧ sub = (f old).awake ∨ k ≠ j ∧ sub = old) := by
    rw [wake_subscriptions, changeSubscription, List.modify_modify_eq] at hsub
    exact getElem?_modify_eq_some hsub
  constructor
  · intro j sub hsub hready
    obtain ⟨old, hold, ⟨rfl, rfl⟩ | ⟨-, rfl⟩⟩ := hfind j sub hsub
    · by_cases hasleep : old.progress = .asleep
      · rw [wake_eq, changeSubscription]
        simp [hold, hprogress, hasleep]
      · rw [Subscription.awake, hprogress, if_neg hasleep, hprogress] at hready
        exact hturns (h.ready k old hold hready)
    · exact hturns (h.ready j sub hold hready)
  · intro j sub hsub hasleep
    obtain ⟨old, hold, ⟨rfl, rfl⟩ | ⟨-, rfl⟩⟩ := hfind j sub hsub
    · exact absurd hasleep (Subscription.awake_progress_ne_asleep _)
    · exact h.asleep j sub hold hasleep

lemma emit (h : s.Orderly) (st : Station) (x : Spectrum) : (s.emit st x).2.Orderly := by
  rw [Server.emit]
  dsimp only
  split
  · exact h.wake _ _ fun _ => rfl
  · exact h

lemma close (h : s.Orderly) : s.close.Orderly := h.wake _ _ fun _ => rfl

lemma endScan (h : s.Orderly) : s.endScan.Orderly := h.close.mono rfl (List.Subset.refl _)

lemma startScan (h : s.Orderly) : s.startScan.Orderly := by
  constructor
  · intro k sub hsub hready
    change .processing k ∈ (s.close.ready ++ [.processing s.close.subscriptions.length])
      ++ s.close.postponed
    rcases getElem?_startScan hsub with hsub | ⟨rfl, -⟩
    · have hturn := h.close.ready k sub hsub hready
      simp only [List.mem_append] at hturn ⊢
      exact hturn.imp_left .inl
    · simp
  · intro k sub hsub hasleep
    rcases getElem?_startScan hsub with hsub | ⟨-, rfl⟩
    · exact h.close.asleep k sub hsub hasleep
    · rfl

end Orderly

section Turns

variable [Instrument σ] (st : Station)

/-- The processing of a subscription has had its turn. -/
lemma processTurn_orderly {s : Server σ} {k : Nat} {rest : List Activity} (h : s.Orderly)
    (hready : s.ready = .processing k :: rest) :
    (({ s with ready := rest } : Server σ).processTurn st k).Orderly := by
  have hrest (j : Nat) (hj : k ≠ j) (hturn : .processing j ∈ s.ready ++ s.postponed) :
      .processing j ∈ rest ++ s.postponed := by
    rw [hready, List.cons_append] at hturn
    refine (List.mem_cons.mp hturn).resolve_left fun heq => hj ?_
    exact (Activity.processing.inj heq).symm
  cases hsub : s.subscriptions[k]? with
  | none =>
    rw [processTurn_of_none st (s := { s with ready := rest }) hsub]
    refine ⟨fun j sub hj hprogress => hrest j ?_ (h.ready j sub hj hprogress), h.asleep⟩
    rintro rfl
    rw [hsub] at hj
    cases hj
  | some old =>
    obtain ⟨journal, hturn⟩ := processTurn_eq st (s := { s with ready := rest }) hsub
    rw [hturn]
    generalize ({ s with ready := rest } : Server σ).turnCapacity = capacity
    constructor
    · intro j sub hj hprogress
      obtain ⟨sub', hsub', ⟨rfl, rfl⟩ | ⟨hne, rfl⟩⟩ := getElem?_modify_eq_some hj
      · obtain rfl := Option.some.inj (hsub.symm.trans hsub')
        simp [if_pos (Subscription.afterTurn_ready hprogress)]
      · have hold := hrest j hne (h.ready j sub hsub' hprogress)
        dsimp only
        split
        · simp only [List.mem_append, List.mem_cons] at hold ⊢
          exact hold.imp_right .inr
        · exact hold
    · intro j sub hj hprogress
      obtain ⟨sub', hsub', ⟨rfl, rfl⟩ | ⟨hne, rfl⟩⟩ := getElem?_modify_eq_some hj
      · show sub'.isOpen = true
        exact Subscription.afterTurn_asleep hprogress
      · exact h.asleep j sub hsub' hprogress

lemma acquisitionTurn_orderly {s : Server σ} {a : Acquisition} {rest : List Activity}
    (h : s.Orderly) (hready : s.ready = .acquisition a :: rest) :
    (({ s with ready := rest } : Server σ).acquisitionTurn st a).Orderly := by
  have hrest : Orderly { s with ready := rest } := by
    refine ⟨fun k sub hk hprogress => ?_, h.asleep⟩
    have hturn := h.ready k sub hk hprogress
    rw [hready, List.cons_append] at hturn
    exact (List.mem_cons.mp hturn).resolve_left nofun
  have hemit := hrest.emit st (Instrument.acquire s.instrument (a.cycle + 1))
  rw [acquisitionTurn, acquire]
  dsimp only
  split
  · exact hemit.mono rfl (List.Subset.refl _)
  · exact hemit

/-- Where there is order it stays. -/
lemma orderly_abiding : Abiding st fun s t : Server σ => s.Orderly → t.Orderly where
  refl _ := id
  trans h h' := h' ∘ h
  turn s activity rest hready h := by
    cases activity with
    | processing number => exact processTurn_orderly st h hready
    | acquisition a => exact acquisitionTurn_orderly st h hready
  regroup s h := h.mono rfl (by simp)
  tick s t h := h.mono rfl (by simp [wakeDue])

end Turns

/-! ### Turns that can follow -/

/-- The number of spectra that wait. -/
def waiting (s : Server σ) : Nat := (s.subscriptions.map (·.queue.length)).sum

/-- An upper bound for the turns that can follow while no time passes. A turn that is put off has
processed more than one spectrum. -/
def turnsLeft (s : Server σ) : Nat := ((s.ready ++ s.postponed).map (·.turns)).sum + s.waiting

lemma turnsLeft_le_workload {s : Server σ} (h : s.postponed = []) : s.turnsLeft ≤ s.workload := by
  have hturns (l : List Activity) : (l.map (·.turns)).sum ≤ 3 * l.length := by
    induction l with
    | nil => exact Nat.le_refl 0
    | cons a l ih =>
      have ha := a.turns_le
      rw [List.map_cons, List.sum_cons, List.length_cons]
      omega
  have hready := hturns s.ready
  rw [turnsLeft, workload, waiting, h, List.append_nil, List.length_flatMap]
  omega

/-- Without turns that can follow nothing is ready. -/
lemma ready_eq_nil_of_turnsLeft {s : Server σ} (h : s.turnsLeft = 0) : s.ready = [] := by
  cases hready : s.ready with
  | nil => rfl
  | cons a rest =>
    have ha := a.turns_pos
    rw [turnsLeft, hready, List.cons_append, List.map_cons, List.sum_cons] at h
    omega

lemma turnsLeft_of_ready {s : Server σ} {a : Activity} {rest : List Activity}
    (h : s.ready = a :: rest) :
    s.turnsLeft = a.turns + turnsLeft { s with ready := rest } := by
  simp only [turnsLeft, h, List.cons_append, List.map_cons, List.sum_cons, waiting]
  omega

lemma turnsLeft_wake_le (s : Server σ) (k : Nat) : (s.wake k).turnsLeft ≤ s.turnsLeft + 1 := by
  have hwaiting : (s.wake k).waiting = s.waiting := by
    rw [waiting, wake_subscriptions, map_modify (by simp), waiting]
  rw [turnsLeft, hwaiting, wake_eq, turnsLeft]
  dsimp only
  split
  · simp only [List.map_append, List.sum_append, List.map_cons, List.sum_cons, Activity.turns,
      List.map_nil, List.sum_nil]
    omega
  · omega

lemma turnsLeft_emit_le (st : Station) (s : Server σ) (x : Spectrum) :
    (s.emit st x).2.turnsLeft ≤ s.turnsLeft + 2 := by
  cases h : (s.emit st x).1 with
  | false =>
    rw [emit_refused h]
    omega
  | true =>
    obtain ⟨sub, hsub, -⟩ := emit_accepted h
    have hsum := sum_modify (·.queue.length)
      (fun sub => { sub with queue := sub.queue ++ [x] }) hsub
    have harrived : (s.changeSubscription s.latest
        fun sub => { sub with queue := sub.queue ++ [x] }).turnsLeft = s.turnsLeft + 1 := by
      simp only [List.length_append, List.length_singleton] at hsum
      simp only [turnsLeft, waiting, changeSubscription]
      omega
    rw [emit_snd h]
    have hwake := turnsLeft_wake_le (s.changeSubscription s.latest
      fun sub => { sub with queue := sub.queue ++ [x] }) s.latest
    omega

section Turns

variable [Instrument σ] (st : Station)

lemma turnsLeft_processTurn_le (s : Server σ) (k : Nat) :
    (s.processTurn st k).turnsLeft ≤ s.turnsLeft := by
  cases hsub : s.subscriptions[k]? with
  | none => exact Nat.le_of_eq (congrArg turnsLeft (processTurn_of_none st hsub))
  | some sub =>
    have hcapacity : 0 < s.turnCapacity := by
      rw [turnCapacity]
      split <;> omega
    obtain ⟨journal, hturn⟩ := processTurn_eq st hsub
    have hsum := sum_modify (·.queue.length) (·.afterTurn s.turnCapacity) hsub
    simp only [Subscription.afterTurn, List.length_drop] at hsum
    rw [hturn, turnsLeft, turnsLeft, waiting, waiting]
    dsimp only
    split
    · simp only [List.map_append, List.sum_append, List.map_cons, List.sum_cons, Activity.turns]
      simp only [Subscription.afterTurn]
      omega
    · simp only [Subscription.afterTurn]
      omega

/-- Every turn is one of those that were left. -/
lemma turnsLeft_takeTurn_lt {s : Server σ} {a : Activity} {rest : List Activity}
    (h : s.ready = a :: rest) :
    (({ s with ready := rest } : Server σ).takeTurn st a).turnsLeft < s.turnsLeft := by
  rw [turnsLeft_of_ready h]
  cases a with
  | processing k =>
    have hturn := turnsLeft_processTurn_le st { s with ready := rest } k
    simp only [takeTurn, Activity.turns]
    omega
  | acquisition a =>
    have hemit := turnsLeft_emit_le st { s with ready := rest }
      (Instrument.acquire s.instrument (a.cycle + 1))
    have hturn : (({ s with ready := rest } : Server σ).acquisitionTurn st a).turnsLeft
        = (Server.emit st { s with ready := rest }
          (Instrument.acquire s.instrument (a.cycle + 1))).2.turnsLeft := by
      rw [acquisitionTurn, acquire]
      dsimp only
      split <;> rfl
    simp only [takeTurn, Activity.turns]
    omega

lemma turnsLeft_takeTurns_le (turns : Nat) (s : Server σ) :
    (takeTurns st turns s).turnsLeft ≤ s.turnsLeft := by
  induction turns generalizing s with
  | zero => exact Nat.le_refl _
  | succ turns ih =>
    rw [takeTurns]
    split
    · exact Nat.le_refl _
    · next a rest hready =>
      exact Nat.le_trans (ih _) (Nat.le_of_lt (turnsLeft_takeTurn_lt st hready))

lemma turnsLeft_round_lt {s : Server σ} (h : s.ready ≠ []) :
    (s.round st).turnsLeft < s.turnsLeft := by
  have hregroup : (s.round st).turnsLeft = (takeTurns st roundLength s).turnsLeft := by
    simp [round, turnsLeft, waiting]
  obtain ⟨a, rest, hready⟩ := List.exists_cons_of_ne_nil h
  rw [hregroup, roundLength, takeTurns, hready]
  exact Nat.lt_of_le_of_lt (turnsLeft_takeTurns_le st 60 _) (turnsLeft_takeTurn_lt st hready)

/-! ### Rounds -/

/-- Turns neither open nor close a subscription. -/
lemma isSubscribed_abiding :
    Abiding st fun s t : Server σ => t.isSubscribed = s.isSubscribed where
  refl _ := rfl
  trans h h' := h'.trans h
  turn s activity rest _ := by
    cases activity with
    | processing k =>
      cases hsub : s.subscriptions[k]? with
      | none =>
        rw [takeTurn, processTurn_of_none st (s := { s with ready := rest }) hsub]
        rfl
      | some sub =>
        obtain ⟨journal, hturn⟩ := processTurn_eq st (s := { s with ready := rest }) hsub
        rw [takeTurn, hturn]
        exact isSubscribed_modify rfl fun _ => rfl
    | acquisition a =>
      have hemit := isSubscribed_emit st { s with ready := rest }
        (Instrument.acquire s.instrument (a.cycle + 1))
      rw [takeTurn]
      rw [acquisitionTurn, acquire]
      dsimp only
      split <;> exact hemit
  regroup _ := rfl
  tick _ _ := rfl

/-- The processing of the latest subscription, if there is one, has ended. -/
def HasFinished (s : Server σ) : Prop :=
  s.subscriptions.getLast?.all (·.progress = .finished) = true

omit [Instrument σ] in
lemma HasFinished.progress {s : Server σ} (h : s.HasFinished) {sub : Subscription}
    (hsub : s.subscriptions[s.latest]? = some sub) : sub.progress = .finished := by
  rw [latest] at hsub
  rw [HasFinished, List.getLast?_eq_getElem?, hsub] at h
  exact of_decide_eq_true h

omit [Instrument σ] in
/-- As long as the processing of a closed subscription has not ended a turn is to come. -/
lemma ready_ne_nil {s : Server σ} (horderly : s.Orderly) (hpostponed : s.postponed = [])
    (hclosed : s.isSubscribed = false) (h : ¬ s.HasFinished) : s.ready ≠ [] := by
  rw [HasFinished, List.getLast?_eq_getElem?] at h
  rw [isSubscribed, List.getLast?_eq_getElem?] at hclosed
  cases hsub : s.subscriptions[s.subscriptions.length - 1]? with
  | none =>
    rw [hsub] at h
    exact absurd rfl h
  | some sub =>
    rw [hsub] at h hclosed
    cases hprogress : sub.progress with
    | ready =>
      have hturn := horderly.ready _ sub hsub hprogress
      rw [hpostponed, List.append_nil] at hturn
      exact List.ne_nil_of_mem hturn
    | asleep =>
      rw [Option.any_some, horderly.asleep _ sub hsub hprogress] at hclosed
      cases hclosed
    | finished =>
      rw [Option.all_some, hprogress] at h
      exact absurd rfl h

/-- As many rounds as turns can follow are enough. -/
lemma roundsUntil_hasFinished (rounds : Nat) {s : Server σ} (horderly : s.Orderly)
    (hpostponed : s.postponed = []) (hclosed : s.isSubscribed = false)
    (hrounds : s.turnsLeft ≤ rounds) :
    (roundsUntil st (·.subscriptions.getLast?.all (·.progress = .finished)) rounds s).HasFinished
      := by
  induction rounds generalizing s with
  | zero =>
    by_contra h
    exact ready_ne_nil horderly hpostponed hclosed h (ready_eq_nil_of_turnsLeft (by omega))
  | succ rounds ih =>
    rw [roundsUntil]
    split
    · next h => exact h
    · next h =>
      have hlt := turnsLeft_round_lt st (ready_ne_nil horderly hpostponed hclosed h)
      refine ih ((orderly_abiding st).round s horderly) rfl ?_ (by omega)
      rw [(isSubscribed_abiding st).round s, hclosed]

/-- When a scan has been stopped nobody is subscribed, and everything that came is processed. -/
theorem stopScan_hasFinished {s : Server σ} (horderly : s.Orderly) (hpostponed : s.postponed = []) :
    (s.stopScan st).HasFinished ∧ (s.stopScan st).isSubscribed = false := by
  have hclosed := isSubscribed_endScan s
  have hend : s.endScan.postponed = [] := by
    rw [endScan, log, postponed_close, hpostponed]
  constructor
  · exact roundsUntil_hasFinished st _ horderly.endScan hend hclosed (turnsLeft_le_workload hend)
  · rw [stopScan, (isSubscribed_abiding st).roundsUntil, hclosed]

/-! ### Between turns -/

lemma roundsUntil_postponed (done : Server σ → Bool) (rounds : Nat) {s : Server σ}
    (h : s.postponed = []) : (roundsUntil st done rounds s).postponed = [] := by
  induction rounds generalizing s with
  | zero => exact h
  | succ rounds ih =>
    rw [roundsUntil]
    split
    · exact h
    · exact ih rfl

lemma runUntil_postponed (finish now : Nat) {s : Server σ} (h : s.postponed = []) :
    (runUntil st finish now s).postponed = [] := by
  fun_induction runUntil st finish now s with
  | case1 now s settled _ => exact roundsUntil_postponed st _ _ h
  | case2 now s settled t _ _ ih => exact ih (roundsUntil_postponed st _ _ h)

/-- A pause ends between two rounds. -/
lemma elapse_postponed {s : Server σ} (h : s.postponed = []) (milliseconds : Nat) :
    (s.elapse st milliseconds).postponed = [] := by
  rw [elapse]
  split
  · exact h
  · exact runUntil_postponed st _ _ h

end Turns

end Server

end SpectroRemote
