import Mathlib.Data.List.Induction
import Mathlib.Logic.Function.Basic
import SpectroRemote.Proofs.Happenings
import SpectroRemote.Proofs.Subscriptions

/-!
# Spectra underway

Spectra come in, are taken off the queues, meet the cup configuration that is active, and end up in
the snapshot or are dropped. Each of these is a step of its own, and so is every change of the
instrument (`Step`). The steps of all subscriptions can follow each other in any order, and a list
of them leaves nothing open: it says which state comes out (`Underway.after`) and what is to be told
of it (`Underway.history`). What is told is enough to know what is shown in the end and where each
accepted spectrum is (`Underway.traced`).
-/

namespace SpectroRemote

/-- How far a spectrum is that was taken off its queue. -/
inductive InHand
  | taken (x : Spectrum)
  /-- The name of the active cup configuration was asked for; there may be none. -/
  | named (x : Spectrum) (name? : Option String)
  /-- The cup configuration of this name was looked up; there may be none. -/
  | identified (x : Spectrum) (cup? : Option Cup)

def InHand.spectrum : InHand → Spectrum
  | taken x | named x _ | identified x _ => x

/-- What concerns spectra. -/
structure Underway (σ : Type) where
  instrument : σ
  subscriptions : List Subscription
  snapshot : String
  /-- What the processing of each subscription has in hand. -/
  hands : Nat → Option InHand

/-- A single step that concerns spectra. -/
inductive Step (σ : Type)
  /-- A spectrum comes in. -/
  | emit (x : Spectrum)
  | start
  | finish
  /-- The processing of a subscription takes a spectrum off its queue. -/
  | take (number : Nat)
  /-- It asks for the name of the active cup configuration. -/
  | name (number : Nat)
  /-- It looks up the cup configuration of this name. -/
  | identify (number : Nat)
  /-- It makes the snapshot, or drops the spectrum if there is no cup configuration for it. -/
  | conclude (number : Nat)
  /-- It is marked how the processing stands. -/
  | mark (number : Nat) (progress : Progress)
  /-- The instrument is in another state, because it was asked for a change or by itself. -/
  | become (i : σ)

/-- The instrument after a step that changes it. -/
def Step.instrument? {σ : Type} : Step σ → Option σ
  | become i => some i
  | _ => none

namespace Instrument

variable {σ : Type} [Instrument σ] (i : σ)

/-- The name of the active cup configuration. -/
def activeName? : Option String := (Instrument.activePair i).toOption.map (·.1)

/-- The first cup configuration of a name. -/
def cupNamed? (name : String) : Option Cup :=
  (Instrument.cups i).toOption.bind fun cups => cups.find? fun c => c.name = name

/-- The cup configuration that has the name of the active one. -/
def activeCup? : Option Cup := (activeName? i).bind (cupNamed? i)

end Instrument

namespace Server

variable {σ : Type}

/-- What concerns spectra, where none is in hand. -/
def underway (s : Server σ) : Underway σ :=
  ⟨s.instrument, s.subscriptions, s.snapshot, fun _ => none⟩

/-- What is told of a spectrum that comes in. -/
def emission (st : Station) (s : Server σ) (x : Spectrum) : Happening :=
  if (s.emit st x).1 then .accepted s.latest x else .refused x

/-- The server has come as far as this, whatever the time is and whatever waits for its turn. -/
structure IsAt (s : Server σ) (u : Underway σ) : Prop where
  instrument : s.instrument = u.instrument
  subscriptions : s.subscriptions = u.subscriptions
  snapshot : s.snapshot = u.snapshot

lemma isAt_underway (s : Server σ) : s.IsAt s.underway := ⟨rfl, rfl, rfl⟩

end Server

namespace Underway

variable {σ : Type}

/-- Everything begins with an instrument. -/
def start (i : σ) : Underway σ := Server.underway { instrument := i }

/-- A server that has come as far as this. -/
def server (u : Underway σ) : Server σ :=
  { instrument := u.instrument, subscriptions := u.subscriptions, snapshot := u.snapshot }

/-- Goes on with what has become of the server. -/
def goOn (u : Underway σ) (s : Server σ) : Underway σ := { s.underway with hands := u.hands }

lemma goOn_server (u : Underway σ) : u.goOn u.server = u := rfl

/-- Puts something into the hand of a subscription's processing, or nothing. -/
def hold (u : Underway σ) (number : Nat) (hand : Option InHand) : Underway σ :=
  { u with hands := Function.update u.hands number hand }

lemma hold_hold (u : Underway σ) (k : Nat) (a b : Option InHand) :
    (u.hold k a).hold k b = u.hold k b := by
  rw [hold, hold, hold, Function.update_idem]

lemma hold_none {u : Underway σ} {k : Nat} (h : u.hands k = none) : u.hold k none = u := by
  rw [hold, ← h, Function.update_eq_self]

lemma hands_hold (u : Underway σ) (k : Nat) (hand : Option InHand) :
    (u.hold k hand).hands k = hand := Function.update_self ..

/-- The spectra in the hand of a subscription's processing: one or none. -/
def inHand (u : Underway σ) (number : Nat) : List Spectrum :=
  ((u.hands number).map (·.spectrum)).toList

/-- Nothing can come any more for a subscription, and everything that came is processed. -/
def isThrough (u : Underway σ) (number : Nat) : Bool :=
  (u.hands number).isNone
    && u.subscriptions[number]?.all fun sub => !sub.isOpen && sub.queue.isEmpty

section Steps

variable [Instrument σ] (st : Station)

/-- The state after a step. A step that is not possible changes nothing. -/
def perform (u : Underway σ) : Step σ → Underway σ
  | .emit x => u.goOn (u.server.emit st x).2
  | .start => u.goOn u.server.startScan
  | .finish => u.goOn u.server.endScan
  | .take k =>
    match u.hands k, u.server.queueOf k with
    | none, x :: rest =>
      (u.goOn (u.server.changeSubscription k ({ · with queue := rest }))).hold k (some (.taken x))
    | _, _ => u
  | .name k =>
    match u.hands k with
    | some (.taken x) => u.hold k (some (.named x (Instrument.activeName? u.instrument)))
    | _ => u
  | .identify k =>
    match u.hands k with
    | some (.named x name?) =>
      u.hold k (some (.identified x (name?.bind (Instrument.cupNamed? u.instrument))))
    | _ => u
  | .conclude k =>
    match u.hands k with
    | some (.identified x cup?) =>
      let snapshot := cup?.elim u.snapshot fun cup => st.settings.scan.snapshot cup x
      { u.hold k none with snapshot }
    | _ => u
  | .mark k progress =>
    if progress = .finished ∧ u.isThrough k = false then u
    else u.goOn (u.server.changeSubscription k ({ · with progress }))
  | .become i => { u with instrument := i }

lemma perform_take {u : Underway σ} {k : Nat} {x : Spectrum} {rest : List Spectrum}
    (hhand : u.hands k = none) (hqueue : u.server.queueOf k = x :: rest) :
    u.perform st (.take k)
      = (u.goOn (u.server.changeSubscription k ({ · with queue := rest }))).hold k
          (some (.taken x)) := by
  rw [perform, hhand, hqueue]

lemma perform_name {u : Underway σ} {k : Nat} {x : Spectrum}
    (hhand : u.hands k = some (.taken x)) :
    u.perform st (.name k)
      = u.hold k (some (.named x (Instrument.activeName? u.instrument))) := by
  rw [perform, hhand]

lemma perform_identify {u : Underway σ} {k : Nat} {x : Spectrum} {name? : Option String}
    (hhand : u.hands k = some (.named x name?)) :
    u.perform st (.identify k)
      = u.hold k (some (.identified x (name?.bind (Instrument.cupNamed? u.instrument)))) := by
  rw [perform, hhand]

lemma perform_conclude {u : Underway σ} {k : Nat} {x : Spectrum} {cup? : Option Cup}
    (hhand : u.hands k = some (.identified x cup?)) :
    u.perform st (.conclude k) =
      { u.hold k none with
        snapshot := cup?.elim u.snapshot fun cup => st.settings.scan.snapshot cup x } := by
  rw [perform, hhand]

lemma perform_mark {u : Underway σ} {k : Nat} {progress : Progress}
    (h : progress = .finished → u.isThrough k = true) :
    u.perform st (.mark k progress)
      = u.goOn (u.server.changeSubscription k ({ · with progress })) := by
  rw [perform, if_neg]
  rintro ⟨hfinished, hbusy⟩
  rw [h hfinished] at hbusy
  cases hbusy

/-- What can be told of a step. -/
def told (u : Underway σ) : Step σ → Option Happening
  | .emit x => some (u.server.emission st x)
  | .start => some .started
  | .finish => some .ended
  | .conclude k =>
    match u.hands k with
    | some (.identified x cup?) => some (.ingested k x cup?)
    | _ => none
  | _ => none

/-- The state after steps. -/
def after (u : Underway σ) (steps : List (Step σ)) : Underway σ := steps.foldl (perform st) u

/-- All that can be told of steps. -/
def history (u : Underway σ) : List (Step σ) → List Happening
  | [] => []
  | step :: rest => (u.told st step).toList ++ history (u.perform st step) rest

@[simp] lemma after_nil (u : Underway σ) : u.after st [] = u := rfl

lemma after_cons (u : Underway σ) (step : Step σ) (rest : List (Step σ)) :
    u.after st (step :: rest) = (u.perform st step).after st rest := rfl

lemma after_append (u : Underway σ) (steps more : List (Step σ)) :
    u.after st (steps ++ more) = (u.after st steps).after st more := List.foldl_append

lemma after_concat (u : Underway σ) (steps : List (Step σ)) (step : Step σ) :
    u.after st (steps ++ [step]) = (u.after st steps).perform st step := after_append ..

lemma history_append (u : Underway σ) (steps more : List (Step σ)) :
    u.history st (steps ++ more) = u.history st steps ++ (u.after st steps).history st more := by
  induction steps generalizing u with
  | nil => rfl
  | cons step rest ih =>
    rw [List.cons_append, history, history, ih, after_cons, List.append_assoc]

lemma history_concat (u : Underway σ) (steps : List (Step σ)) (step : Step σ) :
    u.history st (steps ++ [step])
      = u.history st steps ++ ((u.after st steps).told st step).toList := by
  rw [history_append, history, history, List.append_nil]

/-! ### What a step comes to -/

/-- What a step comes to, and what can be told of it. -/
inductive Follows : Underway σ → Option Happening → Underway σ → Prop
  | stay (u : Underway σ) : Follows u none u
  | accept (u : Underway σ) (x : Spectrum) (h : (u.server.emit st x).1 = true) :
    Follows u (some (.accepted u.server.latest x)) (u.goOn (u.server.emit st x).2)
  | refuse (u : Underway σ) (x : Spectrum) : Follows u (some (.refused x)) u
  | start (u : Underway σ) : Follows u (some .started) (u.goOn u.server.startScan)
  | finish (u : Underway σ) : Follows u (some .ended) (u.goOn u.server.endScan)
  | take (u : Underway σ) {k : Nat} {x : Spectrum} {rest : List Spectrum}
    (hhand : u.hands k = none) (hqueue : u.server.queueOf k = x :: rest) :
    Follows u none
      ((u.goOn (u.server.changeSubscription k ({ · with queue := rest }))).hold k (some (.taken x)))
  | name (u : Underway σ) {k : Nat} {x : Spectrum} (hhand : u.hands k = some (.taken x)) :
    Follows u none (u.hold k (some (.named x (Instrument.activeName? u.instrument))))
  | identify (u : Underway σ) {k : Nat} {x : Spectrum} {name? : Option String}
    (hhand : u.hands k = some (.named x name?)) :
    Follows u none
      (u.hold k (some (.identified x (name?.bind (Instrument.cupNamed? u.instrument)))))
  | conclude (u : Underway σ) {k : Nat} {x : Spectrum} {cup? : Option Cup}
    (hhand : u.hands k = some (.identified x cup?)) :
    Follows u (some (.ingested k x cup?))
      { u.hold k none with
        snapshot := cup?.elim u.snapshot fun cup => st.settings.scan.snapshot cup x }
  | mark (u : Underway σ) (k : Nat) (progress : Progress)
    (h : progress = .finished → u.isThrough k = true) :
    Follows u none (u.goOn (u.server.changeSubscription k ({ · with progress })))
  | become (u : Underway σ) (i : σ) : Follows u none { u with instrument := i }

lemma follows_perform (u : Underway σ) (step : Step σ) :
    Follows st u (u.told st step) (u.perform st step) := by
  cases step with
  | emit x =>
    rw [told, perform, Server.emission]
    split
    · next h => exact .accept u x h
    · next h =>
      rw [Server.emit_refused (Bool.eq_false_iff.mpr h), goOn_server]
      exact .refuse u x
  | start => exact .start u
  | finish => exact .finish u
  | take k =>
    show Follows st u none (u.perform st (.take k))
    rw [perform]
    split
    · next hhand hqueue => exact .take u hhand hqueue
    · exact .stay u
  | name k =>
    show Follows st u none (u.perform st (.name k))
    rw [perform]
    split
    · next hhand => exact .name u hhand
    · exact .stay u
  | identify k =>
    show Follows st u none (u.perform st (.identify k))
    rw [perform]
    split
    · next hhand => exact .identify u hhand
    · exact .stay u
  | conclude k =>
    rw [told, perform]
    split
    · next hhand => exact .conclude u hhand
    · exact .stay u
  | mark k progress =>
    show Follows st u none (u.perform st (.mark k progress))
    rw [perform]
    split
    · exact .stay u
    · next h =>
      refine .mark u k progress fun hfinished => ?_
      rw [← Bool.not_eq_false]
      exact fun hbusy => h ⟨hfinished, hbusy⟩
  | become i => exact .become u i

end Steps

lemma inHand_hold (u : Underway σ) (k j : Nat) (hand : Option InHand) :
    (u.hold k hand).inHand j =
      if j = k then (hand.map (·.spectrum)).toList else u.inHand j := by
  simp only [inHand, hold, Function.update_apply]
  split <;> rfl

namespace Follows

variable [Instrument σ] {st : Station} {u v : Underway σ} {e : Option Happening}

/-- A step moves spectra on in their order: they come in at the end of the queue, and those that
are ingested go out at the front. -/
lemma moves (h : Follows st u e v) (k : Nat) :
    (e.bind (Happening.ingestedBy k)).toList ++ (v.inHand k ++ v.server.queueOf k) =
      u.inHand k ++ u.server.queueOf k ++ (e.bind (Happening.acceptedBy k)).toList := by
  cases h with
  | stay | refuse | become => exact (List.append_nil _).symm
  | accept x h =>
    have hqueue : (u.goOn (u.server.emit st x).2).server.queueOf k
        = u.server.queueOf k ++ if u.server.latest = k then [x] else [] :=
      Server.queueOf_emit h k
    simp only [Option.bind_some, Happening.ingestedBy, Happening.acceptedBy, hqueue,
      List.append_assoc]
    split <;> rfl
  | start =>
    have hqueue := Server.queueOf_startScan u.server k
    exact (congrArg (u.inHand k ++ ·) hqueue).trans (List.append_nil _).symm
  | finish =>
    have hqueue := Server.queueOf_endScan u.server k
    exact (congrArg (u.inHand k ++ ·) hqueue).trans (List.append_nil _).symm
  | @take j x rest hhand hqueue =>
    obtain ⟨sub, hsub, -⟩ := Server.exists_of_queueOf hqueue
    have hnext : ((u.goOn (u.server.changeSubscription j ({ · with queue := rest }))).hold j
        (some (.taken x))).server.queueOf k = if j = k then rest else u.server.queueOf k :=
      Server.queueOf_modify_eq (f := ({ · with queue := rest })) rfl hsub k
    simp only [Option.bind_none, inHand_hold, hnext]
    by_cases hk : k = j
    · subst hk
      simp [inHand, hhand, hqueue, InHand.spectrum]
    · simp [hk, Ne.symm hk, inHand, goOn]
  | @name j x hhand | @identify j x name? hhand =>
    have hqueue (hand : Option InHand) :
        (u.hold j hand).server.queueOf k = u.server.queueOf k := rfl
    simp only [Option.bind_none, inHand_hold, hqueue]
    by_cases hk : k = j
    · subst hk
      simp [inHand, hhand, InHand.spectrum]
    · simp [hk]
  | @conclude j x cup? hhand =>
    simp only [Option.bind_some, Happening.ingestedBy, Happening.acceptedBy]
    by_cases hk : k = j
    · subst hk
      simp [inHand, hhand, InHand.spectrum, Server.queueOf, server, hold]
    · simp [hk, Ne.symm hk, inHand, Server.queueOf, server, hold]
  | mark j progress h =>
    have hqueue : (u.goOn (u.server.changeSubscription j ({ · with progress }))).server.queueOf k
        = u.server.queueOf k :=
      Server.queueOf_modify (f := ({ · with progress })) rfl (fun _ => rfl) k
    simp only [hqueue]
    exact (List.append_nil _).symm

lemma snapshot (h : Follows st u e v) :
    v.snapshot = (e.bind Happening.shown).elim u.snapshot
      fun p => st.settings.scan.snapshot p.2 p.1 := by
  cases h with
  | accept => exact Server.snapshot_emit _ _ _
  | start => exact Server.snapshot_startScan _
  | finish => exact Server.snapshot_endScan _
  | @conclude k x cup? hhand => cases cup? <;> rfl
  | _ => rfl

lemma isSubscribed (h : Follows st u e v) :
    v.server.isSubscribed = (e.bind Happening.subscribes).getD u.server.isSubscribed := by
  cases h with
  | accept => exact Server.isSubscribed_emit _ _ _
  | start => exact Server.isSubscribed_startScan _
  | finish => exact Server.isSubscribed_endScan _
  | take => exact Server.isSubscribed_modify rfl fun _ => rfl
  | mark => exact Server.isSubscribed_modify rfl fun _ => rfl
  | _ => rfl

end Follows

/-! ### The end of processing -/

/-- Where processing has ended nothing can come any more, and nothing is left to do. -/
def Finished (u : Underway σ) : Prop :=
  ∀ k sub, u.subscriptions[k]? = some sub → sub.progress = .finished →
    sub.isOpen = false ∧ sub.queue = [] ∧ u.hands k = none

namespace Finished

variable {u : Underway σ}

/-- A change of one subscription keeps what is finished if it does not finish it, opens nothing and
puts nothing into closed queues. -/
lemma modify (hfinished : u.Finished) {s : Server σ} {k : Nat} {f : Subscription → Subscription}
    (h : s.subscriptions = u.subscriptions.modify k f)
    (hf : ∀ sub, u.subscriptions[k]? = some sub → (f sub).progress = .finished →
      (f sub).isOpen = false ∧ (f sub).queue = [] ∧ u.hands k = none) : (u.goOn s).Finished := by
  intro j sub hsub hprogress
  change s.subscriptions[j]? = some sub at hsub
  rw [h] at hsub
  obtain ⟨old, hold, ⟨rfl, rfl⟩ | ⟨-, rfl⟩⟩ := getElem?_modify_eq_some hsub
  · exact hf old hold hprogress
  · exact hfinished j sub hold hprogress

/-- Whose processing has not ended can have anything in hand. -/
lemma hold (hfinished : u.Finished) {k : Nat} (hand : Option InHand)
    (hbusy : ∀ sub, u.subscriptions[k]? = some sub → sub.progress ≠ .finished) :
    (u.hold k hand).Finished := by
  intro j sub hsub hprogress
  have hne : j ≠ k := by
    rintro rfl
    exact hbusy sub hsub hprogress
  obtain ⟨hopen, hqueue, hhand⟩ := hfinished j sub hsub hprogress
  exact ⟨hopen, hqueue, (Function.update_of_ne hne _ _).trans hhand⟩

lemma busy (hfinished : u.Finished) {k : Nat} {hand : InHand} (hhand : u.hands k = some hand)
    (sub : Subscription) (hsub : u.subscriptions[k]? = some sub) : sub.progress ≠ .finished := by
  intro hprogress
  rw [(hfinished k sub hsub hprogress).2.2] at hhand
  cases hhand

end Finished

lemma of_isThrough {u : Underway σ} {k : Nat} (h : u.isThrough k = true) :
    u.hands k = none ∧ ∀ sub, u.subscriptions[k]? = some sub →
      sub.isOpen = false ∧ sub.queue = [] := by
  rw [isThrough, Bool.and_eq_true, Option.isNone_iff_eq_none] at h
  refine ⟨h.1, fun sub hsub => ?_⟩
  simpa [hsub] using h.2

lemma Follows.finished [Instrument σ] {st : Station} {u v : Underway σ} {e : Option Happening}
    (h : Follows st u e v) (hfinished : u.Finished) : v.Finished := by
  have closed (k : Nat) (sub : Subscription) (hsub : u.subscriptions[k]? = some sub)
      (hprogress : { sub with isOpen := false }.awake.progress = .finished) :
      { sub with isOpen := false }.awake.isOpen = false
        ∧ { sub with isOpen := false }.awake.queue = [] ∧ u.hands k = none := by
    rw [Subscription.awake_progress_eq_finished_iff] at hprogress
    rw [Subscription.awake_isOpen, Subscription.awake_queue]
    exact ⟨rfl, (hfinished k sub hsub hprogress).2⟩
  cases h with
  | stay | refuse | become => exact hfinished
  | accept x h =>
    obtain ⟨sub, hsub, hopen⟩ := Server.emit_accepted h
    refine hfinished.modify (Server.emit_subscriptions h) fun old hold hprogress => ?_
    obtain rfl : sub = old := Option.some.inj (hsub.symm.trans hold)
    rw [Subscription.awake_progress_eq_finished_iff] at hprogress
    rw [(hfinished _ _ hsub hprogress).1] at hopen
    cases hopen
  | finish => exact hfinished.modify (Server.endScan_subscriptions _) (closed _)
  | start =>
    have hclose := hfinished.modify (Server.close_subscriptions u.server) (closed _)
    intro k sub hsub hprogress
    rcases Server.getElem?_startScan hsub with hsub | ⟨-, rfl⟩
    · exact hclose k sub hsub hprogress
    · cases hprogress
  | @take k x rest hhand hqueue =>
    obtain ⟨old, hold, hwaits⟩ := Server.exists_of_queueOf hqueue
    have hunfinished : old.progress ≠ .finished := by
      intro hprogress
      rw [(hfinished k old hold hprogress).2.1] at hwaits
      cases hwaits
    have hbusy (sub : Subscription) (hsub : u.subscriptions[k]? = some sub) :
        sub.progress ≠ .finished := by
      rwa [← Option.some.inj (hold.symm.trans hsub)]
    exact (hfinished.hold _ hbusy).modify (f := ({ · with queue := rest })) rfl
      fun sub hsub hprogress => absurd hprogress (hbusy sub hsub)
  | name hhand | identify hhand => exact hfinished.hold _ (hfinished.busy hhand)
  | conclude hhand => exact hfinished.hold none (hfinished.busy hhand)
  | mark k progress h =>
    refine hfinished.modify (f := ({ · with progress })) rfl fun sub hsub hprogress => ?_
    obtain ⟨hhand, hthrough⟩ := of_isThrough (h hprogress)
    exact ⟨(hthrough sub hsub).1, (hthrough sub hsub).2, hhand⟩

/-! ### What is told of steps -/

section Runs

variable [Instrument σ] (st : Station)

/-- What is told of all steps agrees with the state. -/
structure Traced (u : Underway σ) (h : List Happening) : Prop where
  /-- The spectra that were accepted are processed, in hand or waiting, in this order. -/
  accepted : ∀ k, acceptedBy k h = ingestedBy k h ++ (u.inHand k ++ u.server.queueOf k)
  snapshot : u.snapshot = lastShown st h
  isSubscribed : u.server.isSubscribed = subscribedAfter h
  finished : u.Finished

variable {st} in
lemma Traced.step {u v : Underway σ} {h : List Happening} {e : Option Happening}
    (htraced : Traced st u h) (hfollows : Follows st u e v) : Traced st v (h ++ e.toList) where
  accepted k := by
    rw [acceptedBy_append, ingestedBy_append, htraced.accepted, List.append_assoc,
      List.append_assoc (ingestedBy k h), hfollows.moves]
  snapshot := by
    rw [hfollows.snapshot, lastShown_append, htraced.snapshot]
  isSubscribed := by
    rw [hfollows.isSubscribed, subscribedAfter_append, htraced.isSubscribed]
  finished := hfollows.finished htraced.finished

/-- What is told agrees with the state, whatever the steps are and in whatever order. -/
theorem traced (i : σ) (steps : List (Step σ)) :
    Traced st ((start i).after st steps) ((start i).history st steps) := by
  induction steps using List.reverseRecOn with
  | nil =>
    refine ⟨fun k => rfl, rfl, rfl, ?_⟩
    intro k sub hsub
    cases hsub
  | append_singleton steps step ih =>
    rw [after_concat, history_concat]
    exact ih.step (follows_perform st _ step)

end Runs

end Underway

end SpectroRemote
