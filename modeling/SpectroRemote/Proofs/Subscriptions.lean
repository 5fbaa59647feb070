import Mathlib.Tactic.ByContra
import SpectroRemote.Proofs.Lists
import SpectroRemote.Server.Scan

/-!
# What happens to subscriptions

Each operation on subscriptions changes one of them, or adds one at the end. The equations of this
file say what it does to the list of all subscriptions, and which queues and snapshots it leaves as
they are.
-/

namespace SpectroRemote

/-- A subscription whose processing does not sleep. -/
def Subscription.awake (sub : Subscription) : Subscription :=
  if sub.progress = .asleep then { sub with progress := .ready } else sub

/-- A subscription after a turn that can process so many spectra. -/
def Subscription.afterTurn (capacity : Nat) (sub : Subscription) : Subscription :=
  { sub with
    queue := sub.queue.drop capacity
    progress := if capacity ≤ sub.queue.length then .ready
      else if sub.isOpen then .asleep else .finished }

namespace Subscription

@[simp] lemma awake_queue (sub : Subscription) : sub.awake.queue = sub.queue := by
  rw [awake]
  split <;> rfl

@[simp] lemma awake_isOpen (sub : Subscription) : sub.awake.isOpen = sub.isOpen := by
  rw [awake]
  split <;> rfl

lemma awake_progress_ne_asleep (sub : Subscription) : sub.awake.progress ≠ .asleep := by
  rw [awake]
  split
  · exact Progress.noConfusion
  · next h => exact h

@[simp] lemma awake_progress_eq_finished_iff (sub : Subscription) :
    sub.awake.progress = .finished ↔ sub.progress = .finished := by
  rw [awake]
  split
  · next h => rw [h]; exact ⟨nofun, nofun⟩
  · rfl

lemma afterTurn_ready {capacity : Nat} {sub : Subscription}
    (h : (sub.afterTurn capacity).progress = .ready) : capacity ≤ sub.queue.length := by
  by_contra hshort
  simp only [afterTurn, if_neg hshort] at h
  split at h <;> cases h

lemma afterTurn_asleep {capacity : Nat} {sub : Subscription}
    (h : (sub.afterTurn capacity).progress = .asleep) : sub.isOpen = true := by
  by_contra hclosed
  simp only [afterTurn, if_neg hclosed] at h
  split at h <;> cases h

lemma afterTurn_finished {capacity : Nat} {sub : Subscription}
    (h : (sub.afterTurn capacity).progress = .finished) :
    sub.queue.drop capacity = [] ∧ sub.isOpen = false := by
  by_cases hlong : capacity ≤ sub.queue.length
  · simp only [afterTurn, if_pos hlong] at h
    cases h
  · refine ⟨List.drop_eq_nil_of_le (by omega), ?_⟩
    by_contra hopen
    rw [Bool.not_eq_false] at hopen
    simp only [afterTurn, if_neg hlong, if_pos hopen] at h
    cases h

end Subscription

namespace Server

variable {σ : Type}

/-- The spectra that wait in a subscription; none if it does not exist. -/
def queueOf (s : Server σ) (number : Nat) : List Spectrum :=
  (s.subscriptions[number]?.map (·.queue)).getD []

/-! ### Changes of one subscription -/

lemma queueOf_modify {s t : Server σ} {k : Nat} {f : Subscription → Subscription}
    (h : t.subscriptions = s.subscriptions.modify k f) (hf : ∀ sub, (f sub).queue = sub.queue)
    (j : Nat) : t.queueOf j = s.queueOf j := by
  rw [queueOf, queueOf, ← List.getElem?_map, ← List.getElem?_map, h, map_modify hf]

lemma queueOf_modify_eq {s t : Server σ} {k : Nat} {f : Subscription → Subscription}
    (h : t.subscriptions = s.subscriptions.modify k f) {sub : Subscription}
    (hsub : s.subscriptions[k]? = some sub) (j : Nat) :
    t.queueOf j = if k = j then (f sub).queue else s.queueOf j := by
  rw [queueOf, h, List.getElem?_modify]
  by_cases hj : k = j
  · subst hj
    simp [hsub]
  · simp [hj, queueOf]

lemma exists_of_queueOf {s : Server σ} {k : Nat} {x : Spectrum} {rest : List Spectrum}
    (h : s.queueOf k = x :: rest) :
    ∃ sub, s.subscriptions[k]? = some sub ∧ sub.queue = x :: rest := by
  rw [queueOf] at h
  cases hsub : s.subscriptions[k]? with
  | none =>
    rw [hsub] at h
    cases h
  | some sub =>
    rw [hsub] at h
    exact ⟨sub, rfl, h⟩

lemma isSubscribed_modify {s t : Server σ} {k : Nat} {f : Subscription → Subscription}
    (h : t.subscriptions = s.subscriptions.modify k f) (hf : ∀ sub, (f sub).isOpen = sub.isOpen) :
    t.isSubscribed = s.isSubscribed := by
  have hmap (l : List Subscription) :
      l.getLast?.any (·.isOpen) = (l.map (·.isOpen)).getLast?.any id := by
    rw [List.getLast?_map, Option.any_map]
    rfl
  rw [isSubscribed, isSubscribed, hmap, hmap, h, map_modify hf]

/-! ### Operations -/

lemma wake_eq (s : Server σ) (k : Nat) :
    s.wake k =
      { s with
        ready := if s.subscriptions[k]?.any (·.progress = .asleep)
          then s.ready ++ [.processing k] else s.ready
        subscriptions := s.subscriptions.modify k Subscription.awake } := by
  rw [wake]
  split
  · next h =>
    simp only [changeSubscription, Server.mk.injEq, and_true, true_and]
    refine modify_congr fun sub hsub => ?_
    simp only [hsub, Option.any_some, decide_eq_true_eq] at h
    rw [Subscription.awake, if_pos h]
  · next h =>
    rw [modify_congr (g := id) fun sub hsub => ?_, List.modify_id]
    simp only [hsub, Option.any_some, decide_eq_true_eq] at h
    rw [Subscription.awake, if_neg h, id]

lemma wake_subscriptions (s : Server σ) (k : Nat) :
    (s.wake k).subscriptions = s.subscriptions.modify k Subscription.awake := by rw [wake_eq]

lemma close_subscriptions (s : Server σ) :
    s.close.subscriptions =
      s.subscriptions.modify s.latest fun sub => { sub with isOpen := false }.awake := by
  rw [close, wake_subscriptions, changeSubscription, List.modify_modify_eq]
  rfl

lemma startScan_subscriptions (s : Server σ) :
    s.startScan.subscriptions =
      (s.subscriptions.modify s.latest fun sub => { sub with isOpen := false }.awake) ++
        [({} : Subscription)] := by
  rw [startScan, close_subscriptions]

/-- A subscription after the beginning of another one. -/
lemma getElem?_startScan {s : Server σ} {k : Nat} {sub : Subscription}
    (h : s.startScan.subscriptions[k]? = some sub) :
    s.close.subscriptions[k]? = some sub
      ∨ k = s.close.subscriptions.length ∧ sub = ({} : Subscription) :=
  getElem?_concat_eq_some h

lemma endScan_subscriptions (s : Server σ) :
    s.endScan.subscriptions =
      s.subscriptions.modify s.latest fun sub => { sub with isOpen := false }.awake := by
  rw [endScan, log, close_subscriptions]

/-- A spectrum is accepted exactly if someone is subscribed whose queue is not full. -/
lemma emit_fst (st : Station) (s : Server σ) (x : Spectrum) :
    (s.emit st x).1 = true ↔ s.isSubscribed = true
      ∧ (s.queueOf s.latest).length < st.settings.scan.channelCapacity.toNat := by
  have hany : (s.emit st x).1 = s.subscriptions.getLast?.any fun sub =>
      sub.isOpen && sub.queue.length < st.settings.scan.channelCapacity.toNat := by
    rw [emit]
    dsimp only
    split
    · next h => exact h.symm
    · next h => exact (Bool.eq_false_iff.mpr h).symm
  rw [hany, isSubscribed, queueOf, latest, List.getLast?_eq_getElem?]
  cases s.subscriptions[s.subscriptions.length - 1]? with
  | none => simp
  | some sub => simp

lemma emit_of_not_isSubscribed {st : Station} {s : Server σ} (h : s.isSubscribed = false)
    (x : Spectrum) : (s.emit st x).1 = false := by
  rw [Bool.eq_false_iff]
  intro hemit
  rw [((emit_fst st s x).mp hemit).1] at h
  cases h

lemma emit_refused {st : Station} {s : Server σ} {x : Spectrum} (h : (s.emit st x).1 = false) :
    (s.emit st x).2 = s := by
  rw [emit] at h ⊢
  dsimp only at h ⊢
  split
  · next hopen =>
    rw [if_pos hopen] at h
    cases h
  · rfl

lemma emit_snd {st : Station} {s : Server σ} {x : Spectrum} (h : (s.emit st x).1 = true) :
    (s.emit st x).2 =
      (s.changeSubscription s.latest fun sub => { sub with queue := sub.queue ++ [x] }).wake
        s.latest := by
  rw [emit] at h ⊢
  dsimp only at h ⊢
  split
  · rfl
  · next hopen =>
    rw [if_neg hopen] at h
    cases h

lemma emit_subscriptions {st : Station} {s : Server σ} {x : Spectrum}
    (h : (s.emit st x).1 = true) :
    (s.emit st x).2.subscriptions =
      s.subscriptions.modify s.latest fun sub =>
        { sub with queue := sub.queue ++ [x] }.awake := by
  rw [emit_snd h, wake_subscriptions, changeSubscription, List.modify_modify_eq]
  rfl

lemma emit_accepted {st : Station} {s : Server σ} {x : Spectrum} (h : (s.emit st x).1 = true) :
    ∃ sub, s.subscriptions[s.latest]? = some sub ∧ sub.isOpen = true := by
  have hopen := ((emit_fst st s x).mp h).1
  rw [isSubscribed, List.getLast?_eq_getElem?, ← latest] at hopen
  cases hsub : s.subscriptions[s.latest]? with
  | none =>
    rw [hsub] at hopen
    cases hopen
  | some sub =>
    rw [hsub] at hopen
    exact ⟨sub, rfl, hopen⟩

/-! ### Queues and subscription after an operation -/

lemma queueOf_emit {st : Station} {s : Server σ} {x : Spectrum} (h : (s.emit st x).1 = true)
    (j : Nat) :
    (s.emit st x).2.queueOf j = s.queueOf j ++ if s.latest = j then [x] else [] := by
  obtain ⟨sub, hsub, -⟩ := emit_accepted h
  rw [queueOf_modify_eq (emit_subscriptions h) hsub]
  by_cases hj : s.latest = j
  · subst hj
    simp [queueOf, hsub]
  · simp [hj]

lemma queueOf_endScan (s : Server σ) (j : Nat) : s.endScan.queueOf j = s.queueOf j :=
  queueOf_modify (endScan_subscriptions s) (by simp) j

lemma queueOf_startScan (s : Server σ) (j : Nat) : s.startScan.queueOf j = s.queueOf j := by
  have hclosed := queueOf_modify (close_subscriptions s) (by simp) j
  rw [queueOf, close_subscriptions] at hclosed
  rw [queueOf, startScan_subscriptions, ← hclosed]
  by_cases hj : j < s.subscriptions.length
  · rw [List.getElem?_append_left (by simpa using hj)]
  · rw [List.getElem?_append_right (by simpa using hj), List.length_modify]
    -- the new subscription holds no spectra, just as one that does not exist
    have hnone (l : List Subscription) (hl : l.length = s.subscriptions.length) : l[j]? = none :=
      List.getElem?_eq_none (by omega)
    rw [hnone _ (List.length_modify ..)]
    cases j - s.subscriptions.length <;> rfl

lemma isSubscribed_emit (st : Station) (s : Server σ) (x : Spectrum) :
    (s.emit st x).2.isSubscribed = s.isSubscribed := by
  cases h : (s.emit st x).1 with
  | false => rw [emit_refused h]
  | true => exact isSubscribed_modify (emit_subscriptions h) (by simp)

lemma isSubscribed_startScan (s : Server σ) : s.startScan.isSubscribed = true := by
  rw [isSubscribed, startScan_subscriptions, List.getLast?_concat]
  rfl

lemma isSubscribed_endScan (s : Server σ) : s.endScan.isSubscribed = false := by
  rw [isSubscribed, endScan_subscriptions, List.getLast?_eq_getElem?, List.length_modify, latest,
    List.getElem?_modify_eq]
  cases s.subscriptions[s.subscriptions.length - 1]? <;> simp

/-! ### The snapshot after an operation -/

@[simp] lemma snapshot_wake (s : Server σ) (k : Nat) : (s.wake k).snapshot = s.snapshot := by
  rw [wake_eq]

@[simp] lemma snapshot_close (s : Server σ) : s.close.snapshot = s.snapshot :=
  snapshot_wake _ _

@[simp] lemma snapshot_startScan (s : Server σ) : s.startScan.snapshot = s.snapshot :=
  snapshot_close s

@[simp] lemma snapshot_endScan (s : Server σ) : s.endScan.snapshot = s.snapshot :=
  snapshot_close s

@[simp] lemma snapshot_emit (st : Station) (s : Server σ) (x : Spectrum) :
    (s.emit st x).2.snapshot = s.snapshot := by
  rw [emit]
  dsimp only
  split
  · exact snapshot_wake _ _
  · rfl

/-! ### The turns that are put off -/

@[simp] lemma postponed_close (s : Server σ) : s.close.postponed = s.postponed := by
  rw [close, wake_eq]
  rfl

@[simp] lemma postponed_emit (st : Station) (s : Server σ) (x : Spectrum) :
    (s.emit st x).2.postponed = s.postponed := by
  cases h : (s.emit st x).1 with
  | false => rw [emit_refused h]
  | true =>
    rw [emit_snd h, wake_eq]
    rfl

end Server

end SpectroRemote
