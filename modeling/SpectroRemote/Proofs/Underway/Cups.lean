import SpectroRemote.Proofs.Underway

/-!
# The cup configurations that spectra meet

A spectrum that is in hand meets the cup configuration of the name that is active when it is asked
for. The instrument is at any time in the state that it was said to be in last, and so the steps
tell which one that is (`Underway.identified`). Nothing else is known of a spectrum when it is
ingested (`Underway.exists_conclude`).
-/

namespace SpectroRemote.Underway

variable {σ : Type} [Instrument σ] (st : Station)

lemma instrument_perform (u : Underway σ) (step : Step σ) :
    (u.perform st step).instrument = step.instrument?.getD u.instrument := by
  have hwake (s : Server σ) (k : Nat) : (s.wake k).instrument = s.instrument := by
    rw [Server.wake_eq]
  cases step with
  | emit x =>
    show (u.server.emit st x).2.instrument = u.instrument
    rw [Server.emit]
    dsimp only
    split
    · exact hwake _ _
    · rfl
  | start => exact hwake _ _
  | finish => exact hwake _ _
  | take k =>
    rw [perform]
    split <;> rfl
  | name k =>
    rw [perform]
    split <;> rfl
  | identify k =>
    rw [perform]
    split <;> rfl
  | conclude k =>
    rw [perform]
    split <;> rfl
  | mark k progress =>
    rw [perform]
    split <;> rfl
  | become i => rfl

/-- The instrument is in the state that it was said to be in last. -/
lemma instrument_after (u : Underway σ) (steps : List (Step σ)) :
    (u.after st steps).instrument
      = (steps.filterMap Step.instrument?).getLast?.getD u.instrument := by
  induction steps using List.reverseRecOn with
  | nil => rfl
  | append_singleton steps step ih =>
    rw [after_concat, instrument_perform, ih, List.filterMap_append]
    cases h : step.instrument? with
    | none => simp [h]
    | some i => simp [h]

lemma update_eq_some {hands : Nat → Option InHand} {j k : Nat} {hand : Option InHand} {a : InHand}
    (h : Function.update hands j hand k = some a) :
    k = j ∧ hand = some a ∨ hands k = some a := by
  by_cases hk : k = j
  · subst hk
    rw [Function.update_self] at h
    exact .inl ⟨rfl, h⟩
  · rw [Function.update_of_ne hk] at h
    exact .inr h

/-- What is in hand was so before, or a step of the processing that has it brought it as far. -/
inductive Brings (u : Underway σ) (k : Nat) : Step σ → InHand → Prop
  | take (x : Spectrum) : Brings u k (.take k) (.taken x)
  | name {x : Spectrum} (hhand : u.hands k = some (.taken x)) :
    Brings u k (.name k) (.named x (Instrument.activeName? u.instrument))
  | identify {x : Spectrum} {name? : Option String} (hhand : u.hands k = some (.named x name?)) :
    Brings u k (.identify k) (.identified x (name?.bind (Instrument.cupNamed? u.instrument)))

lemma of_hands_perform {u : Underway σ} {step : Step σ} {k : Nat} {hand : InHand}
    (h : (u.perform st step).hands k = some hand) :
    u.hands k = some hand ∨ Brings u k step hand := by
  cases step with
  | emit | start | finish | become => exact .inl h
  | mark j progress =>
    rw [perform] at h
    split at h <;> exact .inl h
  | take j =>
    rw [perform] at h
    split at h
    · obtain ⟨rfl, heq⟩ | h := update_eq_some h
      · cases heq
        exact .inr (.take _)
      · exact .inl h
    · exact .inl h
  | name j =>
    rw [perform] at h
    split at h
    · next hhand =>
      obtain ⟨rfl, heq⟩ | h := update_eq_some h
      · cases heq
        exact .inr (.name hhand)
      · exact .inl h
    · exact .inl h
  | identify j =>
    rw [perform] at h
    split at h
    · next hhand =>
      obtain ⟨rfl, heq⟩ | h := update_eq_some h
      · cases heq
        exact .inr (.identify hhand)
      · exact .inl h
    · exact .inl h
  | conclude j =>
    rw [perform] at h
    split at h
    · obtain ⟨-, heq⟩ | h := update_eq_some h
      · cases heq
      · exact .inl h
    · exact .inl h

/-- Throughout some steps that come after others this is in hand. -/
def Keeps (u : Underway σ) (steps more : List (Step σ)) (k : Nat) (hand : InHand) : Prop :=
  ∀ some, some <+: more → (u.after st (steps ++ some)).hands k = .some hand

/-- What is in hand was brought as far by one of the steps, and is in hand since then. -/
lemma exists_brings (s : Server σ) (steps : List (Step σ)) {k : Nat} {hand : InHand}
    (h : (s.underway.after st steps).hands k = some hand) :
    ∃ earlier step later, steps = earlier ++ step :: later
      ∧ Brings (s.underway.after st earlier) k step hand
      ∧ Keeps st s.underway (earlier ++ [step]) later k hand := by
  -- at the end of the steps: the last one brought it as far, or it was in hand before
  induction steps using List.reverseRecOn with
  | nil => cases h
  | append_singleton steps step ih =>
    rcases of_hands_perform st (after_concat st s.underway steps step ▸ h) with hbefore | hbrings
    · obtain ⟨earlier, brought, later, rfl, hbrings, hkeeps⟩ := ih hbefore
      refine ⟨earlier, brought, later ++ [step], by simp, hbrings, fun some hsome => ?_⟩
      rcases List.prefix_concat_iff.mp hsome with rfl | hsome
      · simpa using h
      · exact hkeeps some hsome
    · refine ⟨steps, step, [], rfl, hbrings, fun some hsome => ?_⟩
      rw [List.prefix_nil.mp hsome, List.append_nil]
      exact h

/-- Of these steps one asked for the name of the active cup configuration while a spectrum was in
hand, and a later one looked this name up and found this cup configuration, or none. Meanwhile and
since then the spectrum is in hand. -/
def Identified (u : Underway σ) (steps : List (Step σ)) (k : Nat) (x : Spectrum)
    (cup? : Option Cup) : Prop :=
  ∃ earlier between later,
    let asked := u.after st earlier
    let looking := u.after st (earlier ++ .name k :: between)
    let name? := Instrument.activeName? asked.instrument
    steps = earlier ++ .name k :: between ++ .identify k :: later
      ∧ asked.hands k = some (.taken x)
      ∧ Keeps st u (earlier ++ [.name k]) between k (.named x name?)
      ∧ cup? = name?.bind (Instrument.cupNamed? looking.instrument)
      ∧ Keeps st u (earlier ++ .name k :: between ++ [.identify k]) later k (.identified x cup?)

/-- What is in hand with a cup configuration was given the one of the name that was active. -/
lemma identified (s : Server σ) (steps : List (Step σ)) {k : Nat} {x : Spectrum}
    {cup? : Option Cup} (h : (s.underway.after st steps).hands k = some (.identified x cup?)) :
    Identified st s.underway steps k x cup? := by
  obtain ⟨before, step, later, rfl, hbrings, hsince⟩ := exists_brings st s steps h
  cases hbrings with
  | identify hnamed =>
    obtain ⟨earlier, step, between, rfl, hbrings, hmeanwhile⟩ := exists_brings st s before hnamed
    cases hbrings with
    | name htaken => exact ⟨earlier, between, later, rfl, htaken, hmeanwhile, rfl, hsince⟩

omit [Instrument σ] in
lemma of_told_ingested {u : Underway σ} {step : Step σ} {k : Nat} {x : Spectrum}
    {cup? : Option Cup} (h : u.told st step = some (.ingested k x cup?)) :
    step = .conclude k ∧ u.hands k = some (.identified x cup?) := by
  cases step with
  | emit y =>
    rw [told, Server.emission] at h
    split at h <;> cases h
  | conclude j =>
    rw [told] at h
    split at h
    · next hhand =>
      cases h
      exact ⟨rfl, hhand⟩
    · cases h
  | _ => cases h

/-- What is told of a spectrum that was ingested is told of a step that concluded it. -/
lemma exists_conclude {u : Underway σ} {steps : List (Step σ)} {k : Nat} {x : Spectrum}
    {cup? : Option Cup} {before after : List Happening}
    (h : u.history st steps = before ++ .ingested k x cup? :: after) :
    ∃ earlier later, steps = earlier ++ .conclude k :: later
      ∧ u.history st earlier = before
      ∧ (u.after st earlier).hands k = some (.identified x cup?) := by
  induction steps generalizing u before with
  | nil => simp [history] at h
  | cons step rest ih =>
    rw [history] at h
    cases htold : u.told st step with
    | none =>
      rw [htold, Option.toList_none, List.nil_append] at h
      obtain ⟨earlier, later, rfl, hbefore, hhand⟩ := ih h
      refine ⟨step :: earlier, later, rfl, ?_, hhand⟩
      rw [history, htold, hbefore]
      rfl
    | some e =>
      rw [htold, Option.toList_some, List.singleton_append] at h
      cases before with
      | nil =>
        obtain ⟨rfl, -⟩ := List.cons.inj h
        obtain ⟨rfl, hhand⟩ := of_told_ingested st htold
        exact ⟨[], rest, rfl, rfl, hhand⟩
      | cons e' before =>
        obtain ⟨rfl, hrest⟩ := List.cons.inj h
        obtain ⟨earlier, later, rfl, hbefore, hhand⟩ := ih hrest
        refine ⟨step :: earlier, later, rfl, ?_, hhand⟩
        rw [history, htold, hbefore]
        rfl

end SpectroRemote.Underway
