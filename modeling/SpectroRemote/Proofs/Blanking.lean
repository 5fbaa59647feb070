import SpectroRemote.Proofs.Effects

/-!
# Blanking

How a request to blank or to restore the beam can end (`Switched`).
-/

namespace SpectroRemote.Server

variable {σ : Type} [Instrument σ]

/-! ### Single requests -/

/-- How the wish to blank the beam or to restore it can end: with which instrument, and with which
state of blanking. -/
inductive Switched (st : Station) (s : Server σ) : (wish : Bool) → σ → Blanking → Prop
  /-- Blanking is disabled, or the beam is already as it is wished to be. -/
  | idle {wish : Bool} (h : st.settings.beamBlank.enabled = false ∨ wish = s.blank.isBlanked) :
    Switched st s wish s.instrument s.blank
  | unreadable {e : Refusal} (hnot : s.blank.isBlanked = false)
    (hread : Instrument.readParameter s.instrument st.settings.hardware.ySymmetry = .error e) :
    Switched st s true s.instrument s.blank
  | blankRefused {i : σ} {e : Refusal} (hnot : s.blank.isBlanked = false)
    (hwrite : Instrument.writeParameter s.instrument st.settings.hardware.ySymmetry
      st.settings.beamBlank.blankValue = (.error e, i)) :
    Switched st s true i s.blank
  | blanked {i : σ} {current : Float} (hnot : s.blank.isBlanked = false)
    (hread : Instrument.readParameter s.instrument st.settings.hardware.ySymmetry = .ok current)
    (hwrite : Instrument.writeParameter s.instrument st.settings.hardware.ySymmetry
      st.settings.beamBlank.blankValue = (.ok (), i)) :
    Switched st s true i ⟨true, current⟩
  | restoreRefused {i : σ} {e : Refusal} (his : s.blank.isBlanked = true)
    (hwrite : Instrument.writeParameter s.instrument st.settings.hardware.ySymmetry
      s.blank.restore = (.error e, i)) :
    Switched st s false i s.blank
  | restored {i : σ} (his : s.blank.isBlanked = true)
    (hwrite : Instrument.writeParameter s.instrument st.settings.hardware.ySymmetry
      s.blank.restore = (.ok (), i)) :
    Switched st s false i ⟨false, s.blank.restore⟩

/-- The instrument is as before, or one attempt to write the y symmetry was made. -/
lemma Switched.instrument_eq {st : Station} {s : Server σ} {wish : Bool} {i : σ} {b : Blanking}
    (h : Switched st s wish i b) :
    i = s.instrument ∨
      ∃ answer v,
        Instrument.writeParameter s.instrument st.settings.hardware.ySymmetry v = (answer, i) := by
  cases h with
  | idle => exact .inl rfl
  | unreadable => exact .inl rfl
  | blankRefused _ hwrite => exact .inr ⟨_, _, hwrite⟩
  | blanked _ _ hwrite => exact .inr ⟨_, _, hwrite⟩
  | restoreRefused _ hwrite => exact .inr ⟨_, _, hwrite⟩
  | restored _ hwrite => exact .inr ⟨_, _, hwrite⟩

/-- The instrument refuses the reading or the write that blanking or restoring the beam needs. -/
def RefusesBlanking (st : Station) (s : Server σ) (wish : Bool) : Prop :=
  (wish = true ∧
    ∃ e, Instrument.readParameter s.instrument st.settings.hardware.ySymmetry = .error e)
  ∨ ∃ e, (Instrument.writeParameter s.instrument st.settings.hardware.ySymmetry
      (if wish then st.settings.beamBlank.blankValue else s.blank.restore)).1 = .error e

/-- Nothing changes in the blanking if it is as it is wished to be, or if the instrument refuses. -/
lemma Switched.blank_eq {st : Station} {s : Server σ} {wish : Bool} {i : σ} {b : Blanking}
    (h : Switched st s wish i b)
    (hsame : wish = s.blank.isBlanked ∨ s.RefusesBlanking st wish) : b = s.blank := by
  cases h with
  | blanked hnot hread hwrite =>
    rcases hsame with hheld | ⟨-, e, hunread⟩ | ⟨e, hrefused⟩
    · rw [hnot] at hheld
      cases hheld
    · rw [hread] at hunread
      cases hunread
    · rw [if_pos rfl, hwrite] at hrefused
      cases hrefused
  | restored his hwrite =>
    rcases hsame with hheld | ⟨hwish, -⟩ | ⟨e, hrefused⟩
    · rw [his] at hheld
      cases hheld
    · cases hwish
    · rw [if_neg Bool.false_ne_true, hwrite] at hrefused
      cases hrefused
  | _ => rfl

/-- Without a refusal the beam is blanked if that is wished for, and else it is not. -/
lemma Switched.isBlanked_eq {st : Station} (enabled : st.settings.beamBlank.enabled = true)
    {s : Server σ} {wish : Bool} {i : σ} {b : Blanking} (h : Switched st s wish i b)
    (hno : ¬ s.RefusesBlanking st wish) : b.isBlanked = wish := by
  cases h with
  | idle hidle =>
    rcases hidle with hdisabled | hheld
    · rw [enabled] at hdisabled
      cases hdisabled
    · exact hheld.symm
  | unreadable _ hread => exact absurd (.inl ⟨rfl, _, hread⟩) hno
  | blankRefused _ hwrite => exact absurd (.inr ⟨_, by rw [if_pos rfl, hwrite]⟩) hno
  | restoreRefused _ hwrite =>
    exact absurd (.inr ⟨_, by rw [if_neg Bool.false_ne_true, hwrite]⟩) hno
  | blanked => rfl
  | restored => rfl

lemma read_eq_ok_iff {s : Server σ} {name : String} {v : Float} :
    s.read name = .ok v ↔ Instrument.readParameter s.instrument name = .ok v := by
  rw [read]
  cases Instrument.readParameter s.instrument name <;> simp

lemma read_eq_error_iff {s : Server σ} {name : String} :
    (∃ e, s.read name = .error e) ↔ ∃ e, Instrument.readParameter s.instrument name = .error e := by
  rw [read]
  cases Instrument.readParameter s.instrument name <;> simp

/-- An accepted write. -/
lemma write_eq_ok_iff {s s' : Server σ} {name : String} {v : Float} :
    s.write name v = (.ok (), s') ↔
      ∃ i, Instrument.writeParameter s.instrument name v = (.ok (), i)
        ∧ s' = { s with instrument := i } := by
  rw [write]
  split <;> next heq => simp [heq, eq_comm]

/-- A refused write leaves everything but the instrument and the journal. -/
lemma write_eq_error {s s' : Server σ} {name : String} {v : Float} {e : Failure}
    (h : s.write name v = (.error e, s')) :
    ∃ r i, Instrument.writeParameter s.instrument name v = (.error r, i)
      ∧ s'.instrument = i ∧ s'.blank = s.blank := by
  rw [write] at h
  split at h
  · cases h
  · next r i heq =>
    cases h
    exact ⟨r, i, heq, rfl, rfl⟩

theorem switchBlanking_switched (st : Station) (s : Server σ) (wish : Bool) :
    Switched st s wish (s.switchBlanking st wish).2.instrument
      (s.switchBlanking st wish).2.blank := by
  unfold switchBlanking
  split
  · next h => exact .idle (.inl (by simpa using h))
  · split
    · next hnot =>
      unfold blankBeam
      dsimp only
      split
      · next e hread =>
        obtain ⟨e, hread⟩ := read_eq_error_iff.mp ⟨e, hread⟩
        exact .unreadable hnot hread
      · next current hread =>
        split
        · next hwrite =>
          obtain ⟨r, i, hwrite, rfl, hblank⟩ := write_eq_error hwrite
          exact hblank ▸ .blankRefused hnot hwrite
        · next hwrite =>
          obtain ⟨i, haccepted, rfl⟩ := write_eq_ok_iff.mp hwrite
          exact .blanked hnot (read_eq_ok_iff.mp hread) haccepted
    · next his =>
      rw [unblankBeam]
      split
      · next hwrite =>
        obtain ⟨r, i, hwrite, rfl, hblank⟩ := write_eq_error hwrite
        exact hblank ▸ .restoreRefused his hwrite
      · next hwrite =>
        obtain ⟨i, haccepted, rfl⟩ := write_eq_ok_iff.mp hwrite
        exact .restored his haccepted
    · next wish blanked hblank hrestore =>
      exact .idle (.inr (by cases wish <;> cases hb : s.blank.isBlanked <;> simp_all))

/-- Serving a request to blank or restore the beam: without an argument nothing happens. -/
lemma serveRequest_blankBeam (st : Station) (s : Server σ) (argument : String) :
    (s.serveRequest st ⟨.blankBeam, argument⟩).2 = s ∧ argument = ""
      ∨ Switched st s (argument = "true") (s.serveRequest st ⟨.blankBeam, argument⟩).2.instrument
        (s.serveRequest st ⟨.blankBeam, argument⟩).2.blank := by
  simp only [serveRequest]
  split
  · next h => exact .inr (.idle (.inl (by simpa using h)))
  · rw [Request.givenArgument]
    dsimp only
    split
    · next h => exact .inl ⟨rfl, by simpa using h⟩
    · exact .inr (switchBlanking_switched st s _)

end SpectroRemote.Server
