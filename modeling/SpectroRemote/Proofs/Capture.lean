import Mathlib.Data.List.Induction
import SpectroRemote.Instrument.Scripted
import SpectroRemote.Proofs.Delivery
import SpectroRemote.Proofs.Footprint

/-!
# The captured y symmetry

The request that blanks the beam reads the y symmetry, and the reading is kept until the beam is
restored to it. Nothing takes its place but a reading that is made while the beam is blanked, when
the server is made ready once more (`restore_of_isBlanked`). Such a reading shows the blanked beam,
to which the beam is then restored (`makeReady_overwrites_restore`).
-/

namespace SpectroRemote.Server

variable {σ : Type} [Instrument σ] (st : Station)

/-! ### What actions do to the blanking -/

/-- The y symmetry that an action reads to restore it later, if it makes the server ready. -/
def primed? (s : Server σ) : Action σ → Option Float
  | .makeReady =>
    let i := (Instrument.prepareScan s.instrument).2
    (Instrument.readParameter i st.settings.hardware.ySymmetry).toOption
  | _ => none

/-- The y symmetries that are read whenever the server is made ready, in order. -/
def primings (s : Server σ) : List (Action σ) → List Float
  | [] => []
  | a :: rest => (s.primed? st a).toList ++ primings (s.act st a) rest

lemma act_serve (s : Server σ) (line : String) :
    s.act st (.serve line) = (s.serveLine st line).2 := rfl

lemma act_makeReady (s : Server σ) : s.act st .makeReady = s.makeReady st := rfl

lemma primings_append (s : Server σ) (actions more : List (Action σ)) :
    s.primings st (actions ++ more)
      = s.primings st actions ++ (actions.foldl (act st) s).primings st more := by
  induction actions generalizing s with
  | nil => rfl
  | cons a rest ih =>
    rw [List.cons_append, primings, primings, ih, List.foldl_cons, List.append_assoc]

lemma primings_eq_nil {actions : List (Action σ)} (h : ∀ a ∈ actions, a ≠ .makeReady)
    (s : Server σ) : s.primings st actions = [] := by
  induction actions generalizing s with
  | nil => rfl
  | cons a rest ih =>
    rw [primings, ih fun a ha => h a (.tail _ ha), List.append_nil]
    cases a with
    | makeReady => exact absurd rfl (h _ (.head _))
    | _ => rfl

lemma primeBlank_blank (s : Server σ) :
    (s.primeBlank st).blank =
      { s.blank with
        restore := (Instrument.readParameter s.instrument
          st.settings.hardware.ySymmetry).toOption.getD s.blank.restore } := by
  rw [primeBlank, read]
  cases Instrument.readParameter s.instrument st.settings.hardware.ySymmetry <;> rfl

/-- Making the server ready leaves a blanked beam blanked, and keeps what it reads. -/
lemma makeReady_blank (s : Server σ) :
    (s.makeReady st).blank =
      { s.blank with restore := (s.primed? st .makeReady).getD s.blank.restore } := by
  rw [makeReady, primed?]
  split
  · next heq => rw [primeBlank_blank, heq]
  · next heq => rw [primeBlank_blank, heq, log]

/-- An action that neither serves a line nor makes the server ready has no part in the blanking. -/
lemma act_blank_cases (s : Server σ) (a : Action σ) :
    (∃ line, a = .serve line) ∨ a = .makeReady
      ∨ (s.act st a).blank = s.blank ∧ s.primed? st a = none := by
  by_cases hready : a = .makeReady
  · exact .inr (.inl hready)
  · have hnone : s.primed? st a = none := by
      cases a with
      | makeReady => exact absurd rfl hready
      | _ => rfl
    rcases act_cases st s a with hserve | h | ⟨f, rfl⟩ | hbeside
    · exact .inl hserve
    · exact absurd h hready
    · exact .inr (.inr ⟨rfl, hnone⟩)
    · exact .inr (.inr ⟨hbeside.blank, hnone⟩)

/-- A line that has a part in the blanking asks to blank or to restore the beam, where that is
enabled. -/
lemma serveLine_switched {s : Server σ} {line : String}
    (h : (s.serveLine st line).2.blank ≠ s.blank) :
    st.settings.beamBlank.enabled = true
      ∧ ∃ argument, Request.parse line = .ok ⟨.blankBeam, argument⟩
        ∧ Switched st s (argument = "true") (s.serveLine st line).2.instrument
          (s.serveLine st line).2.blank := by
  cases hparse : Request.parse line with
  | error e =>
    rw [serveLine_of_parse_error hparse] at h
    exact absurd rfl h
  | ok r =>
    rw [serveLine_of_parse hparse] at h ⊢
    obtain ⟨verb, argument⟩ := r
    by_cases hverb : verb = .blankBeam
    · subst hverb
      constructor
      · by_contra hdisabled
        rw [Bool.not_eq_true] at hdisabled
        exact h (by simp only [serveRequest, hdisabled]; rfl)
      · rcases serveRequest_blankBeam st s argument with ⟨hsame, -⟩ | hswitched
        · exact absurd (by rw [hsame]) h
        · exact ⟨argument, rfl, hswitched⟩
    · exact absurd ((serveRequest_reaches st s ⟨verb, argument⟩).blank_eq fun _ => hverb) h

/-- While the beam stays blanked, what is kept changes only if the server is made ready. -/
lemma restore_act {s : Server σ} (hs : s.blank.isBlanked = true) {a : Action σ}
    (ha : (s.act st a).blank.isBlanked = true) :
    (s.act st a).blank.restore = (s.primed? st a).getD s.blank.restore := by
  rcases act_blank_cases st s a with ⟨line, rfl⟩ | rfl | ⟨hblank, hnone⟩
  · rw [act_serve] at ha ⊢
    change _ = s.blank.restore
    by_contra hchanged
    obtain ⟨-, argument, -, hswitched⟩ := serveLine_switched st fun h => hchanged (by rw [h])
    generalize decide (argument = "true") = wish at hswitched
    generalize (s.serveLine st line).2.instrument = i at hswitched
    generalize (s.serveLine st line).2.blank = b at ha hchanged hswitched
    cases hswitched with
    | blanked hnot => rw [hs] at hnot; cases hnot
    | restored => cases ha
    | _ => exact hchanged rfl
  · rw [act_makeReady, makeReady_blank]
  · rw [hblank, hnone, Option.getD_none]

/-- The beam becomes blanked only by a request for it, which reads what is kept. -/
lemma blanked_act {s : Server σ} (hs : s.blank.isBlanked = false) {a : Action σ}
    (ha : (s.act st a).blank.isBlanked = true) :
    st.settings.beamBlank.enabled = true
      ∧ ∃ line, a = .serve line ∧ Request.parse line = .ok ⟨.blankBeam, "true"⟩
        ∧ Instrument.readParameter s.instrument st.settings.hardware.ySymmetry
          = .ok (s.act st a).blank.restore := by
  have hchanged (h : (s.act st a).blank.isBlanked = s.blank.isBlanked) : False := by
    rw [h, hs] at ha
    cases ha
  rcases act_blank_cases st s a with ⟨line, rfl⟩ | rfl | ⟨hblank, -⟩
  · rw [act_serve] at ha hchanged ⊢
    obtain ⟨enabled, argument, hparse, hswitched⟩ :=
      serveLine_switched st fun h => hchanged (by rw [h])
    refine ⟨enabled, line, rfl, ?_⟩
    generalize hwish : decide (argument = "true") = wish at hswitched
    generalize (s.serveLine st line).2.instrument = i at hswitched
    generalize (s.serveLine st line).2.blank = b at ha hswitched ⊢
    cases hswitched with
    | blanked hnot hread hwrite =>
      rw [of_decide_eq_true hwish] at hparse
      exact ⟨hparse, hread⟩
    | restored => cases ha
    | _ => rw [hs] at ha; cases ha
  · exact (hchanged (by rw [act_makeReady, makeReady_blank])).elim
  · exact (hchanged (by rw [hblank])).elim

/-! ### Restoring -/

lemma write_of_unblankBeam {s : Server σ} (h : (s.unblankBeam st).1 = doneReply) :
    Instrument.writeParameter s.instrument st.settings.hardware.ySymmetry s.blank.restore
      = (.ok (), (s.unblankBeam st).2.instrument) := by
  revert h
  rw [unblankBeam]
  split
  · exact fun h => absurd h (Failure.reply_ne_done _)
  · next hwrite =>
    obtain ⟨i, haccepted, rfl⟩ := write_eq_ok_iff.mp hwrite
    exact fun _ => haccepted

/-- A blanked beam that is restored with success is restored to what was kept. -/
lemma write_of_restored {s : Server σ} (enabled : st.settings.beamBlank.enabled = true)
    (hs : s.blank.isBlanked = true) {line argument : String}
    (hparse : Request.parse line = .ok ⟨.blankBeam, argument⟩) (hempty : argument ≠ "")
    (htrue : argument ≠ "true") (hdone : (s.serveLine st line).1 = doneReply) :
    Instrument.writeParameter s.instrument st.settings.hardware.ySymmetry s.blank.restore
      = (.ok (), (s.serveLine st line).2.instrument) := by
  have hserve : s.serveRequest st ⟨.blankBeam, argument⟩ = replied (s.unblankBeam st) := by
    have hwish : decide (argument = "true") = false := decide_eq_false htrue
    have hargument : Request.givenArgument ⟨.blankBeam, argument⟩ = .ok argument := by
      rw [Request.givenArgument, if_neg (by simpa using hempty)]
    simp only [serveRequest, enabled, hargument, withValue, hwish, switchBlanking, hs]
    rfl
  rw [serveLine_of_parse hparse, hserve]
  rw [serveLine_reply hparse, hserve] at hdone
  exact write_of_unblankBeam st hdone

/-! ### Runs -/

/-- After the actions `before`, a line blanks the beam and reads the y symmetry `c`, and the beam
stays blanked during the actions `after`. -/
structure Captures (start : Server σ) (before : List (Action σ)) (line : String)
    (after : List (Action σ)) (c : Float) : Prop where
  enabled : st.settings.beamBlank.enabled = true
  request : Request.parse line = .ok ⟨.blankBeam, "true"⟩
  unblanked : (before.foldl (act st) start).blank.isBlanked = false
  reading : Instrument.readParameter (before.foldl (act st) start).instrument
    st.settings.hardware.ySymmetry = .ok c
  blanked : ∀ more, more <+: after →
    ((before ++ Action.serve line :: more).foldl (act st) start).blank.isBlanked = true

/-- The y symmetry that was read last: while the beam was blanked, or when it was. -/
def lastReading (start : Server σ) (before : List (Action σ)) (line : String)
    (after : List (Action σ)) (c : Float) : Float :=
  (((before ++ [Action.serve line]).foldl (act st) start).primings st after).getLast?.getD c

lemma Captures.concat {start : Server σ} {before : List (Action σ)} {line : String}
    {after : List (Action σ)} {c : Float} (h : Captures st start before line after c)
    {a : Action σ}
    (ha : ((before ++ Action.serve line :: after ++ [a]).foldl (act st) start).blank.isBlanked
      = true) : Captures st start before line (after ++ [a]) c where
  enabled := h.enabled
  request := h.request
  unblanked := h.unblanked
  reading := h.reading
  blanked more hmore := by
    rcases List.prefix_concat_iff.mp hmore with rfl | hmore
    · simpa using ha
    · exact h.blanked more hmore

/-- One more action, during which the beam stays blanked, adds its own reading. -/
lemma lastReading_concat (start : Server σ) (before : List (Action σ)) (line : String)
    (after : List (Action σ)) (c : Float) (a : Action σ) :
    lastReading st start before line (after ++ [a]) c =
      (((before ++ Action.serve line :: after).foldl (act st) start).primed? st a).getD
        (lastReading st start before line after c) := by
  rw [lastReading, primings_append, ← List.foldl_append, List.append_assoc, List.singleton_append,
    primings, primings, List.append_nil, List.getLast?_append, lastReading]
  cases ((before ++ Action.serve line :: after).foldl (act st) start).primed? st a <;> rfl

/-- While the beam is blanked, the last reading is kept. -/
lemma captures_of_isBlanked {start : Server σ} (unblanked : start.blank.isBlanked = false)
    (actions : List (Action σ)) (h : (actions.foldl (act st) start).blank.isBlanked = true) :
    ∃ before line after c, actions = before ++ .serve line :: after
      ∧ Captures st start before line after c
      ∧ (actions.foldl (act st) start).blank.restore
        = lastReading st start before line after c := by
  -- at the end of the run: the last action blanks the beam, or finds it blanked
  induction actions using List.reverseRecOn with
  | nil =>
    rw [List.foldl_nil, unblanked] at h
    cases h
  | append_singleton actions a ih =>
    have hlast : (actions ++ [a]).foldl (act st) start
        = (actions.foldl (act st) start).act st a := by rw [List.foldl_append]; rfl
    rw [hlast] at h ⊢
    cases hs : (actions.foldl (act st) start).blank.isBlanked with
    | true =>
      obtain ⟨before, line, after, c, rfl, hcaptures, hrestore⟩ := ih hs
      refine ⟨before, line, after ++ [a], c, by simp, hcaptures.concat st (hlast ▸ h), ?_⟩
      rw [restore_act st hs h, lastReading_concat, hrestore]
    | false =>
      obtain ⟨enabled, line, rfl, hparse, hread⟩ := blanked_act st hs h
      refine ⟨actions, line, [], _, rfl, ⟨enabled, hparse, hs, hread, fun more hmore => ?_⟩, rfl⟩
      rw [List.prefix_nil.mp hmore, hlast]
      exact h

/-- Whatever was done with a new server, as long as the beam is blanked the server keeps the y
symmetry that the request for it read, or the last one that was read since then because the server
was made ready once more. When the beam is restored with success, this value is written. -/
theorem restore_of_isBlanked (i : σ) (actions : List (Action σ)) :
    let start : Server σ := { instrument := i }
    let now := actions.foldl (act st) start
    now.blank.isBlanked = true →
      ∃ before line after c, actions = before ++ .serve line :: after
        ∧ Captures st start before line after c
        ∧ now.blank.restore = lastReading st start before line after c
        ∧ ((∀ a ∈ after, a ≠ .makeReady) → now.blank.restore = c)
        ∧ ∀ line argument, Request.parse line = .ok ⟨.blankBeam, argument⟩ → argument ≠ "" →
            argument ≠ "true" → (now.serveLine st line).1 = doneReply →
              Instrument.writeParameter now.instrument st.settings.hardware.ySymmetry
                now.blank.restore = (.ok (), (now.serveLine st line).2.instrument) := by
  intro start now h
  obtain ⟨before, line, after, c, hactions, hcaptures, hrestore⟩ :=
    captures_of_isBlanked st rfl actions h
  refine ⟨before, line, after, c, hactions, hcaptures, hrestore, fun hafter => ?_, ?_⟩
  · rw [hrestore, lastReading, primings_eq_nil st hafter]
    rfl
  · intro line argument hparse hempty htrue hdone
    exact write_of_restored st hcaptures.enabled h hparse hempty htrue hdone

/-- The beam of a multicollector is blanked, another y symmetry is set, the server is made ready
while the y symmetry cannot be read, and what is kept is still the y symmetry from before. -/
theorem restore_of_isBlanked_multicollector :
    let st : Station := { settings := { beamBlank := { enabled := true } } }
    let i : ScriptedInstrument := { instrument := SimulatedInstrument.multicollector }
    let start : Server ScriptedInstrument := { instrument := i }
    let before : List (Action ScriptedInstrument) := [.makeReady]
    let after : List (Action ScriptedInstrument) :=
      [.serve "SetYSymmetry 5", .become (·.setFault .readParameter (some "offline")), .makeReady]
    let now := (before ++ .serve "BlankBeam true" :: after).foldl (act st) start
    now.blank.isBlanked = true ∧ now.blank.restore = 12.5
      ∧ ∃ before line after c,
        Captures st start before line after c
          ∧ now.blank.restore = lastReading st start before line after c := by
  intro st i start before after now
  have hblanked : now.blank.isBlanked = true := by decide +kernel
  have hkept : now.blank.restore = 12.5 := by decide +kernel
  unfold now start at hblanked hkept ⊢
  obtain ⟨before, line, after, c, -, hcaptures, hrestore, -⟩ := restore_of_isBlanked st i _ hblanked
  exact ⟨hblanked, hkept, before, line, after, c, hcaptures, hrestore⟩

/-- The server is made ready once more while the beam is blanked. What was kept is lost, and the
beam is restored to the blank value. -/
theorem makeReady_overwrites_restore :
    let st : Station := { settings := { beamBlank := { enabled := true } } }
    let start : Server SimulatedInstrument := { instrument := SimulatedInstrument.multicollector }
    let blanked := [.makeReady, .serve "BlankBeam true"].foldl (act st) start
    let restored := [.makeReady, .serve "BlankBeam false"].foldl (act st) blanked
    start.instrument.value? "Y-Symmetry Set" = some 12.5 ∧ blanked.blank = ⟨true, 12.5⟩
      ∧ (blanked.act st .makeReady).blank = ⟨true, -50⟩ ∧ restored.blank.isBlanked = false
      ∧ restored.instrument.value? "Y-Symmetry Set" = some (-50) := by
  decide +kernel

end SpectroRemote.Server
