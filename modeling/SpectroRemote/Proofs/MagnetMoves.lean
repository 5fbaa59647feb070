import SpectroRemote.Proofs.Readouts
import SpectroRemote.Proofs.Rejection
import SpectroRemote.Proofs.Setpoints

/-!
# Moves of the magnet, attempt by attempt

A move attempts one setpoint after the other and pauses between two of them, whichever attempts are
refused (`setMagnet_performs`). What is written, how much time passes and where the field is in the
end follows from this trace (`setMagnet_attempts`).
-/

namespace SpectroRemote

/-! ### Traces -/

namespace Effect

/-- The time that an effect takes, in milliseconds. -/
def duration (st : Station) : Effect → Nat
  | pause => min st.settings.magnet.stepTime.toNat Server.longestPause
  | _ => 0

/-- The change that an effect asks the instrument for. -/
def change? : Effect → Option Change
  | change c => some c
  | _ => none

end Effect

namespace Server

section Clock

variable {σ : Type} [Instrument σ]

lemma clock_runUntil (st : Station) (finish now : Nat) (s : Server σ) :
    (runUntil st finish now s).clock = finish := by
  fun_induction runUntil st finish now s with
  | case1 now s settled _ => rfl
  | case2 now s settled t _ _ ih => exact ih

lemma clock_elapse (st : Station) (s : Server σ) (milliseconds : Nat) :
    (s.elapse st milliseconds).clock = s.clock + min milliseconds longestPause := by
  rw [elapse]
  split
  · next h => simp [h]
  · exact clock_runUntil st _ _ s

end Clock

section Traces

variable {σ : Type} [Instrument σ] {st : Station}

/-- The effects lead to a later state one after the other, with events recorded in between. -/
inductive Performs (st : Station) : List Effect → Server σ → Server σ → Prop
  | done (s : Server σ) : Performs st [] s s
  | noted {effects : List Effect} {s t : Server σ} (level : LogLevel) (message : String)
      (h : Performs st effects (s.log level message) t) : Performs st effects s t
  | next {effects : List Effect} {s t : Server σ} (e : Effect)
      (h : Performs st effects (e.perform st s) t) : Performs st (e :: effects) s t

namespace Performs

variable {effects more : List Effect} {s t u : Server σ}

lemma trans (h : Performs st effects s t) (h' : Performs st more t u) :
    Performs st (effects ++ more) s u := by
  induction h with
  | done s => exact h'
  | noted level message _ ih => exact .noted level message (ih h')
  | next e _ ih => exact .next e (ih h')

/-- What the instrument is asked for determines its state. -/
lemma instrument (h : Performs st effects s t) :
    t.instrument = Change.applyAll s.instrument (effects.filterMap Effect.change?) := by
  induction h with
  | done s => rfl
  | noted level message _ ih => exact ih
  | @next effects s t e h ih =>
    rw [ih]
    cases e with
    | change c => rfl
    | note level message => rfl
    | blanking b => rfl
    | pause =>
      refine congrArg (Change.applyAll · _) ?_
      exact (pause_beside st s _).instrument

/-- The clock shows how long all the effects took. -/
lemma clock (h : Performs st effects s t) :
    t.clock = s.clock + (effects.map (Effect.duration st)).sum := by
  induction h with
  | done s => rfl
  | noted level message _ ih => exact ih
  | @next effects s t e h ih =>
    have hclock : (e.perform st s).clock = s.clock + e.duration st := by
      cases e with
      | change c => rfl
      | note level message => rfl
      | blanking b => rfl
      | pause => exact clock_elapse st s _
    rw [ih, hclock, List.map_cons, List.sum_cons, Nat.add_assoc]

end Performs

end Traces

/-! ### Moves -/

/-- The effects of a move: one attempt for each field, and pauses between them. -/
def moveEffects (dac : String) (fields : List Float) : List Effect :=
  (fields.map fun v => .change (.write dac v)).intersperse .pause

lemma moveEffects_cons (dac : String) (field : Float) (rest : List Float) :
    moveEffects dac (field :: rest)
      = .change (.write dac field) :: rest.flatMap fun v => [.pause, .change (.write dac v)] := by
  induction rest generalizing field with
  | nil => rfl
  | cons v rest ih => rw [List.flatMap_cons, List.cons_append, List.singleton_append, ← ih v]; rfl

lemma filterMap_change?_moveEffects (dac : String) (fields : List Float) :
    (moveEffects dac fields).filterMap Effect.change? = fields.map (.write dac) := by
  cases fields with
  | nil => rfl
  | cons field rest =>
    rw [moveEffects_cons, List.filterMap_cons, List.filterMap_flatMap, List.map_cons,
      List.map_eq_flatMap]
    rfl

/-- There is one pause less than there are attempts. -/
lemma sum_duration_moveEffects (st : Station) (dac : String) (fields : List Float) :
    ((moveEffects dac fields).map (Effect.duration st)).sum
      = (fields.length - 1) * Effect.pause.duration st := by
  cases fields with
  | nil => simp [moveEffects]
  | cons field rest =>
    have hrest : ((rest.flatMap fun v => [.pause, .change (.write dac v)]).map
        (Effect.duration st)).sum = rest.length * Effect.pause.duration st := by
      induction rest with
      | nil => simp
      | cons v rest ih =>
        rw [List.flatMap_cons, List.map_append, List.sum_append, ih, List.length_cons,
          Nat.succ_mul, Nat.add_comm]
        rfl
    rw [moveEffects_cons, List.map_cons, List.sum_cons, hrest, List.length_cons,
      Nat.add_sub_cancel]
    exact Nat.zero_add _

section Moves

variable {σ : Type} [Instrument σ] (st : Station)

lemma writeSetpoint_performs (s : Server σ) (field : Float) :
    Performs st [.change (.write st.settings.hardware.magnetDac field)] s
      (s.writeSetpoint st field).2 := by
  refine .next _ ?_
  rw [writeSetpoint, write, Effect.perform, Change.apply]
  rcases Instrument.writeParameter s.instrument st.settings.hardware.magnetDac field
    with ⟨⟨refusal⟩ | ⟨⟨⟩⟩, i⟩
  · exact .noted _ _ (.noted _ _ (.done _))
  · exact .done _

lemma continueMove_performs (fields : List Float) (r : String × Server σ) :
    Performs st
      (fields.flatMap fun v => [.pause, .change (.write st.settings.hardware.magnetDac v)])
      r.2 (continueMove st fields r).2 := by
  induction fields generalizing r with
  | nil => exact .done _
  | cons field rest ih =>
    rw [continueMove, List.flatMap_cons]
    have hpause : Performs st [.pause] r.2 (r.2.pause st) := .next _ (.done _)
    exact (hpause.trans (writeSetpoint_performs st _ field)).trans (ih _)

lemma carryOut_performs (s : Server σ) (fields : List Float) :
    Performs st (moveEffects st.settings.hardware.magnetDac fields) s (s.carryOut st fields).2 := by
  cases fields with
  | nil => exact .done s
  | cons field rest =>
    rw [moveEffects_cons]
    exact (writeSetpoint_performs st s field).trans (continueMove_performs st rest _)

/-- A move attempts its setpoints one after the other with pauses between them, refused or not. -/
theorem setMagnet_performs {s : Server σ} {current : Float}
    (hread : s.read st.settings.hardware.magnetDac = .ok current) (target : Float) :
    Performs st
      (moveEffects st.settings.hardware.magnetDac
        (st.settings.magnet.plan current target).setpoints)
      s (s.setMagnet st target).2 := by
  rw [setMagnet, hread]
  dsimp only
  split
  · exact .noted _ _ (carryOut_performs st _ _)
  · exact carryOut_performs st _ _

lemma exists_setMagnet_eq_carryOut {s : Server σ} {current : Float}
    (hread : s.read st.settings.hardware.magnetDac = .ok current) (target : Float) :
    ∃ t : Server σ, t.instrument = s.instrument
      ∧ s.setMagnet st target
        = t.carryOut st (st.settings.magnet.plan current target).setpoints := by
  rw [setMagnet, hread]
  refine ⟨_, ?_, rfl⟩
  split <;> rfl

lemma continueMove_concat (fields : List Float) (last : Float) (r : String × Server σ) :
    continueMove st (fields ++ [last]) r
      = ((continueMove st fields r).2.pause st).writeSetpoint st last := by
  induction fields generalizing r with
  | nil => rfl
  | cons field rest ih => rw [List.cons_append, continueMove, ih, continueMove]

/-- The reply to a move is that to its last attempt. Before that the others were made. -/
lemma exists_carryOut_concat (s : Server σ) (fields : List Float) (last : Float) :
    ∃ u : Server σ, u.instrument
        = Change.applyAll s.instrument (fields.map (.write st.settings.hardware.magnetDac))
      ∧ s.carryOut st (fields ++ [last]) = u.writeSetpoint st last := by
  cases fields with
  | nil => exact ⟨s, rfl, rfl⟩
  | cons field rest =>
    have hmove := carryOut_performs st s (field :: rest)
    refine ⟨(s.carryOut st (field :: rest)).2.pause st, ?_, continueMove_concat st rest last _⟩
    rw [← filterMap_change?_moveEffects, ← hmove.instrument]
    exact (pause_beside st _ _).instrument

end Moves

end Server

/-! ### What comes of a move -/

namespace MagnetMove

variable {α : Type} [MoveArithmetic α]

open MoveArithmetic

/-- There is one setpoint for each step of a move. -/
lemma length_setpoints_plan (start target threshold : α) (steps : Nat) :
    (plan start target threshold steps).setpoints.length
      = if less threshold (magnitude (target - start)) then max steps 1 else 1 := by
  have hpos := (stepCount_plan start target threshold steps).1
  change _ = (plan start target threshold steps).stepCount
  rw [setpoints, isDivided]
  split
  · rw [List.length_map, List.length_range]
  · next hdivided =>
    rw [decide_eq_true_eq] at hdivided
    exact Nat.le_antisymm hpos (Nat.not_lt.mp hdivided)

/-- A move with one setpoint goes to the target at once. -/
lemma setpoints_eq_singleton {m : MagnetMove α} (h : m.setpoints.length = 1) :
    m.setpoints = [m.target] := by
  rw [setpoints] at h ⊢
  split
  · next hdivided =>
    rw [if_pos hdivided, List.length_map, List.length_range] at h
    rw [isDivided, h] at hdivided
    contradiction
  · rfl

end MagnetMove

namespace SimulatedInstrument

/-- Those of some values that are accepted if one after the other is written to a parameter. -/
def accepted (i : SimulatedInstrument) (name : String) (values : List Float) : List Float :=
  ((values.zipIdx (i.writes.size + 1)).filter fun w => i.refuses w.2 name = false).map (·.1)

end SimulatedInstrument

/-- The values that attempts on a parameter give it are those that are accepted. -/
lemma Deed.filterMap_value?_attempts (i : SimulatedInstrument) (verb : Verb) (name : String)
    (n : Nat) (values : List Float) :
    (Deed.attempts verb n (values.map (name, ·))).filterMap (Deed.value? i name)
      = ((values.zipIdx (n + 1)).filter fun w => i.refuses w.2 name = false).map (·.1) := by
  induction values generalizing n with
  | nil => rfl
  | cons v rest ih =>
    rw [List.map_cons, Deed.attempts, List.zipIdx_cons]
    cases h : i.refuses (n + 1) name with
    | true =>
      have hgiven : Deed.value? i name (.attempt verb (n + 1) name v) = none := by
        simp [Deed.value?, h]
      rw [List.filterMap_cons_none hgiven, List.filter_cons_of_neg (by simp [h]), ih]
    | false =>
      have hgiven : Deed.value? i name (.attempt verb (n + 1) name v) = some v := by
        simp [Deed.value?, h]
      rw [List.filterMap_cons_some hgiven, List.filter_cons_of_pos (by simp [h]), List.map_cons, ih]

/-- Writing one value after the other to a parameter. -/
lemma Change.applyAll_writes_explains (i : SimulatedInstrument) (verb : Verb) (name : String)
    (values : List Float) :
    Explains i (Deed.attempts verb i.writes.size (values.map (name, ·)))
      (applyAll i (values.map (.write name))) := by
  have hplain : ∀ c ∈ values.map (Change.write name), c.IsPlain := by
    intro c hc
    obtain ⟨v, -, rfl⟩ := List.mem_map.mp hc
    trivial
  have h := applyAll_explains verb hplain i
  rw [List.flatMap_map] at h
  rwa [List.map_eq_flatMap]

namespace Server

lemma value?_of_read {s : Server SimulatedInstrument} {name : String} {v : Float}
    (h : s.read name = .ok v) : s.instrument.value? name = some v := by
  rw [read_eq] at h
  cases hvalue : s.instrument.value? name with
  | none => simp [hvalue] at h
  | some w => simpa [hvalue] using h

lemma writeSetpoint_reply (st : Station) (s : Server SimulatedInstrument) (field : Float) :
    (s.writeSetpoint st field).1 =
      if s.instrument.refuses (s.instrument.writes.size + 1) st.settings.hardware.magnetDac then
        (Failure.writeRefused st.settings.hardware.magnetDac field).reply
      else doneReply := by
  rw [writeSetpoint, write_eq]
  cases s.instrument.refuses (s.instrument.writes.size + 1) st.settings.hardware.magnetDac <;> rfl

/-- The reply tells whether the last attempt was accepted. -/
lemma carryOut_reply (st : Station) (s : Server SimulatedInstrument) {fields : List Float}
    {last : Float} (hlast : fields.getLast? = some last) :
    (s.carryOut st fields).1 =
      if s.instrument.refuses (s.instrument.writes.size + fields.length)
          st.settings.hardware.magnetDac then
        (Failure.writeRefused st.settings.hardware.magnetDac last).reply
      else doneReply := by
  obtain ⟨before, rfl⟩ := List.getLast?_eq_some_iff.mp hlast
  obtain ⟨u, hu, hmove⟩ := exists_carryOut_concat st s before last
  have hexplains := Change.applyAll_writes_explains s.instrument .setMagnetDAC
    st.settings.hardware.magnetDac before
  rw [← hu] at hexplains
  have hsize : u.instrument.writes.size = s.instrument.writes.size + before.length := by
    rw [← Array.length_toList, hexplains.writes, Deed.filterMap_write?_attempts,
      List.length_append, List.length_map, Array.length_toList]
  rw [hmove, writeSetpoint_reply, hexplains.refuses, hsize, List.length_append,
    List.length_singleton, Nat.add_assoc]

/-- A move of the magnet makes one attempt for each of its setpoints, in order, all on the same
parameter, and pauses only between two attempts, whichever of them are refused. In the end the
parameter has the last value that was accepted, and the reply tells whether the last attempt was. If
the parameter cannot be read, nothing is attempted. -/
theorem setMagnet_attempts (st : Station) (s : Server SimulatedInstrument) (target : Float) :
    let dac := st.settings.hardware.magnetDac
    let reply := (s.setMagnet st target).1
    let after := (s.setMagnet st target).2
    (∀ e, s.read dac = .error e → reply = Failure.rejectionReply ∧ after = s)
      ∧ ∀ current, s.read dac = .ok current →
        let fields := (st.settings.magnet.plan current target).setpoints
        fields.length = (if st.settings.magnet.moveThreshold < (target - current).abs then
            max st.settings.magnet.steps.toNat 1 else 1)
          ∧ (fields.length = 1 → fields = [target])
          ∧ Performs st (moveEffects dac fields) s after
          ∧ after.instrument.writes.toList = s.instrument.writes.toList ++ fields.map (dac, ·)
          ∧ after.clock = s.clock
            + (fields.length - 1) * min st.settings.magnet.stepTime.toNat longestPause
          ∧ after.instrument.value? dac
            = some ((s.instrument.accepted dac fields).getLast?.getD current)
          ∧ ∃ last, fields.getLast? = some last
            ∧ reply =
              if s.instrument.refuses (s.instrument.writes.size + fields.length) dac then
                "Error: could not set " ++ dac ++ " to " ++ valueText last
              else doneReply := by
  intro dac reply after
  constructor
  · intro e hread
    have hmove : s.setMagnet st target = (e.reply, s) := by rw [setMagnet, hread]
    exact ⟨by rw [← reply_of_read_error hread]; exact congrArg Prod.fst hmove,
      congrArg Prod.snd hmove⟩
  · intro current hread fields
    have hlength : fields.length = _ := MagnetMove.length_setpoints_plan current target
      st.settings.magnet.moveThreshold st.settings.magnet.steps.toNat
    have hperforms : Performs st (moveEffects dac fields) s after :=
      setMagnet_performs st hread target
    have hexplains : Explains s.instrument
        (Deed.attempts .setMagnetDAC s.instrument.writes.size (fields.map (dac, ·)))
        after.instrument := by
      rw [hperforms.instrument, filterMap_change?_moveEffects]
      exact Change.applyAll_writes_explains s.instrument .setMagnetDAC dac fields
    have hvalue : s.instrument.value? dac = some current := value?_of_read hread
    refine ⟨?_, MagnetMove.setpoints_eq_singleton, hperforms, ?_, ?_, ?_, ?_⟩
    · exact hlength.trans (if_congr decide_eq_true_iff rfl rfl)
    · rw [hexplains.writes, Deed.filterMap_write?_attempts]
    · rw [hperforms.clock, sum_duration_moveEffects]
      rfl
    · rw [hexplains.value, lastGiven, Deed.filterMap_value?_attempts, hvalue, Option.or_some]
      rfl
    · have hfields : fields ≠ [] := by
        intro hnil
        rw [hnil, List.length_nil] at hlength
        split at hlength <;> omega
      obtain ⟨t, ht, hmove⟩ := exists_setMagnet_eq_carryOut st hread target
      refine ⟨fields.getLast hfields, List.getLast?_eq_getLast_of_ne_nil hfields, ?_⟩
      rw [← ht]
      exact (congrArg Prod.fst hmove).trans
        (carryOut_reply st t (List.getLast?_eq_getLast_of_ne_nil hfields))

/-- The last two of three attempts are refused, and without a field nothing is attempted. -/
theorem setMagnet_attempts_refused :
    let st : Station := { settings := { magnet := { steps := 3, stepTime := 5 } } }
    let s : Server SimulatedInstrument :=
      { instrument := { SimulatedInstrument.multicollector with refusedWrites := [2, 3] } }
    let blind : Server SimulatedInstrument :=
      { instrument := { SimulatedInstrument.multicollector with parameters := .ofList [] } }
    let after := (s.setMagnet st 6).2
    s.read "Field Set" = .ok 4.5
      ∧ after.instrument.writes.toList = [("Field Set", 5), ("Field Set", 5.5), ("Field Set", 6)]
      ∧ after.clock = 10
      ∧ after.instrument.value? "Field Set" = some 5
      ∧ (s.setMagnet st 6).1 = "Error: could not set Field Set to 6"
      ∧ blind.read "Field Set" = .error (.unreadable "Field Set")
      ∧ blind.setMagnet st 6 = ("Error: Invalid Command", blind) := by
  intro st s blind after
  have hread : s.read "Field Set" = .ok 4.5 := by decide +kernel
  have hblind : blind.read "Field Set" = .error (.unreadable "Field Set") := by decide +kernel
  obtain ⟨-, -, -, hwrites, hclock, hvalue, last, hlast, hreply⟩ :=
    (setMagnet_attempts st s 6).2 4.5 hread
  obtain ⟨hrejected, hkept⟩ := (setMagnet_attempts st blind 6).1 _ hblind
  have hsix : last = 6 := Option.some.inj (hlast.symm.trans (by decide +kernel))
  refine ⟨hread, hwrites.trans (by decide +kernel), hclock.trans (by decide +kernel),
    hvalue.trans (by decide +kernel), hreply.trans ?_, hblind, Prod.ext hrejected hkept⟩
  rw [hsix]
  decide +kernel

/-- A pause ends after thirty years, however long it was meant to be. -/
theorem setMagnet_pauses_end :
    let st : Station := { settings := { magnet := { steps := 3, stepTime := 1000000000000 } } }
    let s : Server SimulatedInstrument := { instrument := SimulatedInstrument.multicollector }
    (s.setMagnet st 9).2.instrument.writes.size = 3
      ∧ (s.setMagnet st 9).2.clock ≠ s.clock + (3 - 1) * 1000000000000 := by
  decide +kernel

end Server

end SpectroRemote
