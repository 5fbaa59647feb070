import Mathlib.Tactic.ByContra
import SpectroRemote.Proofs.Blanking
import SpectroRemote.Proofs.Simulated

/-!
# The footprint of requests

What a request line can change in a server that drives the simulated instrument, in any state and
with any settings. `Footprint` lists it part by part; `serveLine_footprint` shows that no request
line goes beyond it.
-/

namespace SpectroRemote.Server

/-! ### Attempts to write -/

/-- The attempts that were made on the way to a later state were permitted, and a parameter changed
only if it was attempted or belongs to a permitted tune. -/
structure Attempted (P : Effect → Prop) (s s' : Server SimulatedInstrument)
    (attempts : List (String × Float)) : Prop where
  writes : s'.instrument.writes.toList = s.instrument.writes.toList ++ attempts
  permitted : ∀ w ∈ attempts, P (.change (.write w.1 w.2))
  values : ∀ p, s'.instrument.value? p ≠ s.instrument.value? p →
    p ∈ attempts.map (·.1) ∨ ∃ t, P (.change (.applyTune t)) ∧ p ∈ t.parameters.keys

namespace Attempted

variable {P : Effect → Prop} {s s' t : Server SimulatedInstrument}
  {attempts more : List (String × Float)}

lemma of_instrument_eq (h : s'.instrument = s.instrument) : Attempted P s s' [] :=
  ⟨by rw [h, List.append_nil], by simp, fun p hp => absurd (by rw [h]) hp⟩

lemma trans (h : Attempted P s s' attempts) (h' : Attempted P s' t more) :
    Attempted P s t (attempts ++ more) where
  writes := by rw [h'.writes, h.writes, List.append_assoc]
  permitted w hw := (List.mem_append.mp hw).elim (h.permitted w) (h'.permitted w)
  values p hp := by
    rw [List.map_append, List.mem_append]
    by_cases hsame : t.instrument.value? p = s'.instrument.value? p
    · rw [hsame] at hp
      exact (h.values p hp).imp_left .inl
    · exact (h'.values p hsame).imp_left .inr

lemma change (c : Change) (hc : P (.change c)) :
    Attempted P s { s with instrument := (c.apply s.instrument).2 } c.attempts := by
  have hs := c.spares s.instrument
  refine ⟨hs.writes, fun w hw => ?_, fun p hp => ?_⟩
  · cases c with
    | write name v => rw [List.mem_singleton.mp hw]; exact hc
    | _ => cases hw
  · have hmem : p ∈ c.parameters := by
      by_contra hp'
      exact hp (hs.values p hp')
    cases c with
    | write name v => exact .inl hmem
    | applyTune t => exact .inr ⟨t, hc, hmem⟩
    | _ => cases hmem

end Attempted

lemma Reaches.attempted {st : Station} {P : Effect → Prop} {s s' : Server SimulatedInstrument}
    (h : Reaches st P s s') : ∃ attempts, Attempted P s s' attempts := by
  induction h with
  | refl => exact ⟨[], .of_instrument_eq rfl⟩
  | @tail t _ _ hstep ih =>
    obtain ⟨attempts, ih⟩ := ih
    obtain ⟨e, he, rfl⟩ := hstep
    cases e with
    | change c => exact ⟨_, ih.trans (.change c he)⟩
    | note level message => exact ⟨_, ih.trans (.of_instrument_eq rfl)⟩
    | blanking b => exact ⟨_, ih.trans (.of_instrument_eq rfl)⟩
    | pause => exact ⟨_, ih.trans (.of_instrument_eq (pause_beside st t _).instrument)⟩

/-! ### Parts of the state -/

section Parts

variable {σ : Type} [Instrument σ] {st : Station} {P : Effect → Prop} {s s' : Server σ}

lemma Reaches.instrument_eq {α : Type} (f : σ → α) (h : Reaches st P s s')
    (hf : ∀ c i, P (.change c) → f (c.apply i).2 = f i) : f s'.instrument = f s.instrument :=
  h.preserves (fun s => f s.instrument) fun t e he => by
    cases e with
    | change c => exact hf c t.instrument he
    | note level message => rfl
    | blanking b => rfl
    | pause => exact congrArg f (pause_beside st t _).instrument

lemma Reaches.blank_eq (h : Reaches st P s s') (hP : ∀ b, ¬ P (.blanking b)) :
    s'.blank = s.blank :=
  h.preserves (·.blank) fun t e he => by
    cases e with
    | change c => rfl
    | note level message => rfl
    | blanking b => exact absurd he (hP b)
    | pause => exact (pause_beside st t _).blank

/-- The part of the state that concerns scans and time. -/
def scanPart (s : Server σ) :
    String × List Subscription × List Activity × List Activity × List Acquisition × Nat :=
  (s.snapshot, s.subscriptions, s.ready, s.postponed, s.sleeping, s.clock)

lemma Reaches.scanPart_eq (h : Reaches st P s s')
    (hP : P .pause → st.settings.magnet.stepTime.toNat = 0) : s'.scanPart = s.scanPart :=
  h.preserves scanPart fun t e he => by
    cases e with
    | change c => rfl
    | note level message => rfl
    | blanking b => rfl
    | pause => simp [Effect.perform, pause, elapse, hP he]

lemma Reaches.journal_prefix (h : Reaches st P s s') : s.journal.toList <+: s'.journal.toList := by
  induction h with
  | refl => exact List.prefix_rfl
  | @tail t _ _ hstep ih =>
    obtain ⟨e, -, rfl⟩ := hstep
    refine ih.trans ?_
    cases e with
    | change c => exact List.prefix_rfl
    | note level message => exact (Beside.log t level message).journal
    | blanking b => exact List.prefix_rfl
    | pause => exact (pause_beside st t _).journal

lemma Reaches.eq_of_isNote (h : Reaches st Effect.IsNote s s') :
    s' = { s with journal := s'.journal } := by
  have hs : { s' with journal := #[] } = { s with journal := #[] } :=
    h.preserves (fun t => { t with journal := #[] }) fun t e he => by
      cases e with
      | note level message => rfl
      | _ => exact he.elim
  cases s
  cases s'
  simp_all

end Parts

/-! ### The footprint -/

/-- What serving a request can change in the state `s`, where `s'` is the state afterwards and
`attempts` are the attempts to write that the request makes. -/
structure Footprint (st : Station) (r : Request) (s s' : Server SimulatedInstrument)
    (attempts : List (String × Float)) : Prop where
  /-- A query changes nothing, although it may be recorded that it failed. -/
  query : r.verb.IsQuery → s' = { s with journal := s'.journal }
  /-- A request without the argument that its verb needs changes nothing. -/
  malformed : ¬ r.IsWellFormed → s' = s
  /-- All attempts are kept, in order. -/
  writes : s'.instrument.writes.toList = s.instrument.writes.toList ++ attempts
  /-- A verb for a single write makes exactly one attempt, on the parameter that it addresses. -/
  singleWrite : r.verb ∈ Verb.singleWrites → r.IsWellFormed →
    ∃ w, r.write? st.settings.hardware = some (.ok w) ∧ attempts = [w]
  /-- Blanking makes one attempt at most, on the y symmetry. -/
  blankWrite : r.verb = .blankBeam →
    attempts.length ≤ 1 ∧ ∀ w ∈ attempts, w.1 = st.settings.hardware.ySymmetry
  /-- A move of the magnet makes attempts on the magnet only. -/
  magnetWrites : r.verb = .setMagnetDAC → ∀ w ∈ attempts, w.1 = st.settings.hardware.magnetDac
  /-- No other verb makes an attempt. -/
  noWrite : r.verb ∉ Verb.singleWrites → r.verb ≠ .blankBeam → r.verb ≠ .setMagnetDAC →
    attempts = []
  /-- A parameter changes only if it was attempted or is listed in the tune that is applied. -/
  values : ∀ p, s'.instrument.value? p ≠ s.instrument.value? p →
    p ∈ attempts.map (·.1) ∨
      r.verb = .setTuningSettings ∧ ∃ t, st.tunes.get? r.argument = some t ∧ p ∈ t.parameters.keys
  /-- Only `BlankBeam` changes the state of blanking. -/
  blank : r.verb ≠ .blankBeam → s'.blank = s.blank
  /-- Only `SetSubCupConfiguration` changes which configurations are active, and transfers hardware
  parameters and asks for switches. -/
  choice : r.verb ≠ .setSubCupConfiguration →
    (s'.instrument.active, s'.instrument.pushes, s'.instrument.cupChangeRequests)
      = (s.instrument.active, s.instrument.pushes, s.instrument.cupChangeRequests)
  /-- Only switching the ion counters changes the cup configurations. -/
  switches : r.verb ≠ .activateIonCounter → r.verb ≠ .deactivateIonCounter →
    s'.instrument.cups = s.instrument.cups
  /-- Nothing of the cup configurations changes but the switches of collectors. -/
  cups : s'.instrument.cups.map Cup.unswitched = s.instrument.cups.map Cup.unswitched
  /-- Only `SetIntegrationTime` starts a measurement. -/
  measurement : r.verb ≠ .setIntegrationTime →
    (s'.instrument.measurement, s'.instrument.monitoringRequests)
      = (s.instrument.measurement, s.instrument.monitoringRequests)
  /-- Only `SetTuningSettings` applies a tune. -/
  tunes : r.verb ≠ .setTuningSettings → s'.instrument.appliedTunes = s.instrument.appliedTunes
  /-- What the instrument refuses, and how often it was prepared, never changes. -/
  script : (s'.instrument.refusedNames, s'.instrument.refusedWrites,
      s'.instrument.refusesCupChanges, s'.instrument.scanPreparations)
    = (s.instrument.refusedNames, s.instrument.refusedWrites,
      s.instrument.refusesCupChanges, s.instrument.scanPreparations)
  /-- Scans go on in the pauses of a magnet move only. -/
  scan : r.verb ≠ .setMagnetDAC ∨ st.settings.magnet.stepTime.toNat = 0 →
    s'.scanPart = s.scanPart
  /-- No event is forgotten. -/
  journal : s.journal.toList <+: s'.journal.toList

lemma writeAndReply_instrument {σ : Type} [Instrument σ] (s : Server σ) (name : String)
    (v : Float) :
    (s.writeAndReply name v).2.instrument
      = (Instrument.writeParameter s.instrument name v).2 := by
  rw [writeAndReply, write]
  cases h : Instrument.writeParameter s.instrument name v with
  | mk answer i => cases answer <;> rfl

/-- Writing changes the instrument. A refusal is recorded. -/
lemma write_eq (s : Server SimulatedInstrument) (name : String) (v : Float) :
    s.write name v =
      let s' := { s with instrument := (s.instrument.writeParameter name v).2 }
      if s.instrument.refuses (s.instrument.writes.size + 1) name then
        (.error (.writeRefused name v), s'.log .warn "Parameter write rejected")
      else (.ok (), s') := by
  have hwrite : Instrument.writeParameter s.instrument name v
    = s.instrument.writeParameter name v := rfl
  rw [write, hwrite, SimulatedInstrument.writeParameter]
  cases s.instrument.refuses (s.instrument.writes.size + 1) name <;> rfl

lemma writes_writeAndReply (s : Server SimulatedInstrument) (name : String) (v : Float) :
    (s.writeAndReply name v).2.instrument.writes = s.instrument.writes.push (name, v) := by
  rw [writeAndReply_instrument]
  exact congrArg (·.writes) (s.instrument.writeParameter_state name v)

/-- An accepted write gives its parameter the value, and a refused one leaves it the value it
has. -/
lemma value?_writeAndReply (s : Server SimulatedInstrument) (name : String) (v : Float) :
    (s.writeAndReply name v).2.instrument.value? name
      = if (s.writeAndReply name v).1 = doneReply then some v else s.instrument.value? name := by
  have hstate := s.instrument.writeParameter_state name v
  rw [writeAndReply, write_eq]
  cases hrefuses : s.instrument.refuses (s.instrument.writes.size + 1) name with
  | true =>
    rw [if_pos rfl, if_neg (Failure.reply_ne_done _)]
    rw [hrefuses, if_pos rfl] at hstate
    exact congrArg (·.value? name) hstate
  | false =>
    rw [if_neg Bool.false_ne_true, if_pos rfl]
    rw [hrefuses, if_neg Bool.false_ne_true] at hstate
    refine (congrArg (·.value? name) hstate).trans ?_
    simp [SimulatedInstrument.value?]

/-- A well-formed request for a single write makes the attempt that it names. -/
lemma serveRequest_singleWrite {st : Station} {r : Request} {w : String × Float}
    (h : r.write? st.settings.hardware = some (.ok w)) (s : Server SimulatedInstrument) :
    (s.serveRequest st r).2.instrument.writes.toList = s.instrument.writes.toList ++ [w] := by
  rw [serveRequest_of_write? h]
  change (s.writeAndReply w.1 w.2).2.instrument.writes.toList = _
  rw [writeAndReply_instrument]
  exact (Change.spares (.write w.1 w.2) s.instrument).writes

/-- Blanking makes one attempt at most. -/
lemma serveRequest_blankWrite (st : Station) (s : Server SimulatedInstrument) (a : String) :
    ∃ attempts : List (String × Float), attempts.length ≤ 1 ∧
      (s.serveRequest st ⟨.blankBeam, a⟩).2.instrument.writes.toList
        = s.instrument.writes.toList ++ attempts := by
  rcases serveRequest_blankBeam st s a with ⟨h, -⟩ | h
  · exact ⟨[], Nat.zero_le 1, by rw [h, List.append_nil]⟩
  · rcases h.instrument_eq with h | ⟨answer, v, h⟩
    · exact ⟨[], Nat.zero_le 1, by rw [h, List.append_nil]⟩
    · have hs := (Change.spares (.write st.settings.hardware.ySymmetry v) s.instrument).writes
      rw [Change.apply, h] at hs
      exact ⟨[(st.settings.hardware.ySymmetry, v)], Nat.le_refl 1, hs⟩

/-- Every request stays within its footprint. -/
theorem serveRequest_footprint (st : Station) (s : Server SimulatedInstrument) (r : Request) :
    ∃ attempts, Footprint st r s (s.serveRequest st r).2 attempts := by
  have h := serveRequest_reaches st s r
  obtain ⟨attempts, ha⟩ := h.attempted
  have same {l : List (String × Float)}
      (hl : (s.serveRequest st r).2.instrument.writes.toList
        = s.instrument.writes.toList ++ l) : attempts = l :=
    List.append_cancel_left (ha.writes.symm.trans hl)
  refine ⟨attempts, ?_⟩
  exact {
    query := fun hq => (serveRequest_of_isQuery hq st s).eq_of_isNote
    malformed := fun hm => serveRequest_of_not_isWellFormed hm st s
    writes := ha.writes
    singleWrite := fun hv hw => by
      obtain ⟨w, hw⟩ := hw.write? hv st.settings.hardware
      exact ⟨w, hw, same (serveRequest_singleWrite hw s)⟩
    blankWrite := fun hv => by
      obtain ⟨verb, a⟩ := r
      subst hv
      obtain ⟨l, hl, hwrites⟩ := serveRequest_blankWrite st s a
      refine ⟨same hwrites ▸ hl, fun w hw => ?_⟩
      rcases ha.permitted w hw with hp | ⟨-, hp⟩ | ⟨hp, -⟩
      · cases hp
      · exact hp
      · cases hp
    magnetWrites := fun hv w hw => by
      obtain ⟨verb, a⟩ := r
      subst hv
      rcases ha.permitted w hw with hp | ⟨hp, -⟩ | ⟨-, hp⟩
      · cases hp
      · cases hp
      · exact hp
    noWrite := fun hv hblank hmagnet => by
      refine List.eq_nil_iff_forall_not_mem.mpr fun w hw => ?_
      rcases ha.permitted w hw with hp | ⟨hp, -⟩ | ⟨hp, -⟩
      · rw [(Request.write?_eq_none_iff _ r).mpr hv] at hp
        cases hp
      · exact hblank hp
      · exact hmagnet hp
    values := fun p hp => (ha.values p hp).imp_right fun ⟨t, ⟨hv, ht⟩, hmem⟩ => ⟨hv, t, ht, hmem⟩
    blank := fun hv => h.blank_eq fun b => hv
    choice := fun hv =>
      h.instrument_eq (fun i => (i.active, i.pushes, i.cupChangeRequests)) fun c i hc =>
        (c.spares i).choice fun hk => by cases c <;> first | exact hv hc | cases hk
    switches := fun hon hoff =>
      h.instrument_eq (·.cups) fun c i hc => (c.spares i).switches fun hk => by
        cases c with
        | switchCollector cup collector active =>
          cases active
          · exact hoff hc
          · exact hon hc
        | _ => cases hk
    cups := h.instrument_eq (·.cups.map Cup.unswitched) fun c i _ => (c.spares i).cups
    measurement := fun hv =>
      h.instrument_eq (fun i => (i.measurement, i.monitoringRequests)) fun c i hc =>
        (c.spares i).measurement fun hk => by cases c <;> first | exact hv hc | cases hk
    tunes := fun hv =>
      h.instrument_eq (·.appliedTunes) fun c i hc =>
        (c.spares i).tunes fun hk => by cases c <;> first | exact hv hc.1 | cases hk
    script :=
      h.instrument_eq
        (fun i => (i.refusedNames, i.refusedWrites, i.refusesCupChanges, i.scanPreparations))
        fun c i _ => (c.spares i).script
    scan := fun hv => h.scanPart_eq fun hp => hv.resolve_left fun hne => hne hp
    journal := h.journal_prefix }

/-- A line that is no request changes nothing, and every other line stays within the footprint of
its request. -/
theorem serveLine_footprint (st : Station) (s : Server SimulatedInstrument) (line : String) :
    (∀ e, Request.parse line = .error e → (s.serveLine st line).2 = s) ∧
      ∀ r, Request.parse line = .ok r →
        ∃ attempts, Footprint st r s (s.serveLine st line).2 attempts := by
  constructor
  · intro e he
    rw [serveLine_of_parse_error he]
  · intro r hr
    rw [serveLine_of_parse hr]
    exact serveRequest_footprint st s r

end SpectroRemote.Server
