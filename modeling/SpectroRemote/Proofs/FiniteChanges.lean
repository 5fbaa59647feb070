import SpectroRemote.Proofs.Deeds
import SpectroRemote.Proofs.Setpoints
import SpectroRemote.Settings.Validation

/-!
# Finite numbers for the instrument

A number that is read from a request is finite, yet what is made of it need not be: seconds are
turned into milliseconds, and the distance of two fields is divided into steps. Nor need the blank
value be finite, which the rules for settings do not look at. Where these cases are excluded, an
instrument with finite parameters is asked for finite values only (`asked_isFinite`).
-/

namespace SpectroRemote

open Double

/-! ### What an instrument is asked for -/

/-- An instrument and all changes that it was asked for, in order. The instrument does not notice
that they are kept. -/
structure Ledger (σ : Type) where
  instrument : σ
  asked : List Change := []

namespace Ledger

variable {σ : Type} [Instrument σ]

/-- Passes a change on to the instrument. -/
def pass (l : Ledger σ) (c : Change) : Except Refusal Unit × Ledger σ :=
  let result := c.apply l.instrument
  (result.1, ⟨result.2, l.asked ++ [c]⟩)

instance : Instrument (Ledger σ) where
  readParameter l := Instrument.readParameter l.instrument
  writeParameter l name v := l.pass (.write name v)
  cups l := Instrument.cups l.instrument
  activePair l := Instrument.activePair l.instrument
  setActive l cup subCup := l.pass (.setActive cup subCup)
  pushHardwareParameters l cup subCup := l.pass (.pushHardwareParameters cup subCup)
  requestCupChange l := l.pass .requestCupChange
  switchCollector l cup collector active := l.pass (.switchCollector cup collector active)
  prepareScan l :=
    let result := Instrument.prepareScan l.instrument
    (result.1, { l with instrument := result.2 })
  measurement l := Instrument.measurement l.instrument
  beginMonitoring l m := l.pass (.beginMonitoring m)
  applyTune l t := l.pass (.applyTune t)
  acquire l := Instrument.acquire l.instrument

lemma apply_eq_pass (l : Ledger σ) (c : Change) : c.apply l = l.pass c := by
  cases c <;> rfl

end Ledger

/-! ### Finite values -/

/-- All values in the table are finite. -/
def Table.IsFinite (t : Table Float) : Prop := ∀ k v, t.get? k = some v → v.isFinite = true

lemma Table.isFinite_of_values {t : Table Float} (h : ∀ v ∈ t.values, v.isFinite = true) :
    t.IsFinite := fun _ _ hk =>
  h _ (List.mem_map.mpr ⟨_, Keyed.mem_of_find? hk, rfl⟩)

lemma Table.IsFinite.insertAll {t u : Table Float} (ht : t.IsFinite) (hu : u.IsFinite) :
    (t.insertAll u.entries).IsFinite := by
  intro k v h
  rw [Table.get?_insertAll u.sorted] at h
  rcases Option.or_eq_some_iff.mp h with hnew | ⟨-, hold⟩
  · exact hu k v hnew
  · exact ht k v hold

/-- All values that the change hands to an instrument are finite. -/
def Change.IsFinite : Change → Prop
  | write _ v => v.isFinite = true
  | beginMonitoring m => m.integrationTime.isFinite = true
  | applyTune t => t.parameters.IsFinite
  | _ => True

/-- The effect hands only finite values to an instrument, and keeps only finite ones to restore. -/
def Effect.IsFinite : Effect → Prop
  | change c => c.IsFinite
  | blanking b => b.restore.isFinite = true
  | _ => True

/-- The values that the server takes from elsewhere than from requests are finite. -/
structure Station.IsFinite (st : Station) : Prop where
  blankValue : st.settings.beamBlank.enabled = true →
    st.settings.beamBlank.blankValue.isFinite = true
  tunes : ∀ name t, st.tunes.get? name = some t → t.parameters.IsFinite

/-- The parameters of such instruments are finite, and remain so under finite changes. -/
structure KeepsFinite {σ : Type} [Instrument σ] (P : σ → Prop) : Prop where
  read : ∀ {i name v}, P i → Instrument.readParameter i name = .ok v → v.isFinite = true
  change : ∀ {i} {c : Change}, P i → c.IsFinite → P (c.apply i).2

/-! ### The simulated instrument -/

namespace SimulatedInstrument

lemma keepsFinite : KeepsFinite fun i : SimulatedInstrument => i.parameters.IsFinite where
  read {i name v} hi h := by
    change i.readParameter name = .ok v at h
    rw [readParameter] at h
    split at h
    · next hvalue => exact hi name v (hvalue.trans (congrArg some (Except.ok.inj h)))
    · cases h
  change {i c} hi hc := by
    cases c with
    | write name w =>
      intro p v h
      change (i.writeParameter name w).2.value? p = some v at h
      by_cases hp : p = name
      · subst hp
        rw [writeParameter_state, value?] at h
        dsimp only at h
        split at h
        · exact hi p v h
        · rw [Table.get?_insert, if_pos rfl] at h
          rwa [← Option.some.inj h]
      · rw [value?_writeParameter_of_ne i w hp] at h
        exact hi p v h
    | applyTune t => exact hi.insertAll hc
    | _ =>
      intro p v h
      rw [← value?, (Change.spares _ i).values p List.not_mem_nil] at h
      exact hi p v h

end SimulatedInstrument

/-! ### Numbers in requests -/

namespace Request

variable {r : Request}

lemma isFinite_of_readFinite {text : List Char} {v : Float} (h : readFinite text = .ok v) :
    v.isFinite = true := by
  rw [readFinite] at h
  split at h
  · split at h
    · next hfinite => rwa [← Except.ok.inj h]
    · cases h
  · cases h

lemma isFinite_of_number {v : Float} (h : r.number = .ok v) : v.isFinite = true := by
  rw [number] at h
  cases hgiven : r.givenArgument with
  | error e => rw [hgiven] at h; cases h
  | ok a =>
    rw [hgiven] at h
    exact isFinite_of_readFinite h

lemma isFinite_of_nameAndValue {p : String × Float} (h : r.nameAndValue = .ok p) :
    p.2.isFinite = true := by
  rw [nameAndValue] at h
  cases hgiven : r.givenArgument with
  | error e =>
    rw [hgiven] at h
    cases h
  | ok a =>
    rw [hgiven] at h
    simp only [bind, Except.bind] at h
    cases hrest : (Text.cut ',' a.toList).2 with
    | none =>
      rw [hrest] at h
      cases h
    | some rest =>
      rw [hrest] at h
      simp only at h
      split at h
      · cases h
      · cases hread : readFinite (Text.cut ',' rest).1 with
        | error e =>
          rw [hread] at h
          cases h
        | ok v =>
          rw [hread] at h
          obtain rfl := Except.ok.inj h
          exact isFinite_of_readFinite hread

/-- The value of a single write is finite. -/
lemma isFinite_of_write? {names : HardwareSettings} {name : String} {v : Float}
    (h : r.write? names = some (.ok (name, v))) : v.isFinite = true := by
  have mapped {α : Type} {value : Except Failure α} {f : α → String × Float}
      (hmap : some (value.map f) = some (.ok (name, v)))
      (hf : ∀ a, value = .ok a → (f a).2.isFinite = true) : v.isFinite = true := by
    cases value with
    | error e => cases hmap
    | ok a =>
      have hfinite := hf a rfl
      rwa [Except.ok.inj (Option.some.inj hmap)] at hfinite
  obtain ⟨verb, argument⟩ := r
  cases verb <;> simp only [write?, reduceCtorEq] at h
  case «open» | close =>
    cases h
    decide
  case setHighVoltage | setHV =>
    exact mapped h fun a ha => isFinite_div_thousand (isFinite_of_number ha)
  case setDeflection => exact mapped h fun p hp => isFinite_of_nameAndValue (p := p) hp
  case setParameter =>
    exact isFinite_of_nameAndValue (p := (name, v)) (Option.some.inj h)
  all_goals exact mapped h fun a ha => isFinite_of_number ha

section Moderate

variable {σ : Type} [Instrument σ] (st : Station) (s : Server σ)

/-- The numbers that serving the request scales or divides into steps are not too great: seconds,
or a field and the one before it. -/
def IsModerate (r : Request) : Prop :=
  (r.verb = .setIntegrationTime → ∀ seconds ∈ r.number.toOption, Double.IsModerate seconds)
    ∧ (r.verb = .setMagnetDAC → ∀ target ∈ r.number.toOption,
        ∀ current ∈ (s.read st.settings.hardware.magnetDac).toOption,
          Double.IsModerate current ∧ Double.IsModerate target)

instance (r : Request) : Decidable (r.IsModerate st s) := inferInstanceAs (Decidable (_ ∧ _))

end Moderate

end Request

/-! ### Serving requests -/

namespace Server

variable {σ : Type} [Instrument σ] {P : σ → Prop} {st : Station} {s : Server (Ledger σ)}

/-- The parameters of the instrument, the values it was asked for and the one to restore are
finite. -/
structure IsFinite (P : σ → Prop) (s : Server (Ledger σ)) : Prop where
  instrument : P s.instrument.instrument
  asked : ∀ c ∈ s.instrument.asked, c.IsFinite
  restore : s.blank.restore.isFinite = true

section Steps

variable (keeps : KeepsFinite P) (hs : s.IsFinite P)
include keeps hs

lemma IsFinite.perform {e : Effect} (he : e.IsFinite) : (e.perform st s).IsFinite P := by
  cases e with
  | change c =>
    rw [Effect.perform, Ledger.apply_eq_pass]
    refine ⟨keeps.change hs.instrument he, fun d hd => ?_, hs.restore⟩
    rcases List.mem_append.mp hd with hd | hd
    · exact hs.asked d hd
    · rwa [List.mem_singleton.mp hd]
  | note level message => exact ⟨hs.instrument, hs.asked, hs.restore⟩
  | blanking b => exact ⟨hs.instrument, hs.asked, he⟩
  | pause =>
    have hbeside := pause_beside st s st.settings.magnet.stepTime.toNat
    constructor
    · exact hbeside.instrument ▸ hs.instrument
    · exact hbeside.instrument ▸ hs.asked
    · exact hbeside.blank ▸ hs.restore

lemma IsFinite.reaches {s' : Server (Ledger σ)} {Q : Effect → Prop} (hQ : ∀ e, Q e → e.IsFinite)
    (h : Reaches st Q s s') : s'.IsFinite P := by
  induction h with
  | refl => exact hs
  | tail _ hstep ih =>
    obtain ⟨e, he, rfl⟩ := hstep
    exact ih.perform keeps (hQ e he)

lemma IsFinite.read {name : String} {v : Float} (h : s.read name = .ok v) :
    v.isFinite = true := by
  rw [Server.read] at h
  split at h
  · next hread =>
    rw [← Except.ok.inj h]
    exact keeps.read hs.instrument hread
  · cases h

/-- With finite values around, a request that is moderate has finite effects only. -/
lemma IsFinite.of_causes (hst : st.IsFinite) {r : Request} (hr : r.IsModerate st s) {e : Effect}
    (he : r.Causes st s e) : e.IsFinite := by
  have hmem {α : Type} {value : Except Failure α} {a : α} (h : value = .ok a) :
      a ∈ value.toOption := by rw [h]; rfl
  cases e with
  | blanking b =>
    change b.restore.isFinite = true
    rcases he.2 with hsame | hread
    · rw [hsame]
      exact hs.restore
    · exact hs.read keeps hread
  | note level message => trivial
  | pause => trivial
  | change c =>
    cases c with
    | write name v =>
      rcases he with hwrite | ⟨⟨-, enabled, -⟩, rfl | rfl⟩ | ⟨⟨hverb, -⟩, current, target, h⟩
      · exact Request.isFinite_of_write? hwrite
      · exact hst.blankValue enabled
      · exact hs.restore
      · obtain ⟨hcurrent, htarget, hv⟩ := h
        obtain ⟨hstart, hgoal⟩ := hr.2 hverb target (hmem htarget) current (hmem hcurrent)
        exact MagnetMove.isFinite_of_mem_setpoints_plan hstart hgoal
          st.settings.magnet.steps.toNat_lt hv
    | beginMonitoring m =>
      obtain ⟨hverb, seconds, hseconds, htime⟩ := he
      change m.integrationTime.isFinite = true
      rw [htime]
      exact isFinite_mul_thousand (hr.1 hverb seconds (hmem hseconds))
    | applyTune t => exact hst.tunes _ t he.2
    | _ => trivial

/-- A line leaves all values finite if its request is moderate. -/
lemma IsFinite.serveLine (hst : st.IsFinite) {line : String}
    (hline : ∀ r ∈ (Request.parse line).toOption, r.IsModerate st s) :
    (s.serveLine st line).2.IsFinite P := by
  cases hparse : Request.parse line with
  | error e => rwa [serveLine_of_parse_error hparse]
  | ok r =>
    rw [hparse] at hline
    rw [serveLine_of_parse hparse]
    exact hs.reaches keeps (fun e he => hs.of_causes keeps hst (hline r rfl) he)
      (serveRequest_causes st s r)

end Steps

/-- Every line is moderate in the state where it is served. -/
def IsModerateRun {σ : Type} [Instrument σ] (st : Station) : Server σ → List String → Prop
  | _, [] => True
  | s, line :: rest =>
    (∀ r ∈ (Request.parse line).toOption, r.IsModerate st s)
      ∧ IsModerateRun st (s.serveLine st line).2 rest

instance decidableIsModerateRun {σ : Type} [Instrument σ] (st : Station) :
    (s : Server σ) → (lines : List String) → Decidable (s.IsModerateRun st lines)
  | _, [] => .isTrue trivial
  | s, line :: rest =>
    have := decidableIsModerateRun st (s.serveLine st line).2 rest
    inferInstanceAs (Decidable (_ ∧ _))

lemma IsFinite.serveLines (keeps : KeepsFinite P) (hst : st.IsFinite) (hs : s.IsFinite P)
    {lines : List String} (hrun : s.IsModerateRun st lines) :
    (s.serveLines st lines).2.IsFinite P := by
  induction lines generalizing s with
  | nil => exact hs
  | cons line rest ih =>
    obtain ⟨hline, hrest⟩ := hrun
    rw [serveLines_cons]
    exact ih (hs.serveLine keeps hst hline) hrest

/-- An instrument with finite parameters is asked for finite values only, from whatever state and
by whatever lines, provided that the blank value and the tunes are finite and that the numbers which
are scaled or divided into steps are not too great. -/
theorem asked_isFinite (keeps : KeepsFinite P) (hst : st.IsFinite)
    (hinstrument : P s.instrument.instrument) (hrestore : s.blank.restore.isFinite = true)
    (hfresh : s.instrument.asked = []) {lines : List String} (hrun : s.IsModerateRun st lines) :
    ∀ c ∈ (s.serveLines st lines).2.instrument.asked, c.IsFinite := by
  have hasked : ∀ c ∈ s.instrument.asked, c.IsFinite := by
    rw [hfresh]
    exact fun c hc => nomatch hc
  have hs : s.IsFinite P := ⟨hinstrument, hasked, hrestore⟩
  exact (hs.serveLines keeps hst hrun).asked

/-- A server that drives the multicollector and keeps what it asks for. -/
def multicollectorLedger : Server (Ledger SimulatedInstrument) :=
  { instrument := ⟨.multicollector, []⟩ }

/-- Everything that can be asked for with a value, asked for once. -/
theorem asked_isFinite_multicollector :
    let st : Station :=
      { settings :=
          { beamBlank := { enabled := true }, scan := { allowIntegrationTimeChange := true } }
        tunes := .sample }
    let lines := ["SetMagnetDAC 5.5", "BlankBeam true", "SetHV 4500", "SetTuningSettings Argon",
      "SetIntegrationTime 2.5", "BlankBeam false"]
    let s := multicollectorLedger
    KeepsFinite (fun i : SimulatedInstrument => i.parameters.IsFinite)
      ∧ st.IsFinite
      ∧ s.instrument.instrument.parameters.IsFinite
      ∧ s.blank.restore.isFinite = true
      ∧ s.instrument.asked = []
      ∧ s.IsModerateRun st lines
      ∧ ∀ c ∈ (s.serveLines st lines).2.instrument.asked, c.IsFinite := by
  intro st lines s
  have keeps := SimulatedInstrument.keepsFinite
  have htunes : ∀ t ∈ TuneStore.sample.values, ∀ v ∈ t.parameters.values, v.isFinite = true := by
    decide +kernel
  have hst : st.IsFinite := by
    constructor
    · exact fun _ => by decide
    · intro name t ht
      exact Table.isFinite_of_values
        (htunes t (List.mem_map.mpr ⟨_, Keyed.mem_of_find? ht, rfl⟩))
  have hvalues : ∀ v ∈ SimulatedInstrument.multicollector.parameters.values,
      v.isFinite = true := by decide +kernel
  have hinstrument := Table.isFinite_of_values hvalues
  have hrestore : s.blank.restore.isFinite = true := by decide
  have hrun : s.IsModerateRun st lines := by decide +kernel
  exact ⟨keeps, hst, hinstrument, hrestore, rfl, hrun,
    asked_isFinite keeps hst hinstrument hrestore rfl hrun⟩

/-- A number of seconds can be finite and infinite in milliseconds. It is asked for all the same: the
settings are accepted, the parameters of the instrument are finite, and the reply is success. -/
theorem setIntegrationTime_infinite :
    let st : Station := { settings := { scan := { allowIntegrationTimeChange := true } } }
    let i := SimulatedInstrument.multicollector
    let served := Server.serveLine st { instrument := i } "SetIntegrationTime 1e306"
    st.settings.validate = .ok ()
      ∧ (∀ v ∈ i.parameters.values, v.isFinite = true)
      ∧ served.1 = doneReply
      ∧ ¬ ∀ m ∈ served.2.instrument.monitoringRequests, m.integrationTime.isFinite = true := by
  decide +kernel

/-- No rule speaks of the blank value. An infinite one is accepted and written. -/
theorem blankBeam_infinite :
    let st : Station := { settings := { beamBlank := { enabled := true, blankValue := 1 / 0 } } }
    let i := SimulatedInstrument.multicollector
    let served := Server.serveLine st { instrument := i } "BlankBeam true"
    st.settings.validate = .ok ()
      ∧ (∀ v ∈ i.parameters.values, v.isFinite = true)
      ∧ served.1 = doneReply
      ∧ ¬ ∀ w ∈ served.2.instrument.writes.toList, w.2.isFinite = true := by
  decide +kernel

/-- The distance of two finite fields can be infinite, and then so are the setpoints. -/
theorem setMagnetDAC_infinite :
    let st : Station := {}
    let i := SimulatedInstrument.multicollector.preset "Field Set" (-1e308)
    let served := Server.serveLine st { instrument := i } "SetMagnetDAC 1e308"
    st.settings.validate = .ok ()
      ∧ (∀ v ∈ i.parameters.values, v.isFinite = true)
      ∧ served.1 = doneReply
      ∧ ¬ ∀ w ∈ served.2.instrument.writes.toList, w.2.isFinite = true := by
  decide +kernel

end Server


end SpectroRemote
