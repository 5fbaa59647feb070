import Mathlib.Logic.Relation
import SpectroRemote.Proofs.Passage
import SpectroRemote.Proofs.Requests

/-!
# What requests can do

Serving a request acts on the state in four ways only: it asks the instrument for a change, records
an event, sets the state of blanking, or pauses between two steps of a magnet move. The verb and its
argument limit these effects (`Request.Permits`), whatever the instrument does, and no request goes
beyond its limits (`serveRequest_reaches`). In a given state the effects are limited further, to
those with values that come from the argument, the settings, or this state (`Request.Causes`).
-/

namespace SpectroRemote

/-! ### Effects -/

/-- A change that an instrument is asked for. -/
inductive Change
  | write (name : String) (v : Float)
  | setActive (cup subCup : String)
  | pushHardwareParameters (cup subCup : String)
  | requestCupChange
  | switchCollector (cup collector : String) (active : Bool)
  | beginMonitoring (m : Measurement)
  | applyTune (t : Tune)

/-- Asks an instrument for a change. -/
def Change.apply {σ : Type} [Instrument σ] (i : σ) : Change → Except Refusal Unit × σ
  | write name v => Instrument.writeParameter i name v
  | setActive cup subCup => Instrument.setActive i cup subCup
  | pushHardwareParameters cup subCup => Instrument.pushHardwareParameters i cup subCup
  | requestCupChange => Instrument.requestCupChange i
  | switchCollector cup collector active => Instrument.switchCollector i cup collector active
  | beginMonitoring m => Instrument.beginMonitoring i m
  | applyTune t => Instrument.applyTune i t

/-- A single thing that serving a request does. -/
inductive Effect
  | change (c : Change)
  | note (level : LogLevel) (message : String)
  | blanking (b : Blanking)
  /-- Time passes between two steps of a magnet move. -/
  | pause

/-- The state after an effect. -/
def Effect.perform {σ : Type} [Instrument σ] (st : Station) (s : Server σ) : Effect → Server σ
  | change c => { s with instrument := (c.apply s.instrument).2 }
  | note level message => s.log level message
  | blanking b => { s with blank := b }
  | pause => s.pause st

namespace Server

variable {σ : Type} [Instrument σ]

/-- A later state is reached by effects that satisfy `P`. -/
def Reaches (st : Station) (P : Effect → Prop) : Server σ → Server σ → Prop :=
  Relation.ReflTransGen fun s s' => ∃ e, P e ∧ s' = e.perform st s

namespace Reaches

variable {st : Station} {P Q : Effect → Prop} {s s' t : Server σ}

@[refl] lemma refl : Reaches st P s s := Relation.ReflTransGen.refl

lemma trans (h : Reaches st P s s') (h' : Reaches st P s' t) : Reaches st P s t :=
  Relation.ReflTransGen.trans h h'

lemma single {e : Effect} (h : P e) : Reaches st P s (e.perform st s) :=
  Relation.ReflTransGen.single ⟨e, h, rfl⟩

lemma mono (hPQ : ∀ e, P e → Q e) (h : Reaches st P s s') : Reaches st Q s s' :=
  Relation.ReflTransGen.mono (fun _ _ ⟨e, he, hs⟩ => ⟨e, hPQ e he, hs⟩) _ _ h

/-- What every permitted effect leaves as it is stays as it is. -/
lemma preserves {α : Sort*} (f : Server σ → α) (h : Reaches st P s s')
    (hf : ∀ t e, P e → f (e.perform st t) = f t) : f s' = f s := by
  induction h with
  | refl => rfl
  | tail _ hstep ih =>
    obtain ⟨e, he, rfl⟩ := hstep
    rw [hf _ e he, ih]

lemma asked {c : Change} {answer : Except Refusal Unit} {i : σ} (h : P (.change c))
    (heq : c.apply s.instrument = (answer, i)) : Reaches st P s { s with instrument := i } := by
  have step : Reaches st P s ((Effect.change c).perform st s) := single h
  rwa [Effect.perform, heq] at step

/-- Follows the state that comes with a result. -/
lemma follow {α : Type} {p : α × Server σ} {a : α} (h : Reaches st P s p.2)
    (heq : p = (a, s')) : Reaches st P s s' := by rwa [heq] at h

lemma noted (h : ∀ level message, P (.note level message)) (level : LogLevel) (message : String) :
    Reaches st P s (s.log level message) := single (e := .note level message) (h level message)

lemma blanked {b : Blanking} (h : P (.blanking b)) : Reaches st P s { s with blank := b } :=
  single (e := .blanking b) h

lemma withValue {α : Type} {value : Except Failure α} {next : α → Outcome σ}
    (h : ∀ a, value = .ok a → Reaches st P s (next a).2) :
    Reaches st P s (s.withValue value next).2 := by
  cases value with
  | error e => exact refl
  | ok a => exact h a rfl

end Reaches

/-! ### The effects of single operations -/

section Operations

variable (st : Station) {P : Effect → Prop} (hnote : ∀ level message, P (.note level message))
include hnote

lemma write_reaches (s : Server σ) {name : String} {v : Float}
    (h : P (.change (.write name v))) : Reaches st P s (s.write name v).2 := by
  rw [write]
  split
  · next i heq => exact .asked h heq
  · next e i heq => exact (Reaches.asked h heq).trans (.noted hnote _ _)

omit hnote in
lemma write_blank (s : Server σ) (name : String) (v : Float) :
    (s.write name v).2.blank = s.blank := by
  rw [write]
  split <;> rfl

lemma writeAndReply_reaches (s : Server σ) {name : String} {v : Float}
    (h : P (.change (.write name v))) : Reaches st P s (s.writeAndReply name v).2 := by
  rw [writeAndReply]
  split <;> next heq => exact (write_reaches st hnote s h).follow heq

lemma cupNamed_reaches (s : Server σ) (name : String) : Reaches st P s (s.cupNamed name).2 := by
  rw [cupNamed]
  split
  · exact .refl
  · split
    · exact .refl
    · exact .noted hnote _ _

lemma activeCup_reaches (s : Server σ) : Reaches st P s s.activeCup.2 := by
  rw [activeCup]
  split
  · exact .refl
  · exact cupNamed_reaches st hnote s _

lemma subCupNames_reaches (s : Server σ) (name : String) :
    Reaches st P s (s.subCupNames name).2 := by
  rw [subCupNames]
  split <;> next heq => exact (cupNamed_reaches st hnote s name).follow heq

lemma requestChange_reaches (s : Server σ) (h : P (.change .requestCupChange)) :
    Reaches st P s s.requestChange.2 := by
  rw [requestChange]
  split <;> next heq =>
    exact (Reaches.asked (c := .requestCupChange) h heq).trans (.noted hnote _ _)

lemma chooseIdentified_reaches (s : Server σ) (cup subCup : String)
    (hset : P (.change (.setActive cup subCup)))
    (hpush : P (.change (.pushHardwareParameters cup subCup)))
    (hchange : P (.change .requestCupChange)) :
    Reaches st P s (s.chooseIdentified cup subCup).2 := by
  rw [chooseIdentified]
  split
  · next heq => exact .asked hset heq
  · next i heq =>
    refine (Reaches.asked hset heq).trans ?_
    split
    · next heq =>
      exact (Reaches.asked (s := { s with instrument := i }) hpush heq).trans (.noted hnote _ _)
    · next heq =>
      exact (Reaches.asked (s := { s with instrument := i }) hpush heq).trans
        (requestChange_reaches st hnote _ hchange)

lemma choose_reaches (s : Server σ) (cupName subCupName : String)
    (hset : ∀ cup subCup, P (.change (.setActive cup subCup)))
    (hpush : ∀ cup subCup, P (.change (.pushHardwareParameters cup subCup)))
    (hchange : P (.change .requestCupChange)) :
    Reaches st P s (s.choose cupName subCupName).2 := by
  have hc := cupNamed_reaches st hnote s cupName
  rw [choose]
  split
  · next heq => exact hc.follow heq
  · next heq =>
    refine (hc.follow heq).trans ?_
    split
    · exact .noted hnote _ _
    · exact chooseIdentified_reaches st hnote _ _ _ (hset _ _) (hpush _ _) hchange

lemma setSubCup_reaches (s : Server σ) (name : String)
    (hset : ∀ cup subCup, P (.change (.setActive cup subCup)))
    (hpush : ∀ cup subCup, P (.change (.pushHardwareParameters cup subCup)))
    (hchange : P (.change .requestCupChange)) : Reaches st P s (s.setSubCup st name).2 := by
  have hc := choose_reaches st hnote s st.settings.cups.cupConfiguration name hset hpush hchange
  rw [setSubCup, chooseSubCup]
  split
  · next heq => exact hc.follow heq
  · next heq => exact (hc.follow heq).trans (.noted hnote _ _)

lemma switchCollectors_reaches (cup : String) (active : Bool) (collectors : List Collector)
    (s : Server σ) (h : ∀ collector, P (.change (.switchCollector cup collector active))) :
    Reaches st P s (switchCollectors cup active collectors s).2 := by
  induction collectors generalizing s with
  | nil => exact .refl
  | cons c rest ih =>
    rw [switchCollectors]
    split
    · next heq => exact (Reaches.asked (h _) heq).trans (ih _)
    · next heq => exact ((Reaches.asked (h _) heq).trans (.noted hnote _ _)).trans (ih _)

lemma switchIonCounters_reaches (s : Server σ) (active : Bool)
    (h : ∀ cup collector, P (.change (.switchCollector cup collector active))) :
    Reaches st P s (s.switchIonCounters active).2 := by
  have hlog : Reaches st P s (s.log .info ("Setting IonCounterState " ++ toString active)) :=
    .noted hnote _ _
  have hcup := hlog.trans (activeCup_reaches st hnote _)
  have hset : Reaches st P s (s.setIonCounters active).2 := by
    rw [setIonCounters]
    dsimp only
    split
    · next heq => exact hcup.follow heq
    · next heq =>
      exact (hcup.follow heq).trans (switchCollectors_reaches st hnote _ _ _ _ (h _))
  rw [switchIonCounters]
  split
  · next heq => exact hset.follow heq
  · next heq => exact (hset.follow heq).trans (.noted hnote _ _)

lemma switchBlanking_reaches (s : Server σ) (blank : Bool)
    (hblank : P (.change (.write st.settings.hardware.ySymmetry st.settings.beamBlank.blankValue)))
    (hrestore : P (.change (.write st.settings.hardware.ySymmetry s.blank.restore)))
    (hblanking : ∀ b : Blanking, b.restore = s.blank.restore
      ∨ s.read st.settings.hardware.ySymmetry = .ok b.restore → P (.blanking b)) :
    Reaches st P s (s.switchBlanking st blank).2 := by
  unfold switchBlanking
  split
  · exact .refl
  · split
    · unfold blankBeam
      dsimp only
      split
      · exact .refl
      · next current hread =>
        have hw := write_reaches st hnote s hblank
        split
        · next heq => exact hw.follow heq
        · next heq =>
          exact ((hw.follow heq).trans (.blanked (hblanking ⟨true, current⟩ (.inr hread)))).trans
            (.noted hnote _ _)
    · rw [unblankBeam]
      have hw := write_reaches st hnote s hrestore
      split
      · next heq => exact hw.follow heq
      · next after heq =>
        have hsame : after.blank.restore = s.blank.restore := by
          rw [← write_blank s st.settings.hardware.ySymmetry s.blank.restore, heq]
        have hrestored : P (.blanking { after.blank with isBlanked := false }) :=
          hblanking _ (.inl hsame)
        exact ((hw.follow heq).trans (.blanked hrestored)).trans (.noted hnote _ _)
    · exact .refl

lemma writeSetpoint_reaches (s : Server σ) (field : Float)
    (h : P (.change (.write st.settings.hardware.magnetDac field))) :
    Reaches st P s (s.writeSetpoint st field).2 := by
  have hw := write_reaches st hnote s h
  rw [writeSetpoint]
  split
  · next heq => exact hw.follow heq
  · next heq => exact (hw.follow heq).trans (.noted hnote _ _)

lemma continueMove_reaches (fields : List Float) (r : String × Server σ)
    (hwrite : ∀ v ∈ fields, P (.change (.write st.settings.hardware.magnetDac v)))
    (hpause : P .pause) : Reaches st P r.2 (continueMove st fields r).2 := by
  induction fields generalizing r with
  | nil => exact .refl
  | cons field rest ih =>
    rw [continueMove]
    refine Reaches.trans ?_ (ih _ fun v hv => hwrite v (.tail _ hv))
    exact (Reaches.single hpause).trans
      (writeSetpoint_reaches st hnote _ field (hwrite field (.head _)))

lemma carryOut_reaches (s : Server σ) (fields : List Float)
    (hwrite : ∀ v ∈ fields, P (.change (.write st.settings.hardware.magnetDac v)))
    (hpause : P .pause) : Reaches st P s (s.carryOut st fields).2 := by
  cases fields with
  | nil => exact .refl
  | cons field rest =>
    exact (writeSetpoint_reaches st hnote s field (hwrite field (.head _))).trans
      (continueMove_reaches st hnote rest _ (fun v hv => hwrite v (.tail _ hv)) hpause)

lemma setMagnet_reaches (s : Server σ) (target : Float)
    (hwrite : ∀ current, s.read st.settings.hardware.magnetDac = .ok current →
      ∀ v ∈ (st.settings.magnet.plan current target).setpoints,
        P (.change (.write st.settings.hardware.magnetDac v)))
    (hpause : P .pause) : Reaches st P s (s.setMagnet st target).2 := by
  rw [setMagnet]
  split
  · exact .refl
  · next current hread =>
    refine Reaches.trans ?_ (carryOut_reaches st hnote _ _ (hwrite current hread) hpause)
    split
    · exact .noted hnote _ _
    · exact .refl

lemma changeIntegrationTime_reaches (s : Server σ) (seconds : Float)
    (h : ∀ m : Measurement, m.integrationTime = seconds * 1000 →
      P (.change (.beginMonitoring m))) :
    Reaches st P s (s.changeIntegrationTime st seconds).2 := by
  rw [changeIntegrationTime]
  split
  · exact .refl
  · dsimp only
    split
    · exact .noted hnote _ _
    · split <;> next heq =>
        exact (Reaches.asked (c := .beginMonitoring _) (h _ rfl) heq).trans (.noted hnote _ _)

lemma applyTune_reaches (s : Server σ) (name : String)
    (h : ∀ t, st.tunes.get? name = some t → P (.change (.applyTune t))) :
    Reaches st P s (s.applyTune st name).2 := by
  unfold applyTune
  dsimp only
  split
  · exact .noted hnote _ _
  · next t ht =>
    split <;> next heq => exact (Reaches.asked (h t ht) heq).trans (.noted hnote _ _)

end Operations

end Server

/-! ### The limits of requests -/

/-- The effect is an event that is recorded. -/
def Effect.IsNote : Effect → Prop
  | note _ _ => True
  | _ => False

/-- The changes that a request may ask an instrument for. -/
def Request.PermitsChange (st : Station) (r : Request) : Change → Prop
  | .write name v =>
    r.write? st.settings.hardware = some (.ok (name, v))
      ∨ r.verb = .blankBeam ∧ name = st.settings.hardware.ySymmetry
      ∨ r.verb = .setMagnetDAC ∧ name = st.settings.hardware.magnetDac
  | .setActive _ _ | .pushHardwareParameters _ _ | .requestCupChange =>
    r.verb = .setSubCupConfiguration
  | .switchCollector _ _ active =>
    r.verb = if active then .activateIonCounter else .deactivateIonCounter
  | .beginMonitoring _ => r.verb = .setIntegrationTime
  | .applyTune t => r.verb = .setTuningSettings ∧ st.tunes.get? r.argument = some t

/-- The effects that serving a request may have. -/
def Request.Permits (st : Station) (r : Request) : Effect → Prop
  | .change c => r.PermitsChange st c
  | .note _ _ => True
  | .blanking _ => r.verb = .blankBeam
  | .pause => r.verb = .setMagnetDAC

/-! ### What requests do in a state -/

section Causes

variable {σ : Type} [Instrument σ]

/-- The changes that a request may ask an instrument for in a state of the server. -/
def Request.CausesChange (st : Station) (s : Server σ) (r : Request) : Change → Prop
  | .write name v =>
    r.write? st.settings.hardware = some (.ok (name, v))
      ∨ (r.verb = .blankBeam ∧ st.settings.beamBlank.enabled = true
          ∧ name = st.settings.hardware.ySymmetry)
        ∧ (v = st.settings.beamBlank.blankValue ∨ v = s.blank.restore)
      ∨ (r.verb = .setMagnetDAC ∧ name = st.settings.hardware.magnetDac)
        ∧ ∃ current target, s.read st.settings.hardware.magnetDac = .ok current
          ∧ r.number = .ok target ∧ v ∈ (st.settings.magnet.plan current target).setpoints
  | .beginMonitoring m =>
    r.verb = .setIntegrationTime
      ∧ ∃ seconds, r.number = .ok seconds ∧ m.integrationTime = seconds * 1000
  | c => r.PermitsChange st c

/-- The effects that serving a request may have in a state of the server. -/
def Request.Causes (st : Station) (s : Server σ) (r : Request) : Effect → Prop
  | .change c => r.CausesChange st s c
  | .blanking b =>
    r.verb = .blankBeam
      ∧ (b.restore = s.blank.restore ∨ s.read st.settings.hardware.ySymmetry = .ok b.restore)
  | e => r.Permits st e

/-- What a request does in some state it may do at all. -/
lemma Request.Causes.permits {st : Station} {s : Server σ} {r : Request} {e : Effect}
    (h : r.Causes st s e) : r.Permits st e := by
  cases e with
  | change c =>
    cases c with
    | write name v =>
      rcases h with hwrite | ⟨⟨hverb, -, hname⟩, -⟩ | ⟨hmagnet, -⟩
      · exact .inl hwrite
      · exact .inr (.inl ⟨hverb, hname⟩)
      · exact .inr (.inr hmagnet)
    | beginMonitoring m => exact h.1
    | _ => exact h
  | blanking b => exact h.1
  | _ => exact h

end Causes

namespace Server

variable {σ : Type} [Instrument σ]

/-- Serving a query records events at most. -/
lemma serveRequest_of_isQuery {r : Request} (h : r.verb.IsQuery) (st : Station) (s : Server σ) :
    Reaches st Effect.IsNote s (s.serveRequest st r).2 := by
  obtain ⟨verb, argument⟩ := r
  change verb.IsQuery at h
  cases verb
  case getSubCupConfigurationList =>
    exact .withValue fun name _ => subCupNames_reaches st (fun _ _ => trivial) s name
  all_goals first
    | exact .refl
    | exact .withValue fun _ _ => .refl
    | exact absurd h (by decide)

/-- Serving a request has only effects that the request causes in the state where it is served. -/
theorem serveRequest_causes (st : Station) (s : Server σ) (r : Request) :
    Reaches st (r.Causes st s) s (s.serveRequest st r).2 := by
  have hnote : ∀ level message, r.Causes st s (.note level message) := fun _ _ => trivial
  cases hw : r.write? st.settings.hardware with
  | some w =>
    rw [serveRequest_of_write? hw]
    refine .withValue fun p hp => writeAndReply_reaches st hnote s (.inl ?_)
    rw [hw, hp]
  | none =>
    by_cases hq : r.verb.IsQuery
    · refine (serveRequest_of_isQuery hq st s).mono fun e he => ?_
      cases e with
      | note level message => exact hnote level message
      | _ => exact he.elim
    obtain ⟨verb, argument⟩ := r
    change ¬ verb.IsQuery at hq
    cases verb
    case setTuningSettings =>
      refine .withValue fun name hname => applyTune_reaches st hnote s name fun t ht => ⟨rfl, ?_⟩
      rwa [← Request.argument_of_givenArgument hname]
    case setIntegrationTime =>
      exact .withValue fun v hv =>
        changeIntegrationTime_reaches st hnote s v fun _ hm => ⟨rfl, v, hv, hm⟩
    case blankBeam =>
      simp only [serveRequest]
      split
      · exact .refl
      · next henabled =>
        have enabled : st.settings.beamBlank.enabled = true := by simpa using henabled
        exact .withValue fun a _ =>
          switchBlanking_reaches st hnote s _ (.inr (.inl ⟨⟨rfl, enabled, rfl⟩, .inl rfl⟩))
            (.inr (.inl ⟨⟨rfl, enabled, rfl⟩, .inr rfl⟩)) fun _ hb => ⟨rfl, hb⟩
    case setSubCupConfiguration =>
      exact .withValue fun name _ =>
        setSubCup_reaches st hnote s name (fun _ _ => rfl) (fun _ _ => rfl) rfl
    case activateIonCounter => exact switchIonCounters_reaches st hnote s true fun _ _ => rfl
    case deactivateIonCounter => exact switchIonCounters_reaches st hnote s false fun _ _ => rfl
    case setMagnetDAC =>
      exact .withValue fun v hv =>
        setMagnet_reaches st hnote s v
          (fun current hread _ hmem => .inr (.inr ⟨⟨rfl, rfl⟩, current, v, hread, hv, hmem⟩)) rfl
    all_goals first
      | exact absurd (by decide) hq
      | exact absurd hw (by simp [Request.write?])

/-- Serving a request has only effects that the request permits. -/
theorem serveRequest_reaches (st : Station) (s : Server σ) (r : Request) :
    Reaches st (r.Permits st) s (s.serveRequest st r).2 :=
  (serveRequest_causes st s r).mono fun _ he => he.permits

end Server

end SpectroRemote
