import SpectroRemote.Proofs.Deeds
import SpectroRemote.Proofs.Double.Representation
import SpectroRemote.Proofs.Lines

/-!
# What requests show of parameters

Some requests show the value of one parameter as a number. Whatever was requested before, they show
the value that the parameter was given last (`serveLines_lastGiven`). A request that is not carried
out changes none of them, with the exception of a move of the magnet: the steps that were accepted
before the last one was refused have moved the field.
-/

namespace SpectroRemote

/-! ### Requests that show a number -/

/-- The parameter that a request shows as a number, if it does. -/
def Request.shown? (names : HardwareSettings) (r : Request) : Option String :=
  match r.verb with
  | .getMagnetDAC => some names.magnetDac
  | .getHighVoltage | .getHV => some ParameterName.accelerationReference
  | .getTrapVoltage => some ParameterName.trapVoltageReadback
  | .getElectronEnergy => some ParameterName.electronEnergyReadback
  | .getIonRepeller => some ParameterName.ionRepeller
  | .getYSymmetry => some names.ySymmetry
  | .getZSymmetry => some ParameterName.zSymmetry
  | .getZFocus => some ParameterName.zFocus
  | .getExtractionLens => some ParameterName.extractionLens
  | .getIonCounterVoltage => some ParameterName.ionCounterSupply
  | .getDeflection => r.givenArgument.toOption.map ParameterName.deflection
  | .getParameter => r.givenArgument.toOption
  | _ => none

/-- The reply that shows a value. The high voltage is kept in kilovolts and shown in volts. -/
def Verb.shownReply (verb : Verb) : Option Float → String
  | some v => valueText (if verb = .getHighVoltage then v * 1000 else v)
  | none => Failure.rejectionReply

namespace Server

lemma read_eq (s : Server SimulatedInstrument) (name : String) :
    s.read name = (s.instrument.value? name).elim (.error (.unreadable name)) .ok := by
  have hread : Instrument.readParameter s.instrument name
    = s.instrument.readParameter name := rfl
  rw [read, hread, SimulatedInstrument.readParameter]
  cases s.instrument.value? name <;> rfl

lemma scaledReadout_eq (s : Server SimulatedInstrument) (name : String) (scale : Float) :
    s.scaledReadout name scale
      = (s.instrument.value? name).elim Failure.rejectionReply fun v => valueText (v * scale) := by
  rw [scaledReadout, read_eq]
  cases s.instrument.value? name <;> rfl

/-- A request that shows a number shows the value of its parameter, and changes nothing. -/
lemma serveRequest_of_shown? {st : Station} {r : Request} {p : String}
    (h : r.shown? st.settings.hardware = some p) (s : Server SimulatedInstrument) :
    s.serveRequest st r = s.answer (r.verb.shownReply (s.instrument.value? p)) := by
  have hreadout {verb : Verb} (hverb : verb ≠ .getHighVoltage) (name : String) :
      s.readout name = verb.shownReply (s.instrument.value? name) := by
    rw [readout, scaledReadout_eq]
    cases s.instrument.value? name with
    | none => rfl
    | some v => rw [Verb.shownReply, if_neg hverb, Option.elim_some, Double.mul_one]
  have hword {value : Except Failure String} {f : String → String}
      (h : value.toOption.map f = some p) : ∃ a, value = .ok a ∧ f a = p := by
    cases value with
    | error e => cases h
    | ok a => exact ⟨a, rfl, Option.some.inj h⟩
  obtain ⟨verb, argument⟩ := r
  cases verb
  case getHighVoltage =>
    obtain rfl := Option.some.inj h
    change s.answer (s.scaledReadout _ 1000) = _
    rw [scaledReadout_eq]
    cases s.instrument.value? ParameterName.accelerationReference <;> rfl
  case getDeflection =>
    obtain ⟨detector, hdetector, rfl⟩ := hword h
    simp only [serveRequest, hdetector, withValue]
    exact congrArg s.answer (hreadout (by decide) _)
  case getParameter =>
    obtain ⟨name, hname, rfl⟩ := hword (f := id) (by rw [Option.map_id]; exact h)
    simp only [serveRequest, hname, withValue]
    exact congrArg s.answer (hreadout (by decide) _)
  all_goals first
    | (cases h; simp only [serveRequest]; exact congrArg s.answer (hreadout (by decide) _))
    | cases h

/-- What a line that shows a number is answered. -/
lemma serveLine_of_shown? {st : Station} {line : String} {r : Request}
    (hparse : Request.parse line = .ok r) {p : String}
    (h : r.shown? st.settings.hardware = some p) (s : Server SimulatedInstrument) :
    (s.serveLine st line).1 = r.verb.shownReply (s.instrument.value? p) := by
  rw [serveLine_reply hparse, serveRequest_of_shown? h]
  rfl

/-! ### Requests that are not carried out -/

lemma value?_of_writeParameter_error {i : SimulatedInstrument} {name : String} {v : Float}
    {e : Refusal} (h : (i.writeParameter name v).1 = .error e) (p : String) :
    (i.writeParameter name v).2.value? p = i.value? p := by
  rw [SimulatedInstrument.writeParameter_state]
  rw [SimulatedInstrument.writeParameter] at h
  cases hr : i.refuses (i.writes.size + 1) name with
  | true => rfl
  | false =>
    rw [hr, if_neg Bool.false_ne_true] at h
    cases h

lemma value?_of_write_error {s s' : Server SimulatedInstrument} {name : String} {v : Float}
    {e : Failure} (h : s.write name v = (.error e, s')) (p : String) :
    s'.instrument.value? p = s.instrument.value? p := by
  obtain ⟨refusal, i, hwrite, rfl, -⟩ := write_eq_error h
  replace hwrite : s.instrument.writeParameter name v = (.error refusal, s'.instrument) := hwrite
  have hvalue := value?_of_writeParameter_error (congrArg Prod.fst hwrite) p
  rwa [hwrite] at hvalue

/-- A write that is not answered with success changes no value. -/
lemma value?_of_writeAndReply {s : Server SimulatedInstrument} {name : String} {v : Float}
    (h : (s.writeAndReply name v).1 ≠ doneReply) (p : String) :
    (s.writeAndReply name v).2.instrument.value? p = s.instrument.value? p := by
  rw [writeAndReply] at h ⊢
  cases hwrite : s.write name v with
  | mk answer s' =>
    rw [hwrite] at h
    cases answer with
    | ok => exact absurd rfl h
    | error e => exact value?_of_write_error hwrite p

/-- A beam that is not blanked or restored as wished for leaves every value as it was. -/
lemma value?_of_switchBlanking {st : Station} {s : Server SimulatedInstrument} {wish : Bool}
    (h : (s.switchBlanking st wish).1 ≠ doneReply) (p : String) :
    (s.switchBlanking st wish).2.instrument.value? p = s.instrument.value? p := by
  revert h
  unfold switchBlanking
  split
  · exact fun h => absurd rfl h
  · split
    · unfold blankBeam
      dsimp only
      split
      · exact fun _ => rfl
      · split
        · next hwrite => exact fun _ => value?_of_write_error hwrite p
        · exact fun h => absurd rfl h
    · rw [unblankBeam]
      split
      · next hwrite => exact fun _ => value?_of_write_error hwrite p
      · exact fun h => absurd rfl h
    · exact fun h => absurd rfl h

/-- A tune that is not applied changes nothing. -/
lemma instrument_of_applyTune {st : Station} {s : Server SimulatedInstrument} {name : String}
    (h : (s.applyTune st name).1 ≠ .ok ()) :
    (s.applyTune st name).2.instrument = s.instrument := by
  revert h
  unfold applyTune
  dsimp only
  split
  · exact fun _ => rfl
  · exact fun h => absurd rfl h

/-- A request that is not answered with success changes no value, unless it moves the magnet. -/
theorem value?_of_not_done {st : Station} {line : String} {r : Request}
    (hparse : Request.parse line = .ok r) (hmagnet : r.verb ≠ .setMagnetDAC)
    {s : Server SimulatedInstrument} (h : (s.serveLine st line).1 ≠ doneReply) (p : String) :
    (s.serveLine st line).2.instrument.value? p = s.instrument.value? p := by
  rw [serveLine_reply hparse] at h
  rw [serveLine_of_parse hparse]
  cases hw : r.write? st.settings.hardware with
  | some w =>
    rw [serveRequest_of_write? hw] at h ⊢
    cases w with
    | error e => rfl
    | ok w => exact value?_of_writeAndReply h p
  | none =>
    have hwrite := (Request.write?_eq_none_iff _ r).mp hw
    by_cases hblank : r.verb = .blankBeam
    · obtain ⟨verb, argument⟩ := r
      subst hblank
      revert h
      simp only [serveRequest]
      cases st.settings.beamBlank.enabled with
      | false => exact fun _ => rfl
      | true =>
        cases Request.givenArgument ⟨.blankBeam, argument⟩ with
        | error e => exact fun _ => rfl
        | ok a => exact fun h => value?_of_switchBlanking h p
    · by_cases htune : r.verb = .setTuningSettings
      · obtain ⟨verb, argument⟩ := r
        subst htune
        revert h
        simp only [serveRequest]
        cases Request.givenArgument ⟨.setTuningSettings, argument⟩ with
        | error e => exact fun _ => rfl
        | ok name =>
          intro h
          have hsame : (s.applyTune st name).2.instrument = s.instrument :=
            instrument_of_applyTune fun hok => h (by simp only [withValue, done, hok]; rfl)
          exact congrArg (·.value? p) hsame
      · obtain ⟨attempts, hfootprint⟩ := serveRequest_footprint st s r
        by_contra hchanged
        rcases hfootprint.values p hchanged with hmem | ⟨hverb, -⟩
        · rw [hfootprint.noWrite hwrite hblank hmagnet] at hmem
          cases hmem
        · exact htune hverb

/-- A move of the magnet changes no other parameter. -/
lemma value?_of_setMagnetDAC {st : Station} {line : String} {r : Request}
    (hparse : Request.parse line = .ok r) (hverb : r.verb = .setMagnetDAC)
    (s : Server SimulatedInstrument) {p : String} (hp : p ≠ st.settings.hardware.magnetDac) :
    (s.serveLine st line).2.instrument.value? p = s.instrument.value? p := by
  rw [serveLine_of_parse hparse]
  obtain ⟨attempts, hfootprint⟩ := serveRequest_footprint st s r
  by_contra hchanged
  rcases hfootprint.values p hchanged with hmem | ⟨htune, -⟩
  · obtain ⟨w, hw, rfl⟩ := List.mem_map.mp hmem
    exact hp (hfootprint.magnetWrites hverb w hw)
  · rw [hverb] at htune
    cases htune

/-! ### Names of parameters -/

/-- A line to set a parameter and a line to show it: the one makes one attempt to write, the other
shows the value, and what was set with success is shown. -/
structure SetsAndShows (st : Station) (setter getter p : String) (v : Float) : Prop where
  attempt : ∀ s : Server SimulatedInstrument,
    (s.serveLine st setter).2.instrument.writes = s.instrument.writes.push (p, v)
  shows : ∀ s : Server SimulatedInstrument,
    (s.serveLine st getter).1 = (s.instrument.value? p).elim Failure.rejectionReply valueText
  shown : ∀ s : Server SimulatedInstrument, (s.serveLine st setter).1 = doneReply →
    ((s.serveLine st setter).2.serveLine st getter).1 = valueText v

lemma setsAndShows {st : Station} {setter getter : Verb} {name text p : String} {v : Float}
    (hwrite : Request.write? st.settings.hardware ⟨setter, trimmed text⟩ = some (.ok (p, v)))
    (hshown : Request.shown? st.settings.hardware ⟨getter, trimmed name⟩ = some p)
    (hgetter : getter ≠ .getHighVoltage) :
    SetsAndShows st (Request.line setter text) (Request.line getter name) p v := by
  have hset (s : Server SimulatedInstrument) :
      s.serveLine st (Request.line setter text) = s.writeAndReply p v :=
    serveLine_of_write? hwrite s
  have hshows (s : Server SimulatedInstrument) : (s.serveLine st (Request.line getter name)).1
      = (s.instrument.value? p).elim Failure.rejectionReply valueText := by
    rw [serveLine_of_shown? (Request.parse_line getter name) hshown]
    cases s.instrument.value? p with
    | none => rfl
    | some v => rw [Verb.shownReply, if_neg hgetter, Option.elim_some]
  refine ⟨fun s => ?_, hshows, fun s hdone => ?_⟩
  · rw [hset, writes_writeAndReply]
  · rw [hset] at hdone ⊢
    rw [hshows, value?_writeAndReply, if_pos hdone, Option.elim_some]

/-- The request to set the parameter of a name and the request to show it address the same
parameter. -/
lemma addressed_alike {st : Station} {setter getter : Verb} {address : String → String}
    (hset : ∀ argument, Request.write? st.settings.hardware ⟨setter, argument⟩
      = some ((Request.nameAndValue ⟨setter, argument⟩).map fun w => (address w.1, w.2)))
    (hget : ∀ argument, Request.shown? st.settings.hardware ⟨getter, argument⟩
      = (Request.givenArgument ⟨getter, argument⟩).toOption.map address)
    (hgetter : getter ≠ .getHighVoltage) {name number : String} {v : Float}
    (hname : Request.IsName name) (hcomma : ',' ∉ number.toList)
    (hnumber : readFinite number.toList = .ok v) :
    let setLine := Request.line setter (name ++ "," ++ number)
    let getLine := Request.line getter name
    (Request.parse setLine).map (·.write? st.settings.hardware) = .ok (some (.ok (address name, v)))
      ∧ (Request.parse getLine).map (·.shown? st.settings.hardware) = .ok (some (address name))
      ∧ SetsAndShows st setLine getLine (address name) v := by
  intro setLine getLine
  have hwrite : Request.write? st.settings.hardware ⟨setter, trimmed (name ++ "," ++ number)⟩
      = some (.ok (address name, v)) := by
    rw [hset, Request.nameAndValue_of_isName hname hcomma, hnumber]
    rfl
  have hshown : Request.shown? st.settings.hardware ⟨getter, trimmed name⟩
      = some (address name) := by
    rw [hname.trimmed, hget, Request.givenArgument_of_ne hname.ne_empty]
    rfl
  refine ⟨?_, ?_, setsAndShows hwrite hshown hgetter⟩
  · rw [Request.parse_line, Except.map, hwrite]
  · rw [Request.parse_line, Except.map, hshown]

/-! ### Any sequence of requests -/

/-- After any sequence of requests each parameter has the value that it was given last, and all
attempts to write are kept. A request that shows a parameter as a number shows this value. What is
set for a detector or under a name is shown for it. A request that is not answered with success
leaves what is shown as it was, except that a move of the magnet shows the last step that was
accepted. -/
theorem serveLines_lastGiven (st : Station) (s : Server SimulatedInstrument)
    (lines : List String) :
    let names := st.settings.hardware
    let now := (s.serveLines st lines).2
    let deeds := s.deeds st lines
    (∀ p, now.instrument.value? p = lastGiven s.instrument p deeds)
      ∧ now.instrument.writes.toList = s.instrument.writes.toList ++ deeds.filterMap Deed.write?
      ∧ (∀ query q p, Request.parse query = .ok q → q.shown? names = some p →
          (now.serveLine st query).1 = q.verb.shownReply (lastGiven s.instrument p deeds))
      ∧ (∀ name number v, Request.IsName name → ',' ∉ number.toList →
          readFinite number.toList = .ok v →
          ∀ pair ∈ [(Verb.setDeflection, Verb.getDeflection), (.setParameter, .getParameter)],
            ∃ p, (Request.parse (Request.line pair.1 (name ++ "," ++ number))).map (·.write? names)
                = .ok (some (.ok (p, v)))
              ∧ (Request.parse (Request.line pair.2 name)).map (·.shown? names) = .ok (some p)
              ∧ SetsAndShows st (Request.line pair.1 (name ++ "," ++ number))
                  (Request.line pair.2 name) p v)
      ∧ ∀ line r, Request.parse line = .ok r → (now.serveLine st line).1 ≠ doneReply →
          ∀ query q p, Request.parse query = .ok q → q.shown? names = some p →
            ((now.serveLine st line).2.serveLine st query).1 =
              if r.verb = .setMagnetDAC ∧ p = names.magnetDac then
                q.verb.shownReply (lastGiven now.instrument p (now.lineDeeds st line))
              else (now.serveLine st query).1 := by
  intro names now deeds
  have h : Explains s.instrument deeds now.instrument := s.deeds_explains st lines
  clear_value now deeds
  refine ⟨h.value, h.writes, fun query q p hquery hshown => ?_,
    fun name number v hname hcomma hnumber pair hpair => ?_,
    fun line r hparse hreply query q p hquery hshown => ?_⟩
  · rw [serveLine_of_shown? hquery hshown, h.value]
  · simp only [List.mem_cons, List.not_mem_nil, or_false] at hpair
    rcases hpair with rfl | rfl
    · exact ⟨_, addressed_alike (fun _ => rfl) (fun _ => rfl) (by decide) hname hcomma hnumber⟩
    · have hset (argument : String) : Request.write? names ⟨.setParameter, argument⟩
          = some ((Request.nameAndValue ⟨.setParameter, argument⟩).map fun w => (id w.1, w.2)) := by
        change some (Request.nameAndValue ⟨.setParameter, argument⟩) = _
        cases Request.nameAndValue ⟨.setParameter, argument⟩ <;> rfl
      have hget (argument : String) : Request.shown? names ⟨.getParameter, argument⟩
          = (Request.givenArgument ⟨.getParameter, argument⟩).toOption.map id := by
        rw [Option.map_id]
        rfl
      exact ⟨_, addressed_alike hset hget (by decide) hname hcomma hnumber⟩
  · have hshow (t : Server SimulatedInstrument) := serveLine_of_shown? hquery hshown t
    rw [hshow, hshow]
    split
    · rw [(now.lineDeeds_explains st line).value]
    · next hother =>
      refine congrArg q.verb.shownReply ?_
      by_cases hverb : r.verb = .setMagnetDAC
      · exact value?_of_setMagnetDAC hparse hverb now fun hp => hother ⟨hverb, hp⟩
      · exact value?_of_not_done hparse hverb hreply p

/-- The deflection of a detector is set, and shown as it was set. -/
theorem serveLines_lastGiven_deflection :
    let st : Station := {}
    let s : Server SimulatedInstrument := { instrument := .multicollector }
    let set := s.serveLine st (Request.line .setDeflection ("H1" ++ "," ++ "5.50"))
    Request.IsName "H1" ∧ readFinite "5.50".toList = .ok 5.5 ∧ set.1 = doneReply
      ∧ (set.2.serveLine st (Request.line .getDeflection "H1")).1 = "5.5" := by
  intro st s set
  have hname : Request.IsName "H1" := ⟨by decide, by decide, by decide +kernel⟩
  have hnumber : readFinite "5.50".toList = .ok 5.5 := by decide +kernel
  have hdone : set.1 = doneReply := by decide +kernel
  have htext : valueText 5.5 = "5.5" := by decide +kernel
  obtain ⟨-, -, -, hpairs, -⟩ := serveLines_lastGiven st s []
  obtain ⟨p, -, -, hpair⟩ := hpairs "H1" "5.50" 5.5 hname (by decide) hnumber
    (.setDeflection, .getDeflection) (.head _)
  exact ⟨hname, hnumber, hdone, (hpair.shown s hdone).trans htext⟩

/-- A move of the magnet whose last step is refused is not answered with success, and still it has
changed what is shown of the field. -/
theorem setMagnetDAC_refused_moves :
    let st : Station := {}
    let s : Server SimulatedInstrument :=
      { instrument := { SimulatedInstrument.multicollector with refusedWrites := [20] } }
    let after := (s.serveLine st "SetMagnetDAC 6.5").2
    (s.serveLine st "SetMagnetDAC 6.5").1 ≠ doneReply
      ∧ (after.serveLine st "GetMagnetDAC").1 ≠ (s.serveLine st "GetMagnetDAC").1 := by
  decide +kernel

end Server

end SpectroRemote
