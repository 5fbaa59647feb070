import Mathlib.Data.List.Induction
import SpectroRemote.Proofs.Blanking
import SpectroRemote.Proofs.Deeds

/-!
# A blanked beam

Blanking writes the blank value to the y symmetry once. A request to blank the beam again does
nothing, whatever was written in between. So the y symmetry is at the blank value after every
successful request to blank the beam, if no other request gave it a value since it was blanked
(`value?_of_blankBeam_done`).
-/

namespace SpectroRemote

/-! ### The last deed on a parameter -/

/-- The last deed that gave a value to a parameter. -/
def lastDeed? (i : SimulatedInstrument) (p : String) (deeds : List Deed) : Option Deed :=
  (deeds.filter fun d => (d.value? i p).isSome).getLast?

lemma lastDeed?_append (i : SimulatedInstrument) (p : String) (deeds more : List Deed) :
    lastDeed? i p (deeds ++ more) = (lastDeed? i p more).or (lastDeed? i p deeds) := by
  rw [lastDeed?, List.filter_append, List.getLast?_append, lastDeed?, lastDeed?]

lemma lastDeed?_singleton (i : SimulatedInstrument) (p : String) (d : Deed) :
    lastDeed? i p [d] = if (d.value? i p).isSome then some d else none := by
  rw [lastDeed?, List.filter_cons]
  split <;> rfl

/-- The last deed on a parameter gave it the value that it was given last. -/
lemma lastGiven_of_lastDeed? {i : SimulatedInstrument} {p : String} {deeds : List Deed} {d : Deed}
    (h : lastDeed? i p deeds = some d) : lastGiven i p deeds = d.value? i p := by
  induction deeds using List.reverseRecOn with
  | nil => cases h
  | append_singleton deeds last ih =>
    rw [lastDeed?_append, lastDeed?_singleton] at h
    rw [lastGiven_append]
    cases hvalue : last.value? i p with
    | none =>
      rw [hvalue] at h
      rw [List.filterMap_cons_none hvalue]
      exact ih h
    | some v =>
      rw [hvalue] at h
      obtain rfl := Option.some.inj h
      rw [List.filterMap_cons_some hvalue, hvalue]
      rfl

/-- If the last deed on a parameter satisfies a condition, it is the last one of those that do. -/
lemma lastDeed?_filter {i : SimulatedInstrument} {p : String} {deeds : List Deed} {d : Deed}
    {q : Deed → Bool} (h : lastDeed? i p deeds = some d) (hq : q d = true) :
    lastDeed? i p (deeds.filter q) = some d := by
  obtain ⟨before, hbefore⟩ := List.getLast?_eq_some_iff.mp h
  rw [lastDeed?, List.filter_filter]
  have hswap : (deeds.filter fun d => (d.value? i p).isSome && q d)
      = (deeds.filter fun d => (d.value? i p).isSome).filter q := by
    rw [List.filter_filter]
    exact List.filter_congr fun d _ => Bool.and_comm _ _
  rw [hswap, hbefore, List.filter_append, List.filter_cons_of_pos hq]
  exact List.getLast?_concat

lemma lastDeed?_filter_of_none {i : SimulatedInstrument} {p : String} {deeds : List Deed}
    (h : lastDeed? i p deeds = none) (q : Deed → Bool) : lastDeed? i p (deeds.filter q) = none := by
  rw [lastDeed?, List.getLast?_eq_none_iff, List.filter_eq_nil_iff] at h ⊢
  exact fun d hd => h d (List.mem_filter.mp hd).1

namespace Server

variable {st : Station} {s : Server SimulatedInstrument} {line : String} {r : Request}

/-! ### The deeds of a request to blank or to restore the beam -/

lemma lineDeeds_of_instrument_eq (hparse : Request.parse line = .ok r)
    (hverb : r.verb ≠ .setTuningSettings)
    (h : (s.serveLine st line).2.instrument = s.instrument) : s.lineDeeds st line = [] := by
  rw [lineDeeds_of_parse hparse, lineAttempts, h, ← Array.length_toList, List.drop_length,
    Request.tune?_of_ne hverb]
  rfl

lemma lineDeeds_of_write (hparse : Request.parse line = .ok r)
    (hverb : r.verb ≠ .setTuningSettings) {name : String} {v : Float}
    (h : (s.serveLine st line).2.instrument = (s.instrument.writeParameter name v).2) :
    s.lineDeeds st line = [.attempt r.verb (s.instrument.writes.size + 1) name v] := by
  have hwrites := (Change.spares (.write name v) s.instrument).writes
  rw [lineDeeds_of_parse hparse, lineAttempts, h]
  change _ ++ _ = (_ : List Deed)
  rw [show (s.instrument.writeParameter name v).2.writes.toList
      = s.instrument.writes.toList ++ [(name, v)] from hwrites,
    List.drop_left' Array.length_toList, Request.tune?_of_ne hverb]
  rfl

/-- The deed of an attempt gives the value if the attempt is accepted. -/
lemma value?_attempt {i : SimulatedInstrument} {verb : Verb} {name : String} {v : Float}
    {answer : Except Refusal Unit} {i' : SimulatedInstrument}
    (h : i.writeParameter name v = (answer, i')) :
    (Deed.attempt verb (i.writes.size + 1) name v).value? i name
      = if answer.isOk then some v else none := by
  rw [SimulatedInstrument.writeParameter] at h
  rw [Deed.value?]
  cases hr : i.refuses (i.writes.size + 1) name with
  | true =>
    rw [hr, if_pos rfl] at h
    cases h
    exact if_neg fun h => Bool.false_ne_true h.2.symm
  | false =>
    rw [hr, if_neg Bool.false_ne_true] at h
    cases h
    exact if_pos ⟨rfl, rfl⟩

/-! ### What a blanked beam tells -/

/-- The deed belongs to a request to blank or to restore the beam. -/
def IsBlanking (d : Deed) : Bool := d.verb = .blankBeam

/-- If the beam counts as blanked, the last write that was accepted from a request to blank or to
restore it gave the y symmetry the blank value. -/
def TellsBlanked (st : Station) (i : SimulatedInstrument) (b : Blanking) (deeds : List Deed) :
    Prop :=
  b.isBlanked = true → ∃ d, lastDeed? i st.settings.hardware.ySymmetry (deeds.filter IsBlanking)
      = some d ∧ d.value? i st.settings.hardware.ySymmetry = some st.settings.beamBlank.blankValue

/-- Deeds that give the y symmetry no value, and no request to blank the beam, change nothing about
what is told. -/
lemma TellsBlanked.append {i : SimulatedInstrument} {b : Blanking} {deeds more : List Deed}
    (h : TellsBlanked st i b deeds)
    (hmore : lastDeed? i st.settings.hardware.ySymmetry (more.filter IsBlanking) = none) :
    TellsBlanked st i b (deeds ++ more) := by
  intro hblanked
  rw [List.filter_append, lastDeed?_append, hmore]
  exact h hblanked

/-- Serving a request to blank or to restore the beam keeps to what a blanked beam tells. -/
lemma Switched.tellsBlanked {argument : String}
    (hparse : Request.parse line = .ok ⟨.blankBeam, argument⟩) {i : SimulatedInstrument}
    (hrefuses : s.instrument.refuses = i.refuses) {deeds : List Deed}
    (h : TellsBlanked st i s.blank deeds) {wish : Bool}
    (hswitched : Switched st s wish (s.serveLine st line).2.instrument
      (s.serveLine st line).2.blank) :
    TellsBlanked st i (s.serveLine st line).2.blank (deeds ++ s.lineDeeds st line) := by
  have hverb : Verb.blankBeam ≠ .setTuningSettings := by decide
  -- the deeds of the line, and which of them gave the y symmetry a value
  have hnone (hsame : (s.serveLine st line).2.instrument = s.instrument) :
      s.lineDeeds st line = [] := lineDeeds_of_instrument_eq hparse hverb hsame
  have hwritten {v : Float} {answer : Except Refusal Unit} {i' : SimulatedInstrument}
      (hwrite : s.instrument.writeParameter st.settings.hardware.ySymmetry v = (answer, i'))
      (hafter : (s.serveLine st line).2.instrument = i') :
      ∃ d, s.lineDeeds st line = [d] ∧ IsBlanking d = true
        ∧ d.value? i st.settings.hardware.ySymmetry = if answer.isOk then some v else none := by
    refine ⟨_, lineDeeds_of_write hparse hverb (hafter.trans (congrArg Prod.snd hwrite).symm), rfl,
      ?_⟩
    rw [← Deed.value?_congr hrefuses]
    exact value?_attempt hwrite
  have hrefused {v : Float} {e : Refusal} {i' : SimulatedInstrument}
      (hwrite : s.instrument.writeParameter st.settings.hardware.ySymmetry v = (.error e, i'))
      (hafter : (s.serveLine st line).2.instrument = i') :
      TellsBlanked st i s.blank (deeds ++ s.lineDeeds st line) := by
    obtain ⟨d, hdeeds, hblanking, hvalue⟩ := hwritten hwrite hafter
    refine h.append ?_
    rw [hdeeds, List.filter_cons_of_pos hblanking, List.filter_nil, lastDeed?_singleton, hvalue]
    rfl
  generalize hafter : (s.serveLine st line).2.instrument = i' at hswitched
  generalize (s.serveLine st line).2.blank = b at hswitched ⊢
  cases hswitched with
  | idle => rw [hnone hafter]; exact h.append rfl
  | unreadable => rw [hnone hafter]; exact h.append rfl
  | blankRefused _ hwrite => exact hrefused hwrite hafter
  | restoreRefused _ hwrite => exact hrefused hwrite hafter
  | blanked _ _ hwrite =>
    intro _
    obtain ⟨d, hdeeds, hblanking, hvalue⟩ := hwritten hwrite hafter
    refine ⟨d, ?_, hvalue⟩
    rw [hdeeds, List.filter_append, List.filter_cons_of_pos hblanking, List.filter_nil,
      lastDeed?_append, lastDeed?_singleton, hvalue]
    rfl
  | restored => intro hblanked; cases hblanked

/-- Serving any line keeps to what a blanked beam tells. -/
lemma serveLine_tellsBlanked (st : Station) (s : Server SimulatedInstrument) (line : String)
    {i : SimulatedInstrument} (hrefuses : s.instrument.refuses = i.refuses) {deeds : List Deed}
    (h : TellsBlanked st i s.blank deeds) :
    TellsBlanked st i (s.serveLine st line).2.blank (deeds ++ s.lineDeeds st line) := by
  cases hparse : Request.parse line with
  | error e =>
    rw [lineDeeds_of_parse_error hparse, serveLine_of_parse_error hparse]
    exact h.append rfl
  | ok r =>
    by_cases hverb : r.verb = .blankBeam
    · obtain ⟨verb, argument⟩ := r
      subst hverb
      rcases serveRequest_blankBeam st s argument with ⟨hsame, -⟩ | hswitched
      · rw [← serveLine_of_parse hparse] at hsame
        have htune : Verb.blankBeam ≠ .setTuningSettings := by decide
        rw [lineDeeds_of_instrument_eq hparse htune (by rw [hsame]), hsame]
        exact h.append rfl
      · rw [← serveLine_of_parse hparse] at hswitched
        exact hswitched.tellsBlanked hparse hrefuses h
    · have hblank : (s.serveLine st line).2.blank = s.blank := by
        rw [serveLine_of_parse hparse]
        exact (serveRequest_reaches st s r).blank_eq fun _ => hverb
      rw [hblank]
      refine h.append ?_
      rw [List.filter_eq_nil_iff.mpr fun d hd => ?_]
      · rfl
      · rw [IsBlanking, verb_of_mem_lineDeeds hparse hd]
        simpa using hverb

lemma serveLines_tellsBlanked (st : Station) (lines : List String)
    (s : Server SimulatedInstrument) {i : SimulatedInstrument}
    (hrefuses : s.instrument.refuses = i.refuses) {deeds : List Deed}
    (h : TellsBlanked st i s.blank deeds) :
    TellsBlanked st i (s.serveLines st lines).2.blank (deeds ++ s.deeds st lines) := by
  induction lines generalizing s deeds with
  | nil => exact h.append rfl
  | cons line rest ih =>
    have hline := (s.lineDeeds_explains st line).refuses
    rw [Server.deeds, serveLines_cons, ← List.append_assoc]
    exact ih _ (hline.trans hrefuses) (serveLine_tellsBlanked st s line hrefuses h)

/-! ### Requests to blank the beam -/

/-- After a successful request to blank the beam it counts as blanked. -/
lemma isBlanked_of_switchBlanking (enabled : st.settings.beamBlank.enabled = true)
    (h : (s.switchBlanking st true).1 = doneReply) :
    (s.switchBlanking st true).2.blank.isBlanked = true := by
  revert h
  unfold switchBlanking
  rw [enabled, if_neg (by decide)]
  cases hblanked : s.blank.isBlanked with
  | true => exact fun _ => hblanked
  | false =>
    unfold blankBeam
    dsimp only
    split
    · exact fun h => absurd h (Failure.reply_ne_done _)
    · split
      · exact fun h => absurd h (Failure.reply_ne_done _)
      · exact fun _ => rfl

lemma isBlanked_of_serveLine (enabled : st.settings.beamBlank.enabled = true)
    (hparse : Request.parse line = .ok ⟨.blankBeam, "true"⟩)
    (h : (s.serveLine st line).1 = doneReply) :
    (s.serveLine st line).2.blank.isBlanked = true := by
  have hrequest : s.serveRequest st ⟨.blankBeam, "true"⟩ = replied (s.switchBlanking st true) := by
    simp only [serveRequest, enabled]
    rfl
  rw [serveLine_reply hparse, hrequest] at h
  rw [serveLine_of_parse hparse, hrequest]
  exact isBlanked_of_switchBlanking enabled h

/-- From a server whose beam is not blanked, after any requests. -/
lemma value?_of_done (enabled : st.settings.beamBlank.enabled = true)
    (fresh : s.blank.isBlanked = false) (lines : List String)
    (hparse : Request.parse line = .ok ⟨.blankBeam, "true"⟩)
    (hdone : ((s.serveLines st lines).2.serveLine st line).1 = doneReply)
    (hlast : ∀ d ∈ lastDeed? s.instrument st.settings.hardware.ySymmetry
      (s.deeds st (lines ++ [line])), d.verb = .blankBeam) :
    ((s.serveLines st lines).2.serveLine st line).2.instrument.value? st.settings.hardware.ySymmetry
      = some st.settings.beamBlank.blankValue := by
  have hafter : (s.serveLines st (lines ++ [line])).2
      = ((s.serveLines st lines).2.serveLine st line).2 := serveLines_concat st s lines line
  have hstart : TellsBlanked st s.instrument s.blank [] := fun h => by
    rw [fresh] at h
    cases h
  have htells : TellsBlanked st s.instrument (s.serveLines st (lines ++ [line])).2.blank
      (s.deeds st (lines ++ [line])) :=
    serveLines_tellsBlanked st (lines ++ [line]) s rfl hstart
  have hvalue := (s.deeds_explains st (lines ++ [line])).value st.settings.hardware.ySymmetry
  rw [hafter] at htells hvalue
  obtain ⟨d, hd, hblank⟩ := htells (isBlanked_of_serveLine enabled hparse hdone)
  -- the last deed on the y symmetry is the last one from a request to blank the beam
  cases hdeed : lastDeed? s.instrument st.settings.hardware.ySymmetry
      (s.deeds st (lines ++ [line])) with
  | none =>
    rw [lastDeed?_filter_of_none hdeed] at hd
    cases hd
  | some last =>
    have hsame := lastDeed?_filter hdeed (q := IsBlanking)
      (decide_eq_true (hlast last (by rw [hdeed]; rfl)))
    rw [hd] at hsame
    obtain rfl := Option.some.inj hsame
    rw [hvalue, lastGiven_of_lastDeed? hdeed, hblank]

lemma isBlanked_makeReady (st : Station) (s : Server SimulatedInstrument) :
    (s.makeReady st).blank.isBlanked = s.blank.isBlanked := by
  have hprime (s : Server SimulatedInstrument) :
      (s.primeBlank st).blank.isBlanked = s.blank.isBlanked := by
    rw [primeBlank]
    split <;> rfl
  rw [makeReady]
  split
  · rw [hprime]
  · rw [hprime]
    rfl

/-- After any requests to a server that was made ready, the y symmetry is at the blank value when a
request to blank the beam is answered with success, provided that the last write or tune that gave
it a value came from a request to blank or to restore the beam. -/
theorem value?_of_blankBeam_done (st : Station) (enabled : st.settings.beamBlank.enabled = true)
    (i : SimulatedInstrument) (lines : List String) (line : String)
    (hparse : Request.parse line = .ok ⟨.blankBeam, "true"⟩) :
    let start := Server.makeReady st { instrument := i }
    let before := (start.serveLines st lines).2
    (before.serveLine st line).1 = doneReply →
      (∀ d ∈ lastDeed? start.instrument st.settings.hardware.ySymmetry
        (start.deeds st (lines ++ [line])), d.verb = .blankBeam) →
      (before.serveLine st line).2.instrument.value? st.settings.hardware.ySymmetry
        = some st.settings.beamBlank.blankValue := by
  intro start before hdone hlast
  have fresh : start.blank.isBlanked = false := isBlanked_makeReady st _
  exact value?_of_done enabled fresh lines hparse hdone hlast

/-- A multicollector is asked to blank the beam twice, with another parameter set in between. -/
theorem value?_of_blankBeam_done_twice :
    let st : Station := { settings := { beamBlank := { enabled := true } } }
    let start := Server.makeReady st { instrument := SimulatedInstrument.multicollector }
    let lines := ["BlankBeam true", "SetZSymmetry 3"]
    let before := (start.serveLines st lines).2
    st.settings.beamBlank.enabled = true
      ∧ Request.parse "BlankBeam true" = .ok ⟨.blankBeam, "true"⟩
      ∧ (before.serveLine st "BlankBeam true").1 = doneReply
      ∧ (∀ d ∈ lastDeed? start.instrument st.settings.hardware.ySymmetry
          (start.deeds st (lines ++ ["BlankBeam true"])), d.verb = .blankBeam)
      ∧ (before.serveLine st "BlankBeam true").2.instrument.value?
          st.settings.hardware.ySymmetry = some st.settings.beamBlank.blankValue := by
  intro st start lines before
  have hparse : Request.parse "BlankBeam true" = .ok ⟨.blankBeam, "true"⟩ := by decide +kernel
  have hdone : (before.serveLine st "BlankBeam true").1 = doneReply := by decide +kernel
  have hlast : ∀ d ∈ lastDeed? start.instrument st.settings.hardware.ySymmetry
      (start.deeds st (lines ++ ["BlankBeam true"])), d.verb = .blankBeam := by decide +kernel
  have h := value?_of_blankBeam_done st rfl SimulatedInstrument.multicollector lines
    "BlankBeam true" hparse
  refine ⟨rfl, hparse, hdone, hlast, ?_⟩
  unfold before start
  exact h hdone hlast

/-- A request to blank the beam again is answered with success and leaves the y symmetry where it
was set in between. -/
theorem blankBeam_done_value?_ne :
    let st : Station := { settings := { beamBlank := { enabled := true } } }
    let start := Server.makeReady st { instrument := SimulatedInstrument.multicollector }
    let before := (start.serveLines st ["BlankBeam true", "SetYSymmetry 5"]).2
    (before.serveLine st "BlankBeam true").1 = doneReply
      ∧ (before.serveLine st "BlankBeam true").2.instrument.value? st.settings.hardware.ySymmetry
        ≠ some st.settings.beamBlank.blankValue := by
  decide +kernel

end Server

end SpectroRemote
