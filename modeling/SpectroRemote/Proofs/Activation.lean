import SpectroRemote.Instrument.Scripted
import SpectroRemote.Proofs.Lists
import SpectroRemote.Proofs.Requests

/-!
# Activation that fails

Configurations are found by name, marked as active, transferred to the hardware and switched to, in
this order. Each step can fail (`Chosen`). A failure before the mark leaves the names of the active
configurations as they were; a later one does not take the mark back (`choose_error_activePair`).
-/

namespace SpectroRemote.Server

section Steps

variable {σ : Type} [Instrument σ]

/-! ### Steps of an activation -/

/-- The names stand for this cup configuration and this sub-cup of it. -/
structure Found (s : Server σ) (cupName subCupName : String) (cup : Cup) (sub : SubCup) : Prop where
  listed : ∃ cups, Instrument.cups s.instrument = .ok cups
    ∧ cups.find? (fun c => c.name = cupName) = some cup
  sub : cup.subCupNamed? subCupName = some sub

/-- How an activation can end: with which answer, and with which instrument. -/
inductive Chosen (s : Server σ) (cupName subCupName : String) : Except Failure Unit → σ → Prop
  | unlisted {e : Refusal} (hcups : Instrument.cups s.instrument = .error e) :
    Chosen s cupName subCupName (.error (.lookup (.listUnavailable e.message))) s.instrument
  | unknownCup :
    Chosen s cupName subCupName (.error (.lookup (.unknownCup cupName))) s.instrument
  | unknownSubCup :
    Chosen s cupName subCupName (.error (.lookup (.unknownSubCup subCupName cupName))) s.instrument
  | unmarked {cup : Cup} {sub : SubCup} {e : Refusal} {i : σ}
    (hmark : Instrument.setActive s.instrument cup.identifier sub.identifier = (.error e, i)) :
    Chosen s cupName subCupName (.error (.lookup (.activationRefused e.message))) i
  | unpushed {cup : Cup} {sub : SubCup} {e : Refusal} {i j : σ}
    (hfound : s.Found cupName subCupName cup sub)
    (hmark : Instrument.setActive s.instrument cup.identifier sub.identifier = (.ok (), i))
    (hpush : Instrument.pushHardwareParameters i cup.identifier sub.identifier = (.error e, j)) :
    Chosen s cupName subCupName (.error .cupChangeRefused) j
  | unswitched {cup : Cup} {sub : SubCup} {e : Refusal} {i j k : σ}
    (hfound : s.Found cupName subCupName cup sub)
    (hmark : Instrument.setActive s.instrument cup.identifier sub.identifier = (.ok (), i))
    (hpush : Instrument.pushHardwareParameters i cup.identifier sub.identifier = (.ok (), j))
    (hswitch : Instrument.requestCupChange j = (.error e, k)) :
    Chosen s cupName subCupName (.error .cupChangeRefused) k
  | chosen {i : σ} : Chosen s cupName subCupName (.ok ()) i

lemma cupNamed_eq_ok {s s' : Server σ} {name : String} {cup : Cup}
    (h : s.cupNamed name = (.ok cup, s')) :
    s' = s ∧ ∃ cups, Instrument.cups s.instrument = .ok cups
      ∧ cups.find? (fun c => c.name = name) = some cup := by
  rw [cupNamed, allCups] at h
  cases hcups : Instrument.cups s.instrument with
  | error e =>
    rw [hcups] at h
    cases h
  | ok cups =>
    rw [hcups] at h
    dsimp only at h
    split at h
    · next c hfind =>
      cases h
      exact ⟨rfl, cups, rfl, hfind⟩
    · cases h

lemma cupNamed_eq_error {s s' : Server σ} {name : String} {e : Failure}
    (h : s.cupNamed name = (.error e, s')) :
    s'.instrument = s.instrument
      ∧ (e = .lookup (.unknownCup name) ∨
        ∃ r, Instrument.cups s.instrument = .error r
          ∧ e = .lookup (.listUnavailable r.message)) := by
  rw [cupNamed, allCups] at h
  cases hcups : Instrument.cups s.instrument with
  | error r =>
    rw [hcups] at h
    cases h
    exact ⟨rfl, .inr ⟨r, rfl, rfl⟩⟩
  | ok cups =>
    rw [hcups] at h
    dsimp only at h
    split at h
    · cases h
    · cases h
      exact ⟨rfl, .inl rfl⟩

theorem choose_chosen (s : Server σ) (cupName subCupName : String) :
    Chosen s cupName subCupName (s.choose cupName subCupName).1
      (s.choose cupName subCupName).2.instrument := by
  rw [choose]
  split
  · next e s' hcup =>
    obtain ⟨hinstrument, rfl | ⟨r, hcups, rfl⟩⟩ := cupNamed_eq_error hcup
    · exact hinstrument ▸ .unknownCup
    · exact hinstrument ▸ .unlisted hcups
  · next cup s' hcup =>
    obtain ⟨rfl, hlisted⟩ := cupNamed_eq_ok hcup
    split
    · exact .unknownSubCup
    · next sub hsub =>
      have hfound : s'.Found cupName subCupName cup sub := ⟨hlisted, hsub⟩
      rw [chooseIdentified]
      split
      · next hmark => exact .unmarked hmark
      · next hmark =>
        split
        · next hpush => exact .unpushed hfound hmark hpush
        · next hpush =>
          rw [requestChange]
          split
          · next hswitch => exact .unswitched hfound hmark hpush hswitch
          · exact .chosen

/-- The state right after the configurations of these names were marked as active. -/
def Marked (s : Server σ) (cupName subCupName : String) (marked : Server σ) : Prop :=
  ∃ cup sub i, s.Found cupName subCupName cup sub
    ∧ Instrument.setActive s.instrument cup.identifier sub.identifier = (.ok (), i)
    ∧ marked = { s with instrument := i }

lemma activePair_congr {s t : Server σ}
    (h : Instrument.activePair t.instrument = Instrument.activePair s.instrument) :
    t.activePair = s.activePair := by
  rw [activePair, activePair, h]

end Steps

end Server

/-! ### The active names of the instrument -/

/-- Configurations are active by their names if they are told apart by their identifiers. -/
lemma SimulatedInstrument.activePair_eq {i : SimulatedInstrument} {cup : Cup} {sub : SubCup}
    (hactive : i.active = (cup.identifier, sub.identifier)) (hcup : cup ∈ i.cups)
    (hsub : sub ∈ cup.subCups) (hcups : (i.cups.map (·.identifier)).Nodup)
    (hsubs : (cup.subCups.map (·.identifier)).Nodup) : i.activePair = .ok (cup.name, sub.name) := by
  have hfind : i.activeCup? = some cup := by
    rw [activeCup?, cupWithIdentifier?, hactive]
    exact find?_eq_some_of_nodup _ hcups hcup
  rw [activePair, hfind, hactive]
  dsimp only
  rw [find?_eq_some_of_nodup _ hsubs hsub]
  rfl

namespace ScriptedInstrument

lemma eq_of_setActive_error {i j : ScriptedInstrument} {cup subCup : String} {e : Refusal}
    (h : Instrument.setActive i cup subCup = (.error e, j)) : j = i := by
  change i.changeCups _ _ _ = _ at h
  rw [changeCups] at h
  split at h
  · cases h
  · rw [change] at h
    split at h
    · exact (Prod.mk.inj h).2.symm
    · rw [SimulatedInstrument.setActive] at h
      split at h
      · exact (Prod.mk.inj h).2.symm
      · cases h

lemma activePair_of_push {i j : ScriptedInstrument} {cup subCup : String}
    {answer : Except Refusal Unit}
    (h : Instrument.pushHardwareParameters i cup subCup = (answer, j)) :
    Instrument.activePair j = Instrument.activePair i := by
  change i.change _ _ = _ at h
  rw [change] at h
  split at h <;> · cases h; rfl

lemma activePair_of_requestCupChange {i j : ScriptedInstrument} {answer : Except Refusal Unit}
    (h : Instrument.requestCupChange i = (answer, j)) :
    Instrument.activePair j = Instrument.activePair i := by
  change i.change _ _ = _ at h
  rw [change] at h
  split at h
  · cases h; rfl
  · rw [SimulatedInstrument.requestCupChange] at h
    split at h <;> · cases h; rfl

/-- Without a table in its place, the simulated instrument marks what it is told to. -/
lemma active_of_setActive {i j : ScriptedInstrument} {cup subCup : String}
    (hroster : i.roster = none) (h : Instrument.setActive i cup subCup = (.ok (), j)) :
    j = { i with instrument := { i.instrument with active := (cup, subCup) } } := by
  change i.changeCups _ _ _ = _ at h
  rw [changeCups, hroster] at h
  split at h
  · next hsome => cases hsome
  · rw [change] at h
    split at h
    · cases h
    · rw [SimulatedInstrument.setActive] at h
      split at h
      · cases h
      · exact (Prod.mk.inj h).2.symm

/-- The instrument has its own configurations, tells which are active, and tells them all apart by
their identifiers. -/
structure IsIdentified (i : ScriptedInstrument) : Prop where
  roster : i.roster = none
  told : i.fault? .activePair = none
  cups : (i.instrument.cups.map (·.identifier)).Nodup
  subCups : ∀ cup ∈ i.instrument.cups, (cup.subCups.map (·.identifier)).Nodup

lemma cups_eq {i : ScriptedInstrument} (hroster : i.roster = none) {cups : List Cup}
    (h : Instrument.cups i = .ok cups) : cups = i.instrument.cups := by
  change i.query _ _ = _ at h
  rw [query, hroster] at h
  split at h
  · cases h
  · exact (Except.ok.inj h).symm

lemma activePair_eq {i : ScriptedInstrument} (hroster : i.roster = none)
    (htold : i.fault? .activePair = none) :
    Instrument.activePair i = i.instrument.activePair := by
  change i.query _ _ = _
  rw [query, htold, hroster]

end ScriptedInstrument

namespace Server

/-- Configurations that are told apart are active by their names as soon as they are marked. -/
lemma Marked.activePair_eq {s marked : Server ScriptedInstrument} {cupName subCupName : String}
    (h : s.Marked cupName subCupName marked) (hid : s.instrument.IsIdentified) :
    marked.activePair = .ok (cupName, subCupName) := by
  obtain ⟨cup, sub, i, ⟨⟨cups, hcups, hcup⟩, hsub⟩, hmark, rfl⟩ := h
  obtain rfl := ScriptedInstrument.cups_eq hid.roster hcups
  have hi := ScriptedInstrument.active_of_setActive hid.roster hmark
  have hmem := List.mem_of_find?_eq_some hcup
  have hname : cup.name = cupName := by simpa using List.find?_some hcup
  have hsubName : sub.name = subCupName := by simpa using List.find?_some hsub
  have hpair : i.instrument.activePair = .ok (cup.name, sub.name) := by
    rw [hi]
    exact SimulatedInstrument.activePair_eq rfl hmem (List.mem_of_find?_eq_some hsub) hid.cups
      (hid.subCups cup hmem)
  have htold : i.roster = none ∧ i.fault? .activePair = none := by
    rw [hi]
    exact ⟨hid.roster, hid.told⟩
  rw [activePair]
  dsimp only
  rw [ScriptedInstrument.activePair_eq htold.1 htold.2, hpair, hname, hsubName]

/-! ### Activations that fail -/

/-- The names of the active configurations are asked for, and both states give the same reply. -/
def RepliesAlike {σ : Type} [Instrument σ] (st : Station) (s t : Server σ) : Prop :=
  ∀ query verb argument, Request.parse query = .ok ⟨verb, argument⟩ →
    verb = .getActiveCupConfiguration ∨ verb = .getActiveSubCupConfiguration →
      (s.serveLine st query).1 = (t.serveLine st query).1

lemma repliesAlike_of_activePair {σ : Type} [Instrument σ] {st : Station} {s t : Server σ}
    (h : s.activePair = t.activePair) : s.RepliesAlike st t := by
  intro query verb argument hparse hverb
  rw [serveLine, serveLine, hparse]
  rcases hverb with rfl | rfl
  all_goals
    simp only [serveRequest, h]
    cases t.activePair <;> rfl

/-- A failure before the mark leaves the active names as they were, and any other failure leaves
them as they were right after the mark. -/
lemma Chosen.activePair {s t : Server ScriptedInstrument} {cupName subCupName : String}
    {e : Failure} (h : Chosen s cupName subCupName (.error e) t.instrument) :
    (∃ cause, e = .lookup cause) ∧ t.activePair = s.activePair
      ∨ e = .cupChangeRefused ∧ ∃ marked, s.Marked cupName subCupName marked
        ∧ t.activePair = marked.activePair := by
  generalize hi : t.instrument = i at h
  cases h with
  | unlisted | unknownCup | unknownSubCup =>
    exact .inl ⟨⟨_, rfl⟩, activePair_congr (by rw [hi])⟩
  | unmarked hmark =>
    rw [ScriptedInstrument.eq_of_setActive_error hmark] at hi
    exact .inl ⟨⟨_, rfl⟩, activePair_congr (by rw [hi])⟩
  | unpushed hfound hmark hpush =>
    refine .inr ⟨rfl, _, ⟨_, _, _, hfound, hmark, rfl⟩, activePair_congr ?_⟩
    rw [hi, ScriptedInstrument.activePair_of_push hpush]
  | unswitched hfound hmark hpush hswitch =>
    refine .inr ⟨rfl, _, ⟨_, _, _, hfound, hmark, rfl⟩, activePair_congr ?_⟩
    rw [hi, ScriptedInstrument.activePair_of_requestCupChange hswitch,
      ScriptedInstrument.activePair_of_push hpush]

/-- A request for a sub-cup that is answered with an error has no name or fails to activate. -/
lemma serveLine_setSubCup {σ : Type} [Instrument σ] {st : Station} {s : Server σ}
    {line name : String} (hparse : Request.parse line = .ok ⟨.setSubCupConfiguration, name⟩)
    (herror : (s.serveLine st line).1 ≠ doneReply) :
    name = "" ∧ (s.serveLine st line).2 = s
      ∨ name ≠ "" ∧ ∃ e, (s.choose st.settings.cups.cupConfiguration name).1 = .error e
        ∧ (s.serveLine st line).2.instrument
          = (s.choose st.settings.cups.cupConfiguration name).2.instrument := by
  rw [serveLine, hparse] at herror ⊢
  simp only [serveRequest, Request.givenArgument] at herror ⊢
  by_cases hname : name = ""
  · subst hname
    exact .inl ⟨rfl, rfl⟩
  · have hgiven : name.isEmpty = false := by simpa using hname
    simp only [hgiven, Bool.false_eq_true, if_false, withValue, replied, setSubCup,
      chooseSubCup] at herror ⊢
    refine .inr ⟨hname, ?_⟩
    rcases hchoose : s.choose st.settings.cups.cupConfiguration name with ⟨⟨e⟩ | ⟨⟨⟩⟩, t⟩
    · exact ⟨e, rfl, rfl⟩
    · rw [hchoose] at herror
      exact absurd rfl herror

/-- An activation that fails because a configuration is not found or cannot be marked as active
leaves the active names as they were. If the transfer or the switch is refused, the names are those
that were marked before; these are the names that were asked for, if configurations are told apart.
A request that is answered with an error changes the replies to queries for the active names in
just the same way. -/
theorem choose_error_activePair (st : Station) (s : Server ScriptedInstrument) :
    (∀ cupName subCupName e, (s.choose cupName subCupName).1 = .error e →
      let after := (s.choose cupName subCupName).2
      (∃ cause, e = .lookup cause) ∧ after.activePair = s.activePair
        ∨ e = .cupChangeRefused ∧ ∃ marked, s.Marked cupName subCupName marked
          ∧ after.activePair = marked.activePair
          ∧ (s.instrument.IsIdentified → after.activePair = .ok (cupName, subCupName)))
      ∧ ∀ line name, Request.parse line = .ok ⟨.setSubCupConfiguration, name⟩ →
        (s.serveLine st line).1 ≠ doneReply →
          let cupName := st.settings.cups.cupConfiguration
          let after := (s.serveLine st line).2
          (name = "" ∨ (s.choose cupName name).1 ≠ .error .cupChangeRefused →
              after.RepliesAlike st s)
            ∧ (name ≠ "" → (s.choose cupName name).1 = .error .cupChangeRefused →
              ∃ marked, s.Marked cupName name marked ∧ after.RepliesAlike st marked) := by
  constructor
  · intro cupName subCupName e he after
    have h := choose_chosen s cupName subCupName
    rw [he] at h
    refine h.activePair.imp_right fun ⟨hrefused, marked, hmarked, hpair⟩ => ?_
    exact ⟨hrefused, marked, hmarked, hpair, fun hid => hpair.trans (hmarked.activePair_eq hid)⟩
  · intro line name hparse herror cupName after
    rcases serveLine_setSubCup hparse herror with ⟨hempty, hsame⟩ | ⟨hname, e, he, hinstrument⟩
    · exact ⟨fun _ => repliesAlike_of_activePair (congrArg _ hsame), fun hne => absurd hempty hne⟩
    · have h := choose_chosen s cupName name
      rw [he, ← hinstrument] at h
      rcases h.activePair with ⟨⟨cause, rfl⟩, hpair⟩ | ⟨rfl, marked, hmarked, hpair⟩
      · refine ⟨fun _ => repliesAlike_of_activePair hpair, fun _ hrefused => ?_⟩
        rw [he] at hrefused
        cases hrefused
      · refine ⟨fun hnot => ?_, fun _ _ => ⟨marked, hmarked, repliesAlike_of_activePair hpair⟩⟩
        exact absurd he (hnot.resolve_left hname)

/-- A multicollector that refuses to switch: the activation fails, and the names are those that were
asked for. -/
theorem choose_error_activePair_ne :
    let st : Station := {}
    let s : Server ScriptedInstrument :=
      { instrument := { instrument :=
          { SimulatedInstrument.multicollector with refusesCupChanges := true } } }
    (s.choose "Argon" "Ar36").1 = .error .cupChangeRefused
      ∧ (s.choose "Argon" "Ar36").2.activePair ≠ s.activePair
      ∧ (s.serveLine st "SetSubCupConfiguration Ar36").1
        = "Error: could not set sub cup to Ar36"
      ∧ ((s.serveLine st "SetSubCupConfiguration Ar36").2.serveLine st
          "GetActiveSubCupConfiguration").1
        ≠ (s.serveLine st "GetActiveSubCupConfiguration").1 := by
  intro st s
  have hbefore : s.activePair = .ok ("Argon", "Ar40") := rfl
  have hafter : (s.choose "Argon" "Ar36").2.activePair = .ok ("Argon", "Ar36") := rfl
  refine ⟨rfl, ?_, by decide +kernel, by decide +kernel⟩
  rw [hbefore, hafter]
  intro h
  exact absurd (congrArg Prod.snd (Except.ok.inj h)) (by decide)

end Server

end SpectroRemote
