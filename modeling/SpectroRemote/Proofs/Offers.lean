import SpectroRemote.Proofs.Activation
import SpectroRemote.Proofs.ByteOrder
import SpectroRemote.Proofs.Deeds
import SpectroRemote.Proofs.Grammar

/-!
# What lists offer

Some requests list names, and others take one of these names as their argument. Lists are texts with
a separator between the names, and arguments are what is left of a text without the blanks around
it, so not every name comes through. Those that do are found again, and what is offered can be had
(`offers_usable`).
-/

namespace SpectroRemote

/-! ### Lists of names -/

/-- A name that a list with this separator can hold and a request can give. -/
structure IsItem (separator : Char) (name : String) : Prop where
  ne_empty : name ≠ ""
  solid : separator ∉ name.toList
  trimmed : trimmed name = name

instance (separator : Char) (name : String) : Decidable (IsItem separator name) :=
  decidable_of_iff (name ≠ "" ∧ separator ∉ name.toList ∧ trimmed name = name)
    ⟨fun h => ⟨h.1, h.2.1, h.2.2⟩, fun h => ⟨h.ne_empty, h.solid, h.trimmed⟩⟩

/-- The name of a verb alone is a request without an argument. -/
lemma Request.parse_name (verb : Verb) : parse verb.name = .ok ⟨verb, ""⟩ := by
  obtain ⟨hne, hsolid⟩ := verb.name_solid
  obtain ⟨c, rest, hname⟩ := List.exists_cons_of_ne_nil hne
  have hfront : Text.trimFront verb.name.toList = verb.name.toList := by
    rw [hname]
    exact Text.trimFront_cons_of_not_blank (hsolid c (hname ▸ .head _)) rest
  have htrimmed : SpectroRemote.trimmed verb.name = verb.name := by
    rw [SpectroRemote.trimmed, Text.trim, hfront, Text.trimBack_of_solid hsolid,
      String.ofList_toList]
  exact parse_of_spells (.inl ⟨htrimmed, rfl⟩)

namespace Server

variable {st : Station} {s : Server SimulatedInstrument}

/-! ### Cup configurations -/

lemma serveLine_getCupConfigurationList (st : Station) (s : Server SimulatedInstrument) :
    s.serveLine st Verb.getCupConfigurationList.name
      = ("\r".intercalate (s.instrument.cups.map (·.name)), s) := by
  rw [serveLine, Request.parse_name]
  rfl

lemma cupNamed_of_find? {name : String} {cup : Cup}
    (h : s.instrument.cups.find? (fun c => c.name = name) = some cup) :
    s.cupNamed name = (.ok cup, s) := by
  have hcups : s.allCups = .ok s.instrument.cups := rfl
  rw [cupNamed, hcups]
  dsimp only
  rw [h]

/-- The sub-cups of the first cup configuration of a name are listed. -/
lemma serveRequest_getSubCupConfigurationList {name : String} {cup : Cup} (hne : name ≠ "")
    (h : s.instrument.cups.find? (fun c => c.name = name) = some cup) (st : Station) :
    s.serveRequest st ⟨.getSubCupConfigurationList, name⟩
      = s.answer ("\r".intercalate (cup.subCups.map (·.name))) := by
  simp only [serveRequest, Request.givenArgument_of_ne hne, withValue, subCupNames,
    cupNamed_of_find? h]
  rfl

lemma serveLine_line_of_answer {verb : Verb} {name reply : String} (hname : trimmed name = name)
    (h : s.serveRequest st ⟨verb, name⟩ = s.answer reply) :
    s.serveLine st (Request.line verb name) = (reply, s) := by
  rw [serveLine, Request.parse_line, hname]
  dsimp only
  rw [h]
  rfl

/-- Configurations that are found can be activated, and are active then. -/
lemma choose_of_find? {cupName subCupName : String} {cup : Cup} {sub : SubCup}
    (hcup : s.instrument.cups.find? (fun c => c.name = cupName) = some cup)
    (hsub : cup.subCupNamed? subCupName = some sub)
    (hswitches : s.instrument.refusesCupChanges = false) :
    (s.choose cupName subCupName).1 = .ok ()
      ∧ (s.choose cupName subCupName).2.instrument.active = (cup.identifier, sub.identifier)
      ∧ (s.choose cupName subCupName).2.instrument.cups = s.instrument.cups := by
  obtain ⟨marked, hmarked⟩ : ∃ c, s.instrument.cupWithIdentifier? cup.identifier = some c := by
    rw [← Option.isSome_iff_exists, SimulatedInstrument.cupWithIdentifier?, List.find?_isSome]
    exact ⟨cup, List.mem_of_find?_eq_some hcup, decide_eq_true rfl⟩
  let i : SimulatedInstrument :=
    { s.instrument with active := (cup.identifier, sub.identifier) }
  let j : SimulatedInstrument := { i with pushes := i.pushes ++ [(cup.identifier, sub.identifier)] }
  let k : SimulatedInstrument := { j with cupChangeRequests := j.cupChangeRequests + 1 }
  have hmark : Instrument.setActive s.instrument cup.identifier sub.identifier = (.ok (), i) := by
    change s.instrument.setActive _ _ = _
    rw [SimulatedInstrument.setActive, hmarked]
  have hpush : Instrument.pushHardwareParameters i cup.identifier sub.identifier = (.ok (), j) :=
    rfl
  have hswitch : Instrument.requestCupChange j = (.ok (), k) := by
    change j.requestCupChange = _
    rw [SimulatedInstrument.requestCupChange]
    exact if_neg (Bool.eq_false_iff.mp hswitches)
  rw [choose, cupNamed_of_find? hcup]
  dsimp only
  rw [hsub]
  dsimp only
  rw [chooseIdentified, hmark]
  dsimp only
  rw [hpush]
  dsimp only
  rw [requestChange, hswitch]
  exact ⟨rfl, rfl, rfl⟩

/-- A sub-cup that the configured cup configuration has can be activated. The first one of its name
is active then, and both names are told if the configurations are told apart by their
identifiers. -/
lemma serveLine_setSubCupConfiguration {cup : Cup} {sub : SubCup}
    (hcup : s.instrument.cups.find? (fun c => c.name = st.settings.cups.cupConfiguration)
      = some cup)
    (hsub : sub ∈ cup.subCups) (hname : IsItem '\r' sub.name)
    (hswitches : s.instrument.refusesCupChanges = false) :
    let served := s.serveLine st (Request.line .setSubCupConfiguration sub.name)
    served.1 = doneReply
      ∧ (∃ chosen, cup.subCups.find? (fun c => c.name = sub.name) = some chosen
        ∧ served.2.instrument.active = (cup.identifier, chosen.identifier))
      ∧ ((s.instrument.cups.map (·.identifier)).Nodup →
        (cup.subCups.map (·.identifier)).Nodup →
          served.2.activePair = .ok (cup.name, sub.name)) := by
  intro served
  obtain ⟨chosen, hchosen⟩ : ∃ chosen, cup.subCupNamed? sub.name = some chosen := by
    rw [← Option.isSome_iff_exists, Cup.subCupNamed?, List.find?_isSome]
    exact ⟨sub, hsub, decide_eq_true rfl⟩
  obtain ⟨hdone, hactive, hcups⟩ := choose_of_find? hcup hchosen hswitches
  have hserved : served
      = (doneReply, (s.choose st.settings.cups.cupConfiguration sub.name).2) := by
    simp only [served]
    rw [serveLine, Request.parse_line, hname.trimmed]
    simp only [serveRequest, Request.givenArgument_of_ne hname.ne_empty, withValue, replied,
      setSubCup, chooseSubCup]
    split
    · next heq => rw [heq]
    · next heq =>
      rw [heq] at hdone
      cases hdone
  rw [hserved]
  refine ⟨rfl, ⟨chosen, hchosen, hactive⟩, fun hnodup hsubs => ?_⟩
  have hmem := List.mem_of_find?_eq_some hchosen
  have hchosenName : chosen.name = sub.name := by simpa using List.find?_some hchosen
  have hpair : Instrument.activePair
      (s.choose st.settings.cups.cupConfiguration sub.name).2.instrument
      = .ok (cup.name, chosen.name) :=
    SimulatedInstrument.activePair_eq hactive (hcups ▸ List.mem_of_find?_eq_some hcup) hmem
      (hcups ▸ hnodup) hsubs
  rw [activePair, hpair, hchosenName]

/-! ### Tunes -/

lemma serveLine_getTuningSettingsList (st : Station) (s : Server SimulatedInstrument) :
    s.serveLine st Verb.getTuningSettingsList.name = (st.tuneList, s) := by
  rw [serveLine, Request.parse_name]
  rfl

/-- A tune that is stored can be applied, and then its parameters have its values. -/
lemma serveLine_setTuningSettings {name : String} {tune : Tune} (hname : IsItem ',' name)
    (htune : st.tunes.get? name = some tune) (s : Server SimulatedInstrument) :
    (s.serveLine st (Request.line .setTuningSettings name)).1 = doneReply
      ∧ ∀ p v, tune.parameters.get? p = some v →
        (s.serveLine st (Request.line .setTuningSettings name)).2.instrument.value? p
          = some v := by
  have happlied : s.applyTune st name
      = (.ok (), { s with instrument := (s.instrument.applyTune tune).2 }.log .info
        ("Tune setting '" ++ name ++ "' successfully loaded")) := by
    rw [applyTune, htune]
    rfl
  rw [serveLine, Request.parse_line, hname.trimmed]
  simp only [serveRequest, Request.givenArgument_of_ne hname.ne_empty, withValue, happlied]
  refine ⟨rfl, fun p v hv => ?_⟩
  refine (Table.get?_insertAll tune.parameters.sorted s.instrument.parameters p).trans ?_
  change (tune.parameters.get? p).or _ = _
  rw [hv, Option.some_or]

/-- Stored names are in the order of their bytes. -/
lemma pairwise_keys (t : TuneStore) :
    t.keys.Pairwise fun a b => Text.encode a.toList < Text.encode b.toList := by
  refine List.pairwise_map.mpr (t.sorted.imp fun hab => ?_)
  exact Text.encode_lt_encode_iff.mpr (String.lt_iff_toList_lt.mp hab)

/-- Whatever a request lists can be asked for by another one: the configurations are active then,
and the parameters have the values of the tune. -/
theorem offers_usable (st : Station) {s : Server SimulatedInstrument}
    (hcups : ∀ cup ∈ s.instrument.cups,
      IsItem '\r' cup.name ∧ ∀ sub ∈ cup.subCups, IsItem '\r' sub.name)
    (htunes : ∀ name ∈ st.tunes.keys, IsItem ',' name)
    (hswitches : s.instrument.refusesCupChanges = false) :
    let cups := s.instrument.cups
    let first? (name : String) := cups.find? fun c => c.name = name
    (cups ≠ [] →
        items '\r' (s.serveLine st Verb.getCupConfigurationList.name).1 = cups.map (·.name))
      ∧ (∀ name ∈ cups.map (·.name), ∃ cup, first? name = some cup
        ∧ let list := "\r".intercalate (cup.subCups.map (·.name))
          s.serveRequest st ⟨.getSubCupConfigurationList, name⟩ = s.answer list
            ∧ s.serveLine st (Request.line .getSubCupConfigurationList name) = (list, s)
            ∧ (cup.subCups ≠ [] → items '\r' list = cup.subCups.map (·.name)))
      ∧ (∀ cup, first? st.settings.cups.cupConfiguration = some cup → ∀ sub ∈ cup.subCups,
        let served := s.serveLine st (Request.line .setSubCupConfiguration sub.name)
        served.1 = doneReply
          ∧ (∃ chosen, cup.subCups.find? (fun c => c.name = sub.name) = some chosen
            ∧ served.2.instrument.active = (cup.identifier, chosen.identifier))
          ∧ ((cups.map (·.identifier)).Nodup → (cup.subCups.map (·.identifier)).Nodup →
            served.2.activePair = .ok (cup.name, sub.name)))
      ∧ (st.tunes.keys ≠ [] →
        items ',' (s.serveLine st Verb.getTuningSettingsList.name).1 = st.tunes.keys)
      ∧ (st.tunes.keys.Pairwise fun a b => Text.encode a.toList < Text.encode b.toList)
      ∧ (∀ name, name ∈ st.tunes.keys ↔ st.tunes.get? name ≠ none)
      ∧ ∀ name ∈ st.tunes.keys, ∃ tune, st.tunes.get? name = some tune
        ∧ let served := s.serveLine st (Request.line .setTuningSettings name)
          served.1 = doneReply
            ∧ ∀ p v, tune.parameters.get? p = some v → served.2.instrument.value? p = some v := by
  intro cups first?
  have hsubs : ∀ cup ∈ cups, ∀ name ∈ cup.subCups.map (·.name), '\r' ∉ name.toList := by
    intro cup hcup name hname
    obtain ⟨sub, hsub, rfl⟩ := List.mem_map.mp hname
    exact ((hcups cup hcup).2 sub hsub).solid
  refine ⟨?_, ?_, ?_, ?_, pairwise_keys st.tunes, fun name => Table.mem_keys_iff, ?_⟩
  · intro hne
    rw [serveLine_getCupConfigurationList]
    refine items_intercalate (by simpa using hne) fun name hname => ?_
    obtain ⟨cup, hcup, rfl⟩ := List.mem_map.mp hname
    exact (hcups cup hcup).1.solid
  · intro name hname
    obtain ⟨listed, hlisted, rfl⟩ := List.mem_map.mp hname
    obtain ⟨cup, hcup⟩ : ∃ cup, first? listed.name = some cup := by
      rw [← Option.isSome_iff_exists, List.find?_isSome]
      exact ⟨listed, hlisted, decide_eq_true rfl⟩
    have hitem := (hcups listed hlisted).1
    have hserved := serveRequest_getSubCupConfigurationList hitem.ne_empty hcup st
    refine ⟨cup, hcup, hserved, serveLine_line_of_answer hitem.trimmed hserved, fun hne => ?_⟩
    exact items_intercalate (by simpa using hne) (hsubs cup (List.mem_of_find?_eq_some hcup))
  · intro cup hcup sub hsub
    have hitem := (hcups cup (List.mem_of_find?_eq_some hcup)).2 sub hsub
    exact serveLine_setSubCupConfiguration hcup hsub hitem hswitches
  · intro hne
    rw [serveLine_getTuningSettingsList]
    exact items_intercalate hne fun name hname => (htunes name hname).solid
  · intro name hname
    obtain ⟨tune, htune⟩ := Option.ne_none_iff_exists'.mp (Table.mem_keys_iff.mp hname)
    exact ⟨tune, htune, serveLine_setTuningSettings (htunes name hname) htune s⟩

/-- Names with spaces, commas and letters of other alphabets, two cup configurations of one name,
and tunes that were not stored in their order. -/
theorem offers_usable_twins :
    let st : Station :=
      { settings := { cups := { cupConfiguration := "Argon, hot" } }
        tunes := .ofList [("Ωmega", [("Trap Voltage Set", 7)]), ("Zn low", []), ("Argon 2", [])] }
    let cups : List Cup :=
      [⟨"cc-1", "Néon", [], []⟩, ⟨"cc-2", "Argon, hot", [⟨"sc-1", "Ar 40"⟩, ⟨"sc-2", "Ar,36"⟩], []⟩,
        ⟨"cc-3", "Argon, hot", [⟨"sc-3", "Ar 38"⟩], []⟩]
    let s : Server SimulatedInstrument :=
      { instrument := { SimulatedInstrument.multicollector with cups } }
    let chosen := s.serveLine st "SetSubCupConfiguration Ar,36"
    let tuned := s.serveLine st "SetTuningSettings Ωmega"
    (∀ cup ∈ s.instrument.cups, IsItem '\r' cup.name ∧ ∀ sub ∈ cup.subCups, IsItem '\r' sub.name)
      ∧ (∀ name ∈ st.tunes.keys, IsItem ',' name)
      ∧ s.instrument.refusesCupChanges = false
      ∧ items '\r' (s.serveLine st "GetCupConfigurationList").1
        = ["Néon", "Argon, hot", "Argon, hot"]
      ∧ s.serveLine st "GetSubCupConfigurationList Argon, hot" = ("Ar 40\rAr,36", s)
      ∧ chosen.1 = doneReply ∧ chosen.2.activePair = .ok ("Argon, hot", "Ar,36")
      ∧ items ',' (s.serveLine st "GetTuningSettingsList").1 = ["Argon 2", "Zn low", "Ωmega"]
      ∧ tuned.1 = doneReply ∧ tuned.2.instrument.value? "Trap Voltage Set" = some 7 := by
  intro st cups s chosen tuned
  have hcups : ∀ cup ∈ s.instrument.cups,
      IsItem '\r' cup.name ∧ ∀ sub ∈ cup.subCups, IsItem '\r' sub.name := by decide +kernel
  have htunes : ∀ name ∈ st.tunes.keys, IsItem ',' name := by decide +kernel
  obtain ⟨hlist, hsubs, hset, htuneList, -, -, htuned⟩ := offers_usable st hcups htunes rfl
  obtain ⟨cup, hcup, -, hlisted, -⟩ := hsubs "Argon, hot" (by decide)
  obtain ⟨tune, htune, hdone, hvalues⟩ := htuned "Ωmega" (by decide +kernel)
  cases hcup
  cases htune
  obtain ⟨hchosen, -, hactive⟩ := hset _ rfl ⟨"sc-2", "Ar,36"⟩ (by decide)
  refine ⟨hcups, htunes, rfl, hlist (by decide), hlisted, hchosen,
    hactive (by decide) (by decide), ?_, hdone, hvalues _ _ ?_⟩
  · exact htuneList (by decide +kernel)
  · decide +kernel

end Server

end SpectroRemote
