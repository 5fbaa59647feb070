import SpectroRemote.Proofs.Deeds
import SpectroRemote.Proofs.Rejection
import SpectroRemote.Proofs.Switches
import SpectroRemote.Proofs.Turns

/-!
# Switching the ion counters

The ion counters of the active cup configuration are switched one after the other. The server looks
at its own copy of the configuration, and the instrument finds each collector by its identifier.
Where identifiers and names are told apart, exactly the connected counters are switched that the
instrument does not refuse to switch (`setIonCounters_eq`), and the last of several requests decides
(`setIonCounters_switches`).
-/

namespace SpectroRemote

/-! ### The active cup configuration -/

/-- If the active names are told, there is an active cup configuration, and it has the first of them
as its name. -/
lemma SimulatedInstrument.activeCup?_of_activePair {i : SimulatedInstrument}
    {names : String × String} (h : i.activePair = .ok names) :
    ∃ c, i.activeCup? = some c ∧ c.name = names.1 := by
  rw [activePair] at h
  split at h
  · cases h
  · next c hc =>
    cases h
    exact ⟨c, hc, rfl⟩

lemma ScriptedInstrument.fault?_of_activePair {i : ScriptedInstrument} {names : String × String}
    (h : Instrument.activePair i = .ok names) : i.fault? .activePair = none := by
  change i.query _ _ = _ at h
  rw [query] at h
  split at h
  · cases h
  · next hfault => exact hfault

/-- Where configurations are told apart, the server finds the active one if there is one and it gets
an answer to its questions. -/
lemma Server.activeCup_eq_ok_iff {s : Server ScriptedInstrument}
    (hroster : s.instrument.roster = none) (htold : ToldApart s.instrument.instrument.cups)
    {cup : Cup} :
    s.activeCup.1 = .ok cup ↔ s.instrument.fault? .cups = none
      ∧ s.instrument.fault? .activePair = none
      ∧ s.instrument.instrument.activeCup? = some cup := by
  have hfirst {c : Cup} (hc : s.instrument.instrument.activeCup? = some c) :
      s.instrument.instrument.cups.find? (fun d => d.name = c.name) = some c :=
    find?_eq_some_of_nodup _ htold.names (List.mem_of_find?_eq_some hc)
  constructor
  · intro h
    rw [activeCup, activePair] at h
    cases hnames : Instrument.activePair s.instrument with
    | error e =>
      rw [hnames] at h
      cases h
    | ok names =>
      rw [hnames] at h
      obtain ⟨-, cups, hcups, hfound⟩ := cupNamed_eq_ok (Prod.ext h rfl)
      have hpair := ScriptedInstrument.fault?_of_activePair hnames
      obtain rfl := ScriptedInstrument.cups_eq hroster hcups
      rw [ScriptedInstrument.activePair_eq hroster hpair] at hnames
      obtain ⟨c, hc, hname⟩ := SimulatedInstrument.activeCup?_of_activePair hnames
      rw [← hname, hfirst hc] at hfound
      exact ⟨ScriptedInstrument.fault?_of_cups hcups, hpair, hc.trans hfound⟩
  · rintro ⟨hlisted, hpair, hcup⟩
    rw [activeCup_of_first hroster hlisted hpair hcup (hfirst hcup)]

/-! ### Collectors that are refused -/

namespace ScriptedInstrument

/-- The instrument refuses to switch the collectors of this identifier. -/
def refusesSwitch (i : ScriptedInstrument) (collector : String) : Bool :=
  (i.fault? .switchCollector).isSome || (i.fault? (.switchOneCollector collector)).isSome

/-- The collector is a connected counter that the instrument does not refuse to switch. -/
def switchesCounter (i : ScriptedInstrument) (item : Collector) : Bool :=
  item.isConnectedCounter && !i.refusesSwitch item.identifier

lemma ignoresSwitch_switchesCounter (i : ScriptedInstrument) : IgnoresSwitch i.switchesCounter :=
  fun _ _ => rfl

/-- The collector has the identifier of one of the others, and the instrument does not refuse to
switch it. -/
def switchesOneOf (i : ScriptedInstrument) (others : List Collector) (item : Collector) : Bool :=
  !i.refusesSwitch item.identifier && others.any fun c => item.identifier = c.identifier

lemma switchesOneOf_nil (i : ScriptedInstrument) (item : Collector) :
    i.switchesOneOf [] item = false := by
  rw [switchesOneOf, List.any_nil, Bool.and_false]

variable {i : ScriptedInstrument} {collector : String}

lemma switchesOneOf_cons_of_refused {c : Collector} {rest : List Collector}
    (h : i.refusesSwitch c.identifier = true) :
    i.switchesOneOf (c :: rest) = i.switchesOneOf rest := by
  funext item
  rw [switchesOneOf, switchesOneOf, List.any_cons]
  by_cases hid : item.identifier = c.identifier
  · simp [hid, h]
  · simp [hid]

lemma switchesOneOf_cons_of_not_refused {c : Collector} {rest : List Collector}
    (h : i.refusesSwitch c.identifier = false) :
    (fun item : Collector =>
      decide (item.identifier = c.identifier) || i.switchesOneOf rest item)
        = i.switchesOneOf (c :: rest) := by
  funext item
  rw [switchesOneOf, switchesOneOf, List.any_cons]
  by_cases hid : item.identifier = c.identifier
  · simp [hid, h]
  · simp [hid]

lemma switchCollector_of_refused (h : i.refusesSwitch collector = true) (cup : String)
    (active : Bool) :
    ∃ e, Instrument.switchCollector i cup collector active = (.error e, i) := by
  change ∃ e, i.changeCups _ _ _ = (.error e, i)
  rw [refusesSwitch, Bool.or_eq_true] at h
  by_cases hall : (i.fault? .switchCollector).isSome = true
  · obtain ⟨reason, hreason⟩ := Option.isSome_iff_exists.mp hall
    rw [if_pos hall, changeCups, hreason, change, hreason]
    exact ⟨_, rfl⟩
  · obtain ⟨reason, hreason⟩ := Option.isSome_iff_exists.mp (h.resolve_left hall)
    rw [if_neg hall, changeCups, hreason, change, hreason]
    exact ⟨_, rfl⟩

lemma switchCollector_of_not_refused (h : i.refusesSwitch collector = false)
    (hroster : i.roster = none) (cup : String) (active : Bool) :
    Instrument.switchCollector i cup collector active
      = ((i.instrument.switchCollector cup collector active).1,
        { i with instrument := (i.instrument.switchCollector cup collector active).2 }) := by
  obtain ⟨instrument, faults, roster⟩ := i
  subst hroster
  rw [refusesSwitch, Bool.or_eq_false_iff] at h
  have hone : fault? ⟨instrument, faults, none⟩ (.switchOneCollector collector) = none := by
    simpa using h.2
  change changeCups _ _ _ _ = _
  rw [if_neg (by simp [h.1]), changeCups, hone]
  dsimp only
  rw [change, hone]

/-- Whether a table stands in, what is refused, and the cup configurations. -/
def cupTable (i : ScriptedInstrument) : Bool × List (Operation × String) × List Cup :=
  (i.roster.isSome, i.faults, i.instrument.cups)

lemma cupTable_change (i : ScriptedInstrument) (op : Operation)
    (f : SimulatedInstrument → Except Refusal Unit × SimulatedInstrument)
    (hcups : ∀ j, (f j).2.cups = j.cups) : cupTable (i.change op f).2 = cupTable i := by
  rw [change]
  split
  · rfl
  · simp only [cupTable, hcups]

/-- Only a switch changes the cup configurations. -/
lemma cupTable_apply {c : Change} (hc : c.kind ≠ .switch) (i : ScriptedInstrument) :
    cupTable (c.apply i).2 = cupTable i := by
  have hcups (j : SimulatedInstrument) := (c.spares j).switches hc
  cases c with
  | write name v => exact cupTable_change i _ (·.writeParameter name v) hcups
  | setActive cup subCup =>
    change cupTable (i.changeCups _ _ _).2 = _
    rw [changeCups]
    split
    · next hroster => simp only [cupTable, hroster, Option.isSome_some]
    · exact cupTable_change i _ (·.setActive cup subCup) hcups
  | pushHardwareParameters cup subCup =>
    exact cupTable_change i _ (·.pushHardwareParameters cup subCup) hcups
  | requestCupChange => exact cupTable_change i _ (·.requestCupChange) hcups
  | switchCollector cup collector active => exact absurd rfl hc
  | beginMonitoring m => exact cupTable_change i _ (·.beginMonitoring m) hcups
  | applyTune t => exact cupTable_change i _ (·.applyTune t) hcups

/-- Later nothing that matters to the ion counters has changed but switches. -/
structure SwitchedOnly (i j : ScriptedInstrument) : Prop where
  roster : j.roster = none
  faults : j.faults = i.faults
  active : j.instrument.active.1 = i.instrument.active.1
  cups : j.instrument.cups.map Cup.unswitched = i.instrument.cups.map Cup.unswitched

end ScriptedInstrument

namespace Server

/-! ### One request -/

/-- The state with other cup configurations, after more events. -/
def withCups (s : Server ScriptedInstrument) (cups : List Cup) (events : List Event) :
    Server ScriptedInstrument :=
  { s with
    instrument := { s.instrument with instrument := { s.instrument.instrument with cups } }
    journal := s.journal ++ events.toArray }

section WithCups

variable (s : Server ScriptedInstrument) (cups : List Cup) (events : List Event)

@[simp] lemma withCups_cups : (s.withCups cups events).instrument.instrument.cups = cups := rfl

@[simp] lemma withCups_refusesSwitch :
    (s.withCups cups events).instrument.refusesSwitch = s.instrument.refusesSwitch := rfl

@[simp] lemma withCups_switchesOneOf :
    (s.withCups cups events).instrument.switchesOneOf = s.instrument.switchesOneOf := rfl

end WithCups

lemma log_eq_withCups (s : Server ScriptedInstrument) (level : LogLevel) (message : String) :
    s.log level message = s.withCups s.instrument.instrument.cups [⟨level, message⟩] := by
  simp [log, withCups]

lemma withCups_withCups (s : Server ScriptedInstrument) (cups cups' : List Cup)
    (events more : List Event) :
    (s.withCups cups events).withCups cups' more = s.withCups cups' (events ++ more) := by
  simp [withCups]

/-- The event of a collector that was refused. -/
def refusedSwitch : Event := ⟨.warn, "Could not toggle collector"⟩

lemma switchCollectors_cons_of_refused {cup : String} {active : Bool} {c : Collector}
    {rest : List Collector} {s : Server ScriptedInstrument}
    (h : s.instrument.refusesSwitch c.identifier = true) :
    switchCollectors cup active (c :: rest) s
      = switchCollectors cup active rest
        (s.withCups s.instrument.instrument.cups [refusedSwitch]) := by
  obtain ⟨e, he⟩ := ScriptedInstrument.switchCollector_of_refused h cup active
  rw [switchCollectors, he]
  dsimp only
  rw [log_eq_withCups]
  rfl

lemma switchCollectors_cons_of_not_refused {cup : String} {active : Bool} {c : Collector}
    {rest : List Collector} {s : Server ScriptedInstrument}
    (h : s.instrument.refusesSwitch c.identifier = false) (hroster : s.instrument.roster = none)
    (htold : ToldApart s.instrument.instrument.cups)
    (hfound : HasCollector s.instrument.instrument.cups cup c.identifier) :
    switchCollectors cup active (c :: rest) s =
      let after := switchCollectors cup active rest
        (s.withCups (setSwitchesOf s.instrument.instrument.cups cup
          (fun item => item.identifier = c.identifier) active) [])
      (after.1 + 1, after.2) := by
  rw [switchCollectors, ScriptedInstrument.switchCollector_of_not_refused h hroster,
    SimulatedInstrument.switchCollector_of_hasCollector htold hfound]
  simp [withCups]

/-- One collector after the other, those are switched that are not refused. -/
lemma switchCollectors_eq (cup : String) (active : Bool) (collectors : List Collector)
    {s : Server ScriptedInstrument} (hroster : s.instrument.roster = none)
    (htold : ToldApart s.instrument.instrument.cups)
    (hfound : ∀ c ∈ collectors, HasCollector s.instrument.instrument.cups cup c.identifier) :
    switchCollectors cup active collectors s =
      ((collectors.filter fun c => !s.instrument.refusesSwitch c.identifier).length,
        s.withCups
          (setSwitchesOf s.instrument.instrument.cups cup (s.instrument.switchesOneOf collectors)
            active)
          ((collectors.filter fun c => s.instrument.refusesSwitch c.identifier).map
            fun _ => refusedSwitch)) := by
  -- a switch changes the table in which the next collector is looked for, but no identifiers
  induction collectors generalizing s with
  | nil =>
    rw [switchCollectors, setSwitchesOf_of_none s.instrument.switchesOneOf_nil]
    simp [withCups]
  | cons c rest ih =>
    have hrest : ∀ d ∈ rest, HasCollector s.instrument.instrument.cups cup d.identifier :=
      fun d hd => hfound d (.tail _ hd)
    cases hrefused : s.instrument.refusesSwitch c.identifier with
    | true =>
      have hevents := List.filter_cons_of_pos
        (p := fun d : Collector => s.instrument.refusesSwitch d.identifier) (l := rest) hrefused
      rw [switchCollectors_cons_of_refused hrefused,
        ih (s := s.withCups s.instrument.instrument.cups [refusedSwitch]) hroster htold hrest,
        withCups_withCups, ScriptedInstrument.switchesOneOf_cons_of_refused hrefused, hevents,
        List.filter_cons_of_neg (by simp [hrefused])]
      rfl
    | false =>
      have hcups := unswitched_setSwitchesOf s.instrument.instrument.cups cup
        (fun item => item.identifier = c.identifier) active
      have hevents := List.filter_cons_of_neg
        (p := fun d : Collector => s.instrument.refusesSwitch d.identifier) (l := rest)
        (by rw [hrefused]; exact Bool.false_ne_true)
      rw [switchCollectors_cons_of_not_refused hrefused hroster htold (hfound c (.head _)),
        ih (s := s.withCups (setSwitchesOf s.instrument.instrument.cups cup
          (fun item => item.identifier = c.identifier) active) []) hroster (htold.congr hcups)
          fun d hd => (hrest d hd).congr hcups,
        withCups_withCups, hevents, List.filter_cons_of_pos (by simp [hrefused]),
        ← ScriptedInstrument.switchesOneOf_cons_of_not_refused hrefused,
        ← setSwitchesOf_setSwitchesOf (Collector.setSwitch_or _ _ active)]
      rfl

/-- The events of a request for the ion counters. -/
def counterEvents (i : ScriptedInstrument) (cup : Cup) (active : Bool) : List Event :=
  ⟨.info, "Setting IonCounterState " ++ toString active⟩
    :: (cup.collectors.filter fun c => c.isConnectedCounter && i.refusesSwitch c.identifier).map
      fun _ => refusedSwitch

lemma setIonCounters_eq {s : Server ScriptedInstrument} (hroster : s.instrument.roster = none)
    (htold : ToldApart s.instrument.instrument.cups) {cup : Cup}
    (hcup : s.activeCup.1 = .ok cup) (active : Bool) :
    s.setIonCounters active =
      (.ok (cup.collectors.filter s.instrument.switchesCounter).length,
        s.withCups
          (setSwitchesOf s.instrument.instrument.cups cup.identifier s.instrument.switchesCounter
            active)
          (counterEvents s.instrument cup active)) := by
  obtain ⟨hlisted, hpair, hactive⟩ := (activeCup_eq_ok_iff hroster htold).mp hcup
  have hmem : cup ∈ s.instrument.instrument.cups := List.mem_of_find?_eq_some hactive
  have hfirst : s.instrument.instrument.cups.find? (fun d => d.name = cup.name) = some cup :=
    find?_eq_some_of_nodup _ htold.names hmem
  have hcounters : ∀ c ∈ cup.collectors.filter (·.isConnectedCounter),
      HasCollector s.instrument.instrument.cups cup.identifier c.identifier := fun c hc =>
    ⟨cup, hmem, rfl, c, (List.mem_filter.mp hc).1, rfl⟩
  have hchosen : setSwitchesOf s.instrument.instrument.cups cup.identifier
      (s.instrument.switchesOneOf (cup.collectors.filter (·.isConnectedCounter))) active
      = setSwitchesOf s.instrument.instrument.cups cup.identifier s.instrument.switchesCounter
        active := by
    refine setSwitchesOf_congr (fun c hc hid item hitem => ?_) active
    obtain rfl : c = cup := List.inj_on_of_nodup_map htold.identifiers hc hmem hid
    rw [ScriptedInstrument.switchesOneOf, ScriptedInstrument.switchesCounter, Bool.and_comm,
      any_identifier_filter (htold.collectors c hc) hitem]
  have hswitched : (cup.collectors.filter (·.isConnectedCounter)).filter
      (fun c => !s.instrument.refusesSwitch c.identifier)
      = cup.collectors.filter s.instrument.switchesCounter := by
    rw [List.filter_filter]
    exact List.filter_congr fun _ _ => Bool.and_comm _ _
  have hrefused : (cup.collectors.filter (·.isConnectedCounter)).filter
      (fun c => s.instrument.refusesSwitch c.identifier)
      = cup.collectors.filter fun c =>
        c.isConnectedCounter && s.instrument.refusesSwitch c.identifier := by
    rw [List.filter_filter]
    exact List.filter_congr fun _ _ => Bool.and_comm _ _
  rw [setIonCounters]
  dsimp only
  rw [activeCup_of_first (s := s.log _ _) hroster hlisted hpair hactive hfirst]
  dsimp only
  rw [log_eq_withCups, switchCollectors_eq _ _ _ (by exact hroster) (by exact htold)
    (by exact hcounters), withCups_withCups]
  simp only [withCups_cups, withCups_refusesSwitch, withCups_switchesOneOf]
  rw [hswitched, hrefused, hchosen]
  rfl

/-- A later request for the ion counters chooses the same collectors, whichever way they are
switched by then. -/
lemma exists_setIonCounters_eq {s u : Server ScriptedInstrument}
    (hroster : s.instrument.roster = none) (htold : ToldApart s.instrument.instrument.cups)
    {cup : Cup} (hcup : s.activeCup.1 = .ok cup)
    (hu : s.instrument.SwitchedOnly u.instrument) (active : Bool) :
    ∃ events, u.setIonCounters active =
      (.ok (cup.collectors.filter s.instrument.switchesCounter).length,
        u.withCups
          (setSwitchesOf u.instrument.instrument.cups cup.identifier s.instrument.switchesCounter
            active) events) := by
  obtain ⟨hlisted, hpair, hactive⟩ := (activeCup_eq_ok_iff hroster htold).mp hcup
  have hfault (op : Operation) : u.instrument.fault? op = s.instrument.fault? op := by
    rw [ScriptedInstrument.fault?, hu.faults, ScriptedInstrument.fault?]
  have hchosen : u.instrument.switchesCounter = s.instrument.switchesCounter := by
    funext item
    simp only [ScriptedInstrument.switchesCounter, ScriptedInstrument.refusesSwitch, hfault]
  rw [SimulatedInstrument.activeCup?, ← hu.active] at hactive
  obtain ⟨later, hlater, hsame⟩ := Coherent.find?_congr hu.cups (fun _ => rfl) hactive
  have hcount : (later.collectors.filter s.instrument.switchesCounter).length
      = (cup.collectors.filter s.instrument.switchesCounter).length := by
    have hignores := s.instrument.ignoresSwitch_switchesCounter
    rw [← Cup.length_filter_unswitched hignores, hsame, Cup.length_filter_unswitched hignores]
  have hfound : u.activeCup.1 = .ok later :=
    (activeCup_eq_ok_iff hu.roster (htold.congr hu.cups)).mpr
      ⟨(hfault _).trans hlisted, (hfault _).trans hpair, hlater⟩
  refine ⟨counterEvents u.instrument later active, ?_⟩
  rw [setIonCounters_eq hu.roster (htold.congr hu.cups) hfound, hchosen, hcount,
    (Cup.eq_of_unswitched_eq hsame).1]

/-- If the active cup configuration is not found, nothing is switched. -/
lemma setIonCounters_of_error {s : Server ScriptedInstrument} {e : Failure}
    (h : s.activeCup.1 = .error e) (active : Bool) :
    (s.setIonCounters active).1 = .error e
      ∧ (s.setIonCounters active).2
        = { s with journal := (s.setIonCounters active).2.journal } := by
  let t := s.log .info ("Setting IonCounterState " ++ toString active)
  have hfound : t.activeCup.1 = .error e := (activeCup_fst_congr (s := s) (t := t) rfl).trans h
  have hset : s.setIonCounters active = (.error e, t.activeCup.2) := by
    rw [setIonCounters]
    dsimp only
    rw [show t.activeCup = (.error e, t.activeCup.2) from Prod.ext hfound rfl]
  have hreaches : Reaches {} Effect.IsNote s t.activeCup.2 :=
    (Reaches.noted (fun _ _ => trivial) _ _).trans
      (activeCup_reaches _ (fun _ _ => trivial) t)
  rw [hset]
  exact ⟨rfl, hreaches.eq_of_isNote⟩

/-! ### Runs -/

/-- Which way a line asks for the ion counters to be switched, if it asks for that. -/
def counterWish? (line : String) : Option Bool :=
  match Request.parse line with
  | .error _ => none
  | .ok r =>
    if r.verb = .activateIonCounter then some true
    else if r.verb = .deactivateIonCounter then some false
    else none

/-- A line that asks for the ion counters is answered with success in any case. -/
lemma serveLine_of_counterWish? {σ : Type} [Instrument σ] {line : String} {active : Bool}
    (h : counterWish? line = some active) (st : Station) (s : Server σ) :
    s.serveLine st line = (doneReply, (s.switchIonCounters active).2) := by
  rw [counterWish?] at h
  split at h
  · cases h
  · next r hparse =>
    obtain ⟨verb, argument⟩ := r
    rw [serveLine, hparse]
    split_ifs at h with hon hoff
    · cases h
      cases hon
      simp only [serveRequest, replied, switchIonCounters_reply]
    · cases h
      cases hoff
      simp only [serveRequest, replied, switchIonCounters_reply]

/-- No other line touches the cup configurations. -/
lemma cupTable_serveLine {line : String} (h : counterWish? line = none) (st : Station)
    (s : Server ScriptedInstrument) :
    (s.serveLine st line).2.instrument.cupTable = s.instrument.cupTable := by
  cases hparse : Request.parse line with
  | error e => rw [serveLine_of_parse_error hparse]
  | ok r =>
    rw [serveLine_of_parse hparse]
    rw [counterWish?, hparse] at h
    refine (serveRequest_reaches st s r).instrument_eq _ fun c i hc => ?_
    refine ScriptedInstrument.cupTable_apply (fun hk => ?_) i
    cases c with
    | switchCollector cup collector active =>
      have hverb : r.verb = if active then .activateIonCounter else .deactivateIonCounter := hc
      cases active <;> simp [hverb] at h
    | _ => cases hk

/-- The reply of success does not tell whether the active cup configuration was found. -/
lemma switchIonCounters_state {σ : Type} [Instrument σ] (s : Server σ) (active : Bool) :
    (s.switchIonCounters active).2
      = { (s.setIonCounters active).2 with journal := (s.switchIonCounters active).2.journal } := by
  rw [switchIonCounters]
  split
  · next h => rw [h]
  · next h =>
    rw [h]
    rfl

/-- Whatever else is served in between, the ion counters are as the last request for them wanted
them to be. -/
lemma switchedOnly_serveLines (st : Station) {s : Server ScriptedInstrument}
    (hroster : s.instrument.roster = none) (htold : ToldApart s.instrument.instrument.cups)
    {cup : Cup} (hcup : s.activeCup.1 = .ok cup) (lines : List String)
    (hactive : ∀ before ∈ lines.inits, (s.serveLines st before).2.instrument.instrument.active.1
      = s.instrument.instrument.active.1) :
    let cups := s.instrument.instrument.cups
    let after := (s.serveLines st lines).2.instrument
    s.instrument.SwitchedOnly after
      ∧ after.instrument.cups = (lines.filterMap counterWish?).getLast?.elim cups
        (setSwitchesOf cups cup.identifier s.instrument.switchesCounter) := by
  -- from the end of the lines: the last one leaves the table alone or sets the switches anew
  induction lines using List.reverseRecOn with
  | nil => exact ⟨⟨hroster, rfl, rfl, rfl⟩, rfl⟩
  | append_singleton lines line ih =>
    have hinits : ∀ before ∈ lines.inits, before ∈ (lines ++ [line]).inits := fun before h =>
      (List.mem_inits _ _).mpr (((List.mem_inits _ _).mp h).trans (List.prefix_append _ _))
    obtain ⟨halike, hcups⟩ := ih fun before h => hactive before (hinits before h)
    have hstill := hactive (lines ++ [line]) ((List.mem_inits _ _).mpr List.prefix_rfl)
    rw [serveLines_concat] at hstill ⊢
    generalize (s.serveLines st lines).2 = u at halike hcups hstill ⊢
    rw [List.filterMap_append]
    cases hwish : counterWish? line with
    | none =>
      obtain ⟨hstands, hrest⟩ := Prod.mk.inj (cupTable_serveLine hwish st u)
      obtain ⟨hfaults, hkept⟩ := Prod.mk.inj hrest
      have hnone : (u.serveLine st line).2.instrument.roster = none := by
        rw [halike.roster] at hstands
        exact Option.not_isSome_iff_eq_none.mp (by rw [hstands]; exact Bool.false_ne_true)
      refine ⟨⟨hnone, hfaults.trans halike.faults, hstill, ?_⟩, ?_⟩
      · rw [hkept, halike.cups]
      · rw [hkept, hcups, List.filterMap_cons_none hwish, List.filterMap_nil, List.append_nil]
    | some active =>
      obtain ⟨events, hset⟩ := exists_setIonCounters_eq hroster htold hcup halike active
      have hserved : (u.serveLine st line).2.instrument
          = (u.withCups (setSwitchesOf u.instrument.instrument.cups cup.identifier
            s.instrument.switchesCounter active) events).instrument := by
        rw [serveLine_of_counterWish? hwish, switchIonCounters_state, hset]
      have hfinal : setSwitchesOf u.instrument.instrument.cups cup.identifier
          s.instrument.switchesCounter active
          = setSwitchesOf s.instrument.instrument.cups cup.identifier s.instrument.switchesCounter
            active := by
        have hignores := s.instrument.ignoresSwitch_switchesCounter
        rw [hcups]
        cases (lines.filterMap counterWish?).getLast? with
        | none => rfl
        | some earlier =>
          exact setSwitchesOf_setSwitchesOf (Collector.setSwitch_setSwitch hignores earlier active)
      rw [hserved] at hstill ⊢
      rw [List.filterMap_cons_some hwish, List.filterMap_nil, List.getLast?_concat]
      refine ⟨⟨halike.roster, halike.faults, hstill, ?_⟩, hfinal⟩
      rw [withCups_cups, unswitched_setSwitchesOf, halike.cups]

/-- The requests for the ion counters of the active cup configuration. It is found if there is one
and the instrument answers. Then a request, tried again or not, switches the connected counters of
this cup configuration that are not refused, counts them, and leaves everything else as it is but
the recorded events; whatever is served, as long as the same cup configuration is active, the last
request for the ion counters decides. If it is not found, nothing changes. In any case the reply is
that of success. -/
theorem setIonCounters_switches (st : Station) {s : Server ScriptedInstrument}
    (hroster : s.instrument.roster = none) (htold : ToldApart s.instrument.instrument.cups) :
    (∀ cup, s.activeCup.1 = .ok cup ↔ s.instrument.fault? .cups = none
        ∧ s.instrument.fault? .activePair = none
        ∧ s.instrument.instrument.activeCup? = some cup)
      ∧ (∀ cup, s.activeCup.1 = .ok cup →
        let counters := cup.collectors.filter s.instrument.switchesCounter
        let switched := setSwitchesOf s.instrument.instrument.cups cup.identifier
          s.instrument.switchesCounter
        (∀ active, ∃ events more,
          let after := s.withCups (switched active) events
          s.setIonCounters active = (.ok counters.length, after)
            ∧ after.setIonCounters active
              = (.ok counters.length, after.withCups (switched active) more))
        ∧ ∀ lines : List String,
          (∀ before ∈ lines.inits, (s.serveLines st before).2.instrument.instrument.active.1
            = s.instrument.instrument.active.1) →
          (s.serveLines st lines).2.instrument.instrument.cups
            = (lines.filterMap counterWish?).getLast?.elim s.instrument.instrument.cups switched)
      ∧ (∀ e active, s.activeCup.1 = .error e →
        let (answer, after) := s.setIonCounters active
        answer = .error e ∧ after = { s with journal := after.journal })
      ∧ ∀ line active, counterWish? line = some active →
        let (reply, after) := s.serveLine st line
        reply = doneReply
          ∧ after = { (s.setIonCounters active).2 with journal := after.journal } := by
  refine ⟨fun cup => activeCup_eq_ok_iff hroster htold, fun cup hcup => ⟨fun active => ?_, ?_⟩,
    fun e active he => setIonCounters_of_error he active, fun line active hwish => ?_⟩
  · let after := s.withCups (setSwitchesOf s.instrument.instrument.cups cup.identifier
      s.instrument.switchesCounter active) (counterEvents s.instrument cup active)
    have hafter : s.instrument.SwitchedOnly after.instrument :=
      ⟨hroster, rfl, rfl, unswitched_setSwitchesOf _ _ _ _⟩
    obtain ⟨more, hagain⟩ := exists_setIonCounters_eq hroster htold hcup hafter active
    have hsame := Collector.setSwitch_setSwitch s.instrument.ignoresSwitch_switchesCounter active
      active
    refine ⟨_, more, setIonCounters_eq hroster htold hcup active, hagain.trans ?_⟩
    rw [withCups_cups, setSwitchesOf_setSwitchesOf hsame]
  · intro lines hactive
    exact (switchedOnly_serveLines st hroster htold hcup lines hactive).2
  · rw [serveLine_of_counterWish? hwish]
    exact ⟨rfl, switchIonCounters_state s active⟩

/-- Two cup configurations with counters of the same identifier. One connected counter of the active
one is refused, and the other one is switched on, off, and on again. -/
theorem setIonCounters_switches_refused :
    let st : Station := {}
    let helium : Cup := ⟨"cc-2", "Helium", [⟨"sc-3", "He4"⟩], [.counter "CDD 0" (some 3.0)]⟩
    let argon (active : Bool) : Cup := ⟨"cc-1", "Argon", [⟨"sc-1", "Ar40"⟩],
      [.faraday "CUP 0" (some 40.0), ⟨"CDD 0", some 36.0, .counter, active⟩, .counter "CDD 1" none,
        .counter "CDD 2" (some 38.0)]⟩
    let cups := [helium, argon false]
    let s : Server ScriptedInstrument :=
      { instrument :=
          { instrument := { SimulatedInstrument.multicollector with cups }
            faults := [(.switchOneCollector "CDD 2", "busy")] } }
    let lines := ["ActivateIonCounter", "GetSubCupConfigurationList Helium", "DeactivateIonCounter",
      "activateioncounter", "ActivateIonCounter now", "SetYSymmetry 5"]
    s.instrument.roster = none
      ∧ ToldApart s.instrument.instrument.cups
      ∧ s.activeCup.1 = .ok (argon false)
      ∧ (s.setIonCounters true).1 = .ok 1
      ∧ (s.setIonCounters true).2.instrument.instrument.cups = [helium, argon true]
      ∧ (s.serveLines st lines).2.instrument.instrument.cups = [helium, argon true] := by
  intro st helium argon cups s lines
  have htold : ToldApart cups := ⟨by decide, by decide, by decide⟩
  obtain ⟨hfound, hcounters, -⟩ := setIonCounters_switches st (s := s) rfl htold
  have hcup : s.activeCup.1 = .ok (argon false) := (hfound _).mpr ⟨rfl, rfl, rfl⟩
  obtain ⟨hset, hlast⟩ := hcounters (argon false) hcup
  obtain ⟨events, -, hon, -⟩ := hset true
  refine ⟨rfl, htold, hcup, ?_, ?_, ?_⟩
  · rw [hon]
    rfl
  · rw [hon]
    rfl
  · rw [hlast lines (by decide +kernel)]
    decide +kernel

end Server

end SpectroRemote
