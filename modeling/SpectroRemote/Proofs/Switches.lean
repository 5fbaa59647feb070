import SpectroRemote.Proofs.ActiveCup

/-!
# Switches of collectors

The switches of some collectors of one cup configuration, set all at once (`setSwitchesOf`). The
instrument switches one collector at a time and looks for it by its identifier. Where identifiers
are told apart, that is the same with a choice of one collector (`switchCollector_of_hasCollector`).
-/

namespace SpectroRemote

/-! ### Switches that are set -/

/-- The collector, with its switch set if it is chosen. -/
def Collector.setSwitch (chosen : Collector → Bool) (active : Bool) (item : Collector) :
    Collector :=
  if chosen item then { item with active } else item

/-- The cup configuration with the switches of the chosen collectors set. -/
def Cup.setSwitches (chosen : Collector → Bool) (active : Bool) (c : Cup) : Cup :=
  { c with collectors := c.collectors.map (.setSwitch chosen active) }

/-- Cup configurations with the switches of the chosen collectors set, in the one that has this
identifier. -/
def setSwitchesOf (cups : List Cup) (identifier : String) (chosen : Collector → Bool)
    (active : Bool) : List Cup :=
  cups.map fun c => if c.identifier = identifier then c.setSwitches chosen active else c

/-- A choice of collectors that does not look at their switches. -/
def IgnoresSwitch (chosen : Collector → Bool) : Prop :=
  ∀ (item : Collector) (active : Bool), chosen { item with active } = chosen item

section Switches

variable {cups : List Cup} {identifier : String} {p q r : Collector → Bool}

lemma Collector.unswitched_setSwitch (p : Collector → Bool) (active : Bool) (item : Collector) :
    { item.setSwitch p active with active := false } = { item with active := false } := by
  rw [setSwitch]
  split <;> rfl

/-- Of two settings of the same choice the later one counts. -/
lemma Collector.setSwitch_setSwitch (hp : IgnoresSwitch p) (earlier later : Bool)
    (item : Collector) : (item.setSwitch p earlier).setSwitch p later = item.setSwitch p later := by
  by_cases h : p item = true
  · rw [setSwitch, setSwitch, if_pos h, if_pos ((hp item earlier).trans h), setSwitch, if_pos h]
  · rw [setSwitch.eq_1 p earlier, if_neg h]

/-- Two settings to the same side are one setting of both choices. -/
lemma Collector.setSwitch_or (p q : Collector → Bool) (active : Bool) (item : Collector) :
    (item.setSwitch p active).setSwitch q active
      = item.setSwitch (fun item => p item || q item) active := by
  rw [setSwitch, setSwitch, setSwitch]
  by_cases h : p item = true
  · simp only [h, if_true, Bool.true_or, ite_self]
  · simp only [h, if_false, Bool.false_or, Bool.false_eq_true]

lemma Cup.unswitched_setSwitches (p : Collector → Bool) (active : Bool) (c : Cup) :
    (c.setSwitches p active).unswitched = c.unswitched := by
  simp only [Cup.unswitched, Cup.setSwitches, List.map_map, Cup.mk.injEq, true_and]
  exact List.map_congr_left fun item _ => item.unswitched_setSwitch p active

lemma Cup.length_filter_unswitched (hp : IgnoresSwitch p) (c : Cup) :
    (c.unswitched.collectors.filter p).length = (c.collectors.filter p).length := by
  have hcomp : p ∘ (fun item : Collector => { item with active := false }) = p :=
    funext fun item => hp item false
  rw [unswitched, List.filter_map, List.length_map, hcomp]

lemma unswitched_setSwitchesOf (cups : List Cup) (identifier : String) (p : Collector → Bool)
    (active : Bool) :
    (setSwitchesOf cups identifier p active).map Cup.unswitched = cups.map Cup.unswitched := by
  rw [setSwitchesOf, List.map_map]
  refine List.map_congr_left fun c _ => ?_
  rw [Function.comp_apply]
  split
  · exact c.unswitched_setSwitches p active
  · rfl

/-- Only the collectors of the one cup configuration count. -/
lemma setSwitchesOf_congr
    (h : ∀ c ∈ cups, c.identifier = identifier → ∀ item ∈ c.collectors, p item = q item)
    (active : Bool) :
    setSwitchesOf cups identifier p active = setSwitchesOf cups identifier q active := by
  refine List.map_congr_left fun c hc => ?_
  split
  · next hid =>
    rw [Cup.setSwitches, Cup.setSwitches]
    congr 1
    refine List.map_congr_left fun item hitem => ?_
    rw [Collector.setSwitch, Collector.setSwitch, h c hc hid item hitem]
  · rfl

lemma setSwitchesOf_of_none (h : ∀ item, p item = false) (active : Bool) :
    setSwitchesOf cups identifier p active = cups := by
  refine (List.map_congr_left fun c _ => ?_).trans (List.map_id _)
  have hitems : c.collectors.map (.setSwitch p active) = c.collectors :=
    (List.map_congr_left fun item _ => by simp [Collector.setSwitch, h]).trans (List.map_id _)
  rw [Cup.setSwitches, hitems, ite_self, id]

/-- What two settings come to for each collector, they come to for cup configurations. -/
lemma setSwitchesOf_setSwitchesOf {first second both : Bool}
    (h : ∀ item : Collector,
      (item.setSwitch p first).setSwitch q second = item.setSwitch r both) :
    setSwitchesOf (setSwitchesOf cups identifier p first) identifier q second
      = setSwitchesOf cups identifier r both := by
  rw [setSwitchesOf, setSwitchesOf, List.map_map]
  refine List.map_congr_left fun c _ => ?_
  rw [Function.comp_apply]
  by_cases hc : c.identifier = identifier
  · rw [if_pos hc, if_pos hc]
    refine (if_pos hc).trans ?_
    simp only [Cup.setSwitches, List.map_map, Cup.mk.injEq, true_and]
    exact List.map_congr_left fun item _ => h item
  · rw [if_neg hc, if_neg hc, if_neg hc]

end Switches

/-! ### Collectors found by their identifiers -/

/-- Cup configurations are told apart by their identifiers and by their names, and the collectors of
each of them by their identifiers. -/
structure ToldApart (cups : List Cup) : Prop where
  identifiers : (cups.map (·.identifier)).Nodup
  names : (cups.map (·.name)).Nodup
  collectors : ∀ c ∈ cups, (c.collectors.map (·.identifier)).Nodup

/-- There is a collector with this identifier in the cup configuration with that one. -/
def HasCollector (cups : List Cup) (cup collector : String) : Prop :=
  ∃ c ∈ cups, c.identifier = cup ∧ ∃ item ∈ c.collectors, item.identifier = collector

section Identifiers

variable {cups cups' : List Cup}

lemma Cup.identifiers_unswitched (c : Cup) :
    c.unswitched.collectors.map (·.identifier) = c.collectors.map (·.identifier) := by
  rw [unswitched, List.map_map]
  rfl

/-- Switches do not count. -/
lemma ToldApart.congr (h : ToldApart cups)
    (hcups : cups'.map Cup.unswitched = cups.map Cup.unswitched) : ToldApart cups' where
  identifiers := by
    have hids := congrArg (List.map (·.identifier)) hcups
    rw [List.map_map, List.map_map] at hids
    exact hids ▸ h.identifiers
  names := by
    have hnames := congrArg (List.map (·.name)) hcups
    rw [List.map_map, List.map_map] at hnames
    exact hnames ▸ h.names
  collectors c hc := by
    have hmem : c.unswitched ∈ cups.map Cup.unswitched := hcups ▸ List.mem_map_of_mem hc
    obtain ⟨d, hd, heq⟩ := List.mem_map.mp hmem
    rw [← c.identifiers_unswitched, ← heq, d.identifiers_unswitched]
    exact h.collectors d hd

lemma HasCollector.congr {cup collector : String} (h : HasCollector cups cup collector)
    (hcups : cups'.map Cup.unswitched = cups.map Cup.unswitched) :
    HasCollector cups' cup collector := by
  obtain ⟨c, hc, hid, item, hitem, rfl⟩ := h
  have hmem : c.unswitched ∈ cups'.map Cup.unswitched := hcups ▸ List.mem_map_of_mem hc
  obtain ⟨d, hd, heq⟩ := List.mem_map.mp hmem
  have hitems : item.identifier ∈ d.collectors.map (·.identifier) := by
    rw [← d.identifiers_unswitched, heq, c.identifiers_unswitched]
    exact List.mem_map_of_mem hitem
  obtain ⟨item', hitem', hsame⟩ := List.mem_map.mp hitems
  exact ⟨d, hd, (Cup.eq_of_unswitched_eq heq).1.trans hid, item', hitem', hsame⟩

/-- Where collectors are told apart, those of some identifier satisfy what one of them does. -/
lemma any_identifier_filter {p : Collector → Bool} {collectors : List Collector}
    (h : (collectors.map (·.identifier)).Nodup) {item : Collector} (hitem : item ∈ collectors) :
    ((collectors.filter p).any fun c => item.identifier = c.identifier) = p item := by
  rw [Bool.eq_iff_iff, List.any_eq_true]
  constructor
  · rintro ⟨c, hc, hid⟩
    obtain ⟨hmem, hp⟩ := List.mem_filter.mp hc
    obtain rfl : item = c :=
      List.inj_on_of_nodup_map h hitem hmem (of_decide_eq_true hid)
    exact hp
  · intro hp
    exact ⟨item, List.mem_filter.mpr ⟨hitem, hp⟩, decide_eq_true rfl⟩

namespace SimulatedInstrument

/-- Where elements are told apart by their keys, all elements of a key are the first one of it. -/
lemma modifyFirst_eq_map {α : Type} (key : α → String) (k : String) (f : α → α) {l : List α}
    (h : (l.map key).Nodup) :
    modifyFirst (fun a => key a = k) f l = l.map fun a => if key a = k then f a else a := by
  induction l with
  | nil => rfl
  | cons a rest ih =>
    rw [List.map_cons, List.nodup_cons] at h
    rw [modifyFirst, List.map_cons]
    by_cases ha : key a = k
    · have hrest : ∀ b ∈ rest, (if key b = k then f b else b) = b := by
        intro b hb
        refine if_neg fun hbk => h.1 ?_
        rw [ha, ← hbk]
        exact List.mem_map_of_mem hb
      rw [if_pos (by simpa using ha), if_pos ha, List.map_congr_left hrest, List.map_id']
    · rw [if_neg (by simpa using ha), if_neg ha, ih h.2]

lemma switchInCups_eq (h : ToldApart cups) (cup collector : String) (active : Bool) :
    switchInCups cups cup collector active
      = setSwitchesOf cups cup (fun item => item.identifier = collector) active := by
  rw [switchInCups, modifyFirst_eq_map _ _ _ h.identifiers]
  refine List.map_congr_left fun c hc => ?_
  split
  · rw [switchInCup, Cup.setSwitches, modifyFirst_eq_map _ _ _ (h.collectors c hc)]
    congr 1
    refine List.map_congr_left fun item _ => ?_
    simp only [Collector.setSwitch, decide_eq_true_eq]
  · rfl

lemma switchCollector_of_hasCollector {i : SimulatedInstrument} (h : ToldApart i.cups)
    {cup collector : String} (hfound : HasCollector i.cups cup collector) (active : Bool) :
    i.switchCollector cup collector active
      = (.ok (), { i with
          cups := setSwitchesOf i.cups cup (fun item => item.identifier = collector) active }) := by
  obtain ⟨c, hc, rfl, item, hitem, rfl⟩ := hfound
  have hcup : i.cupWithIdentifier? c.identifier = some c :=
    find?_eq_some_of_nodup _ h.identifiers hc
  have hcollector : (c.collectors.find? fun a => a.identifier = item.identifier) = some item :=
    find?_eq_some_of_nodup _ (h.collectors c hc) hitem
  rw [switchCollector, hcup, Option.bind_some, hcollector, ← switchInCups_eq h]

end SimulatedInstrument

end Identifiers

end SpectroRemote
