import SpectroRemote.Instrument.Simulated
import SpectroRemote.Proofs.Effects
import SpectroRemote.Proofs.Tables

/-!
# The simulated instrument under changes

What each change does to each part of the simulated instrument. A change concerns few of the parts:
an attempt to write is kept in any case, a parameter has a new value only under its own name, and
switching a collector changes nothing but the switch.
-/

namespace SpectroRemote

/-! ### Collectors without their switches -/

/-- A cup configuration with all collectors switched off: what is left of it when the switches do
not count. -/
def Cup.unswitched (c : Cup) : Cup :=
  { c with collectors := c.collectors.map fun item => { item with active := false } }

namespace SimulatedInstrument

lemma map_modifyFirst {α β : Type} (p : α → Bool) {f : α → α} {g : α → β}
    (h : ∀ a, g (f a) = g a) (l : List α) : (modifyFirst p f l).map g = l.map g := by
  induction l with
  | nil => rfl
  | cons a rest ih =>
    rw [modifyFirst]
    split
    · rw [List.map_cons, List.map_cons, h]
    · rw [List.map_cons, List.map_cons, ih]

lemma unswitched_switchInCup (collector : String) (active : Bool) (c : Cup) :
    (switchInCup collector active c).unswitched = c.unswitched := by
  have h := map_modifyFirst (fun item : Collector => decide (item.identifier = collector))
    (f := fun item => { item with active := active })
    (g := fun item => { item with active := false }) (fun _ => rfl) c.collectors
  simp only [Cup.unswitched, switchInCup, h]

lemma unswitched_switchInCups (cups : List Cup) (cup collector : String) (active : Bool) :
    (switchInCups cups cup collector active).map Cup.unswitched = cups.map Cup.unswitched :=
  map_modifyFirst _ (unswitched_switchInCup collector active) cups

/-! ### Operations -/

variable (i : SimulatedInstrument)

lemma writeParameter_state (name : String) (v : Float) :
    (i.writeParameter name v).2 =
      { i with
        writes := i.writes.push (name, v)
        parameters :=
          if i.refuses (i.writes.size + 1) name then i.parameters
          else i.parameters.insert name v } := by
  unfold writeParameter
  split <;> next h => simp only [h]; rfl

lemma value?_writeParameter_of_ne {name p : String} (v : Float) (h : p ≠ name) :
    (i.writeParameter name v).2.value? p = i.value? p := by
  rw [writeParameter_state]
  unfold value?
  dsimp only
  split
  · rfl
  · rw [Table.get?_insert, if_neg h.symm]

lemma setActive_state (cup subCup : String) :
    (i.setActive cup subCup).2 =
      { i with active := if (i.cupWithIdentifier? cup).isSome then (cup, subCup) else i.active } := by
  rw [setActive]
  split <;> next h => simp [h]

lemma requestCupChange_state :
    i.requestCupChange.2 = { i with cupChangeRequests := i.cupChangeRequests + 1 } := by
  rw [requestCupChange]
  split <;> rfl

/-- Switching a collector changes nothing but switches. -/
lemma switchCollector_state (cup collector : String) (active : Bool) :
    ∃ cups, (i.switchCollector cup collector active).2 = { i with cups }
      ∧ cups.map Cup.unswitched = i.cups.map Cup.unswitched := by
  rw [switchCollector]
  split
  · exact ⟨i.cups, rfl, rfl⟩
  · exact ⟨_, rfl, unswitched_switchInCups i.cups cup collector active⟩

end SimulatedInstrument

/-! ### Changes -/

namespace Change

/-- The part of the instrument that a change is about. -/
inductive Kind
  | parameter
  | choice
  | switch
  | measurement
  | tune
deriving DecidableEq

/-- The part of the instrument that a change is about. -/
def kind : Change → Kind
  | write _ _ => .parameter
  | setActive _ _ | pushHardwareParameters _ _ | requestCupChange => .choice
  | switchCollector _ _ _ => .switch
  | beginMonitoring _ => .measurement
  | applyTune _ => .tune

/-- The attempts to write that a change brings. -/
def attempts : Change → List (String × Float)
  | write name v => [(name, v)]
  | setActive _ _ | pushHardwareParameters _ _ | requestCupChange | switchCollector _ _ _
  | beginMonitoring _ | applyTune _ => []

/-- The parameters to which a change may give a value. -/
def parameters : Change → List String
  | write name _ => [name]
  | applyTune t => t.parameters.keys
  | setActive _ _ | pushHardwareParameters _ _ | requestCupChange | switchCollector _ _ _
  | beginMonitoring _ => []

/-- What a change leaves of an instrument, part by part. -/
structure Spares (c : Change) (i i' : SimulatedInstrument) : Prop where
  writes : i'.writes.toList = i.writes.toList ++ c.attempts
  values : ∀ name ∉ c.parameters, i'.value? name = i.value? name
  choice : c.kind ≠ .choice →
    (i'.active, i'.pushes, i'.cupChangeRequests) = (i.active, i.pushes, i.cupChangeRequests)
  switches : c.kind ≠ .switch → i'.cups = i.cups
  cups : i'.cups.map Cup.unswitched = i.cups.map Cup.unswitched
  measurement : c.kind ≠ .measurement →
    (i'.measurement, i'.monitoringRequests) = (i.measurement, i.monitoringRequests)
  tunes : c.kind ≠ .tune → i'.appliedTunes = i.appliedTunes
  script : (i'.refusedNames, i'.refusedWrites, i'.refusesCupChanges, i'.scanPreparations)
    = (i.refusedNames, i.refusedWrites, i.refusesCupChanges, i.scanPreparations)

/-- Every change spares what it is not about. -/
theorem spares (c : Change) (i : SimulatedInstrument) : c.Spares i (c.apply i).2 := by
  have nothing (l : List (String × Float)) : l = l ++ [] := (List.append_nil l).symm
  cases c with
  | write name v =>
    have hv (p : String) (h : p ∉ [name]) : (i.writeParameter name v).2.value? p = i.value? p :=
      i.value?_writeParameter_of_ne v (by simpa using h)
    have hs := i.writeParameter_state name v
    change Spares _ i (i.writeParameter name v).2
    refine ⟨?_, hv, ?_, ?_, ?_, ?_, ?_, ?_⟩ <;> rw [hs]
    · exact Array.toList_push
    all_goals intros; rfl
  | setActive cup subCup =>
    change Spares _ i (i.setActive cup subCup).2
    rw [i.setActive_state]
    exact ⟨nothing _, fun _ _ => rfl, fun h => absurd rfl h, fun _ => rfl, rfl, fun _ => rfl,
      fun _ => rfl, rfl⟩
  | pushHardwareParameters cup subCup =>
    exact ⟨nothing _, fun _ _ => rfl, fun h => absurd rfl h, fun _ => rfl, rfl, fun _ => rfl,
      fun _ => rfl, rfl⟩
  | requestCupChange =>
    change Spares _ i i.requestCupChange.2
    rw [i.requestCupChange_state]
    exact ⟨nothing _, fun _ _ => rfl, fun h => absurd rfl h, fun _ => rfl, rfl, fun _ => rfl,
      fun _ => rfl, rfl⟩
  | switchCollector cup collector active =>
    obtain ⟨cups, hs, hcups⟩ := i.switchCollector_state cup collector active
    change Spares _ i (i.switchCollector cup collector active).2
    rw [hs]
    exact ⟨nothing _, fun _ _ => rfl, fun _ => rfl, fun h => absurd rfl h, hcups, fun _ => rfl,
      fun _ => rfl, rfl⟩
  | beginMonitoring m =>
    exact ⟨nothing _, fun _ _ => rfl, fun _ => rfl, fun _ => rfl, rfl, fun h => absurd rfl h,
      fun _ => rfl, rfl⟩
  | applyTune t =>
    exact ⟨nothing _, fun p hp => i.parameters.get?_insertAll_of_notMem hp, fun _ => rfl,
      fun _ => rfl, rfl, fun _ => rfl, fun h => absurd rfl h, rfl⟩

end Change

end SpectroRemote
