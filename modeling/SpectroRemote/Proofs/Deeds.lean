import SpectroRemote.Proofs.Footprint

/-!
# What requests do to parameters

A request does two kinds of things to the parameters of the simulated instrument: it attempts to
write some of them, or it applies a tune. `deeds` lists them for any sequence of request lines. The
value of a parameter is at any time the one that it was given last (`value?_serveLines`), where
refused attempts give none.
-/

namespace SpectroRemote

/-! ### Deeds -/

/-- Something that a request does to the parameters of an instrument. -/
inductive Deed
  /-- An attempt to write, with its number, counted from one. -/
  | attempt (verb : Verb) (number : Nat) (name : String) (v : Float)
  | tune (t : Tune)

namespace Deed

/-- The verb of the request. -/
def verb : Deed → Verb
  | attempt verb _ _ _ => verb
  | tune _ => .setTuningSettings

/-- What is to be written, if this is an attempt to write. -/
def write? : Deed → Option (String × Float)
  | attempt _ _ name v => some (name, v)
  | tune _ => none

/-- The value that a parameter is given. A refused attempt gives none. -/
def value? (i : SimulatedInstrument) (p : String) : Deed → Option Float
  | attempt _ number name v => if name = p ∧ i.refuses number name = false then some v else none
  | tune t => t.parameters.get? p

/-- Attempts to write that come after `n` others. -/
def attempts (verb : Verb) : (n : Nat) → List (String × Float) → List Deed
  | _, [] => []
  | n, w :: rest => attempt verb (n + 1) w.1 w.2 :: attempts verb (n + 1) rest

lemma verb_of_mem_attempts {verb : Verb} {n : Nat} {l : List (String × Float)} {d : Deed}
    (h : d ∈ attempts verb n l) : d.verb = verb := by
  induction l generalizing n with
  | nil => cases h
  | cons w rest ih =>
    rcases List.mem_cons.mp h with rfl | h
    · rfl
    · exact ih h

lemma filterMap_write?_attempts (verb : Verb) (n : Nat) (l : List (String × Float)) :
    (attempts verb n l).filterMap write? = l := by
  induction l generalizing n with
  | nil => rfl
  | cons w rest ih => rw [attempts, List.filterMap_cons, write?, ih]

lemma attempts_append (verb : Verb) (n : Nat) (l more : List (String × Float)) :
    attempts verb n (l ++ more) = attempts verb n l ++ attempts verb (n + l.length) more := by
  induction l generalizing n with
  | nil => rfl
  | cons w rest ih =>
    rw [List.cons_append, attempts, attempts, ih, List.cons_append, List.length_cons,
      Nat.add_right_comm, Nat.add_assoc]

/-- What is given depends on the instrument only in that it refuses attempts. -/
lemma value?_congr {i i' : SimulatedInstrument} (h : i'.refuses = i.refuses) (p : String) :
    value? i' p = value? i p := by
  funext d
  cases d with
  | attempt verb number name v => rw [value?, value?, h]
  | tune t => rfl

end Deed

/-- The value that a parameter was given last, starting from an instrument. -/
def lastGiven (i : SimulatedInstrument) (p : String) (deeds : List Deed) : Option Float :=
  (deeds.filterMap (Deed.value? i p)).getLast?.or (i.value? p)

section LastGiven

variable (i : SimulatedInstrument) (p : String)

lemma lastGiven_append (deeds more : List Deed) :
    lastGiven i p (deeds ++ more)
      = (more.filterMap (Deed.value? i p)).getLast?.or (lastGiven i p deeds) := by
  rw [lastGiven, lastGiven, List.filterMap_append, List.getLast?_append, Option.or_assoc]

/-- Deeds that come after others start from the value that these gave. -/
lemma lastGiven_append_of_value? {i i' : SimulatedInstrument} {p : String} {deeds : List Deed}
    (hrefuses : i'.refuses = i.refuses) (hvalue : i'.value? p = lastGiven i p deeds)
    (more : List Deed) : lastGiven i p (deeds ++ more) = lastGiven i' p more := by
  rw [lastGiven_append, ← hvalue, lastGiven, Deed.value?_congr hrefuses]

end LastGiven

/-! ### From one instrument to another -/

/-- Deeds lead from one instrument to another: all attempts are kept, and each parameter has the
value that it was given last. -/
structure Explains (i : SimulatedInstrument) (deeds : List Deed) (i' : SimulatedInstrument) :
    Prop where
  refuses : i'.refuses = i.refuses
  writes : i'.writes.toList = i.writes.toList ++ deeds.filterMap Deed.write?
  value : ∀ p, i'.value? p = lastGiven i p deeds

lemma Explains.refl (i : SimulatedInstrument) : Explains i [] i :=
  ⟨rfl, (List.append_nil _).symm, fun _ => rfl⟩

lemma Explains.trans {i i' i'' : SimulatedInstrument} {deeds more : List Deed}
    (h : Explains i deeds i') (h' : Explains i' more i'') : Explains i (deeds ++ more) i'' where
  refuses := h'.refuses.trans h.refuses
  writes := by rw [h'.writes, h.writes, List.filterMap_append, List.append_assoc]
  value p := by rw [h'.value, lastGiven_append_of_value? h.refuses (h.value p)]

/-! ### Tunes -/

lemma tune_explains (i : SimulatedInstrument) (t : Tune) :
    Explains i [.tune t] (i.applyTune t).2 where
  refuses := rfl
  writes := (List.append_nil _).symm
  value p := by
    refine (Table.get?_insertAll t.parameters.sorted i.parameters p).trans ?_
    change (t.parameters.get? p).or (i.value? p) = _
    rw [lastGiven]
    cases h : t.parameters.get? p <;> simp [Deed.value?, h]

/-! ### Changes one after the other -/

namespace SimulatedInstrument

lemma value?_writeParameter (i : SimulatedInstrument) (verb : Verb) (name p : String) (v : Float) :
    (i.writeParameter name v).2.value? p
      = lastGiven i p [.attempt verb (i.writes.size + 1) name v] := by
  rw [writeParameter_state, lastGiven]
  cases hr : i.refuses (i.writes.size + 1) name with
  | true =>
    rw [List.filterMap_cons_none (by rw [Deed.value?, if_neg (by simp [hr])])]
    rfl
  | false =>
    by_cases hname : name = p
    · rw [List.filterMap_cons_some (by rw [Deed.value?, if_pos ⟨hname, hr⟩])]
      simp [value?, hname]
    · rw [List.filterMap_cons_none (by rw [Deed.value?, if_neg fun h => hname h.1])]
      simp [value?, hname]

end SimulatedInstrument

namespace Change

/-- The change is no tune. -/
def IsPlain : Change → Prop
  | applyTune _ => False
  | _ => True

/-- An instrument after changes one after the other. -/
def applyAll {σ : Type} [Instrument σ] (i : σ) (changes : List Change) : σ :=
  changes.foldl (fun i c => (c.apply i).2) i

lemma refuses_apply (c : Change) (i : SimulatedInstrument) :
    (c.apply i).2.refuses = i.refuses := by
  have h := (c.spares i).script
  simp only [Prod.mk.injEq] at h
  funext number name
  rw [SimulatedInstrument.refuses, SimulatedInstrument.refuses, h.1, h.2.1]

/-- A plain change does no more to parameters than its attempts. -/
lemma attempts_explains {c : Change} (h : c.IsPlain) (i : SimulatedInstrument) (verb : Verb) :
    Explains i (Deed.attempts verb i.writes.size c.attempts) (c.apply i).2 where
  refuses := c.refuses_apply i
  writes := by rw [Deed.filterMap_write?_attempts, (c.spares i).writes]
  value p := by
    cases c with
    | write name v => exact i.value?_writeParameter verb name p v
    | applyTune t => exact h.elim
    | _ => exact (spares _ i).values p List.not_mem_nil

/-- Plain changes do no more to parameters than their attempts. -/
lemma applyAll_explains (verb : Verb) {changes : List Change} (h : ∀ c ∈ changes, c.IsPlain)
    (i : SimulatedInstrument) :
    Explains i (Deed.attempts verb i.writes.size (changes.flatMap attempts))
      (applyAll i changes) := by
  induction changes generalizing i with
  | nil => exact .refl i
  | cons c rest ih =>
    have hsize : (c.apply i).2.writes.size = i.writes.size + c.attempts.length := by
      rw [← Array.length_toList, (c.spares i).writes, List.length_append, Array.length_toList]
    rw [List.flatMap_cons, Deed.attempts_append, ← hsize]
    exact (attempts_explains (h c (.head _)) i verb).trans
      (ih (fun c hc => h c (.tail _ hc)) (c.apply i).2)

end Change

namespace Server

/-- The instrument changes on the way to a later state only by permitted changes. -/
lemma Reaches.exists_changes {σ : Type} [Instrument σ] {st : Station} {P : Effect → Prop}
    {s s' : Server σ} (h : Reaches st P s s') :
    ∃ changes : List Change, (∀ c ∈ changes, P (.change c))
      ∧ s'.instrument = Change.applyAll s.instrument changes := by
  induction h with
  | refl => exact ⟨[], by simp, rfl⟩
  | @tail t _ _ hstep ih =>
    obtain ⟨changes, hall, ht⟩ := ih
    obtain ⟨e, he, rfl⟩ := hstep
    cases e with
    | change c =>
      refine ⟨changes ++ [c], fun d hd => ?_, ?_⟩
      · rcases List.mem_append.mp hd with hd | hd
        · exact hall d hd
        · exact List.mem_singleton.mp hd ▸ he
      · change (c.apply t.instrument).2 = _
        rw [ht, Change.applyAll, Change.applyAll, List.foldl_append]
        rfl
    | note level message => exact ⟨changes, hall, ht⟩
    | blanking b => exact ⟨changes, hall, ht⟩
    | pause => exact ⟨changes, hall, (pause_beside st t _).instrument.trans ht⟩

end Server

/-! ### Single lines -/

/-- The tune that a request applies. -/
def Request.tune? (st : Station) (r : Request) : Option Tune :=
  if r.verb = .setTuningSettings then r.givenArgument.toOption.bind st.tunes.get? else none

lemma Request.tune?_of_ne {r : Request} (h : r.verb ≠ .setTuningSettings) (st : Station) :
    r.tune? st = none := by rw [tune?, if_neg h]

lemma Request.PermitsChange.isPlain {st : Station} {r : Request} (h : r.verb ≠ .setTuningSettings)
    {c : Change} (hc : r.PermitsChange st c) : c.IsPlain := by
  cases c with
  | applyTune t => exact absurd hc.1 h
  | _ => trivial

namespace Server

/-- A request for a tune asks the instrument to apply it and for nothing else. -/
lemma serveRequest_tune {σ : Type} [Instrument σ] {r : Request} (h : r.verb = .setTuningSettings)
    (st : Station) (s : Server σ) :
    (s.serveRequest st r).2.instrument
      = (r.tune? st).elim s.instrument fun t => (Instrument.applyTune s.instrument t).2 := by
  obtain ⟨verb, argument⟩ := r
  subst h
  rw [Request.tune?, if_pos rfl]
  simp only [serveRequest]
  cases Request.givenArgument ⟨.setTuningSettings, argument⟩ with
  | error e => rfl
  | ok name =>
    change (s.applyTune st name).2.instrument = (st.tunes.get? name).elim _ _
    unfold applyTune
    cases st.tunes.get? name with
    | none => rfl
    | some t =>
      dsimp only [Option.elim_some]
      split <;> next heq => rw [heq]; rfl

variable (st : Station) (s : Server SimulatedInstrument)

/-- The attempts to write that serving a line makes. -/
def lineAttempts (line : String) : List (String × Float) :=
  (s.serveLine st line).2.instrument.writes.toList.drop s.instrument.writes.size

/-- What serving a line does to parameters. -/
def lineDeeds (line : String) : List Deed :=
  match Request.parse line with
  | .error _ => []
  | .ok r =>
    Deed.attempts r.verb s.instrument.writes.size (s.lineAttempts st line)
      ++ (r.tune? st).toList.map .tune

/-- What serving lines one after the other does to parameters. -/
def deeds (s : Server SimulatedInstrument) : List String → List Deed
  | [] => []
  | line :: rest => s.lineDeeds st line ++ deeds (s.serveLine st line).2 rest

variable {st} {s}

lemma lineDeeds_of_parse {line : String} {r : Request} (h : Request.parse line = .ok r) :
    s.lineDeeds st line =
      Deed.attempts r.verb s.instrument.writes.size (s.lineAttempts st line)
        ++ (r.tune? st).toList.map .tune := by rw [lineDeeds, h]

lemma lineDeeds_of_parse_error {line : String} {e : Failure}
    (h : Request.parse line = .error e) : s.lineDeeds st line = [] := by rw [lineDeeds, h]

/-- All deeds of a line belong to its request. -/
lemma verb_of_mem_lineDeeds {line : String} {r : Request} (h : Request.parse line = .ok r)
    {d : Deed} (hd : d ∈ s.lineDeeds st line) : d.verb = r.verb := by
  rw [lineDeeds_of_parse h] at hd
  rcases List.mem_append.mp hd with hd | hd
  · exact Deed.verb_of_mem_attempts hd
  · obtain ⟨t, ht, rfl⟩ := List.mem_map.mp hd
    by_contra hverb
    rw [Request.tune?_of_ne (Ne.symm hverb)] at ht
    cases ht

variable (st) (s)

/-- The deeds of a line lead to the instrument after it is served. -/
theorem lineDeeds_explains (line : String) :
    Explains s.instrument (s.lineDeeds st line) (s.serveLine st line).2.instrument := by
  cases hparse : Request.parse line with
  | error e =>
    rw [lineDeeds_of_parse_error hparse, serveLine_of_parse_error hparse]
    exact .refl _
  | ok r =>
    rw [lineDeeds_of_parse hparse, lineAttempts, serveLine_of_parse hparse]
    by_cases hverb : r.verb = .setTuningSettings
    · rw [serveRequest_tune hverb]
      cases r.tune? st with
      | none =>
        rw [Option.elim_none, ← Array.length_toList, List.drop_length]
        exact .refl _
      | some t =>
        change Explains _ (Deed.attempts _ _ (List.drop _ s.instrument.writes.toList) ++ _) _
        rw [← Array.length_toList, List.drop_length]
        exact tune_explains s.instrument t
    · obtain ⟨changes, hall, hinstrument⟩ := (serveRequest_reaches st s r).exists_changes
      have hl := Change.applyAll_explains r.verb
        (fun c hc => (hall c hc).isPlain hverb) s.instrument
      have hwrites := hl.writes
      rw [Deed.filterMap_write?_attempts] at hwrites
      rw [Request.tune?_of_ne hverb, hinstrument, hwrites, List.drop_left' Array.length_toList]
      simpa using hl

/-! ### Runs -/

lemma serveLines_cons {σ : Type} [Instrument σ] (st : Station) (s : Server σ) (line : String)
    (rest : List String) :
    (s.serveLines st (line :: rest)).2 = ((s.serveLine st line).2.serveLines st rest).2 := by
  rw [serveLines]

lemma serveLines_append {σ : Type} [Instrument σ] (st : Station) (s : Server σ)
    (lines more : List String) :
    (s.serveLines st (lines ++ more)).2
      = ((s.serveLines st lines).2.serveLines st more).2 := by
  induction lines generalizing s with
  | nil => rfl
  | cons line rest ih => rw [List.cons_append, serveLines_cons, serveLines_cons, ih]

lemma serveLines_concat {σ : Type} [Instrument σ] (st : Station) (s : Server σ)
    (lines : List String) (line : String) :
    (s.serveLines st (lines ++ [line])).2 = ((s.serveLines st lines).2.serveLine st line).2 := by
  rw [serveLines_append, serveLines_cons, serveLines]

/-- The deeds of lines lead to the instrument after they are served. -/
theorem deeds_explains (lines : List String) :
    Explains s.instrument (s.deeds st lines) (s.serveLines st lines).2.instrument := by
  induction lines generalizing s with
  | nil => exact .refl _
  | cons line rest ih =>
    rw [deeds, serveLines_cons]
    exact (s.lineDeeds_explains st line).trans (ih _)

end Server

end SpectroRemote
