import SpectroRemote.Proofs.Readouts

/-!
# Independent requests

A request about parameters depends only on the parameters that it addresses (`serveLine_alike`), and
changes no other (`serveLine_untouched`). The state of blanking belongs to the y symmetry here. So
two requests that address different parameters can be served in either order
(`serveLines_pair_comm`), as long as the instrument refuses attempts by name and not by number.
-/

namespace SpectroRemote

/-- No attempt to come is refused because of its number. -/
def SimulatedInstrument.RefusesByName (i : SimulatedInstrument) : Prop :=
  ∀ number ∈ i.refusedWrites, number ≤ i.writes.size

namespace SimulatedInstrument.RefusesByName

lemma refuses {i : SimulatedInstrument} (h : i.RefusesByName) (name : String) :
    i.refuses (i.writes.size + 1) name = i.refusedNames.contains name := by
  have hnumber : i.writes.size + 1 ∉ i.refusedWrites := fun hmem => by
    have := h _ hmem
    omega
  rw [SimulatedInstrument.refuses, List.contains_eq_mem (i.writes.size + 1),
    decide_eq_false hnumber, Bool.or_false]

lemma of_writes {i i' : SimulatedInstrument} (h : i.RefusesByName)
    (hrefused : i'.refusedWrites = i.refusedWrites) (hsize : i.writes.size ≤ i'.writes.size) :
    i'.RefusesByName := fun number hnumber => (h number (hrefused ▸ hnumber)).trans hsize

lemma writeParameter {i : SimulatedInstrument} (h : i.RefusesByName) (name : String) (v : Float) :
    (i.writeParameter name v).2.RefusesByName := by
  rw [writeParameter_state]
  exact h.of_writes rfl (by simp)

end SimulatedInstrument.RefusesByName

/-! ### Requests about parameters -/

/-- A request is about these parameters: it shows, writes, moves, blanks or tunes them. Without the
argument that its verb needs it is about none. -/
inductive Request.Addresses (st : Station) (r : Request) : List String → Prop
  | malformed (h : ¬ r.IsWellFormed) : Addresses st r []
  | write {w : String × Float} (h : r.write? st.settings.hardware = some (.ok w)) :
    Addresses st r [w.1]
  | query {p : String} (h : r.shown? st.settings.hardware = some p) : Addresses st r [p]
  | valve (h : r.verb = .getValveState) : Addresses st r [st.settings.hardware.ionPumpValve]
  | magnet (h : r.verb = .setMagnetDAC) (hr : r.IsWellFormed) :
    Addresses st r [st.settings.hardware.magnetDac]
  | blanking (h : r.verb = .blankBeam) (hr : r.IsWellFormed) :
    Addresses st r [st.settings.hardware.ySymmetry]
  /-- A tune is about the parameters in its entry, and without an entry about none. -/
  | tune (h : r.verb = .setTuningSettings) (hr : r.IsWellFormed) :
    Addresses st r ((r.tune? st).elim [] (·.parameters.keys))

/-- A line is about the parameters that its request is about. A line that is no request is about
none. -/
inductive LineAddresses (st : Station) (line : String) : List String → Prop
  | unreadable {e : Failure} (h : Request.parse line = .error e) : LineAddresses st line []
  | request {r : Request} {ps : List String} (h : Request.parse line = .ok r)
    (hr : r.Addresses st ps) : LineAddresses st line ps

namespace Server

variable {st : Station} {ps qs : List String} {s s' t t' : Server SimulatedInstrument}

/-! ### States that are alike -/

/-- Two states are alike as far as these parameters go: they have the same values, attempts to write
them end alike, and if the y symmetry is one of them then so does blanking. -/
structure Alike (st : Station) (ps : List String) (s t : Server SimulatedInstrument) : Prop where
  value : ∀ p ∈ ps, t.instrument.value? p = s.instrument.value? p
  refusedNames : t.instrument.refusedNames = s.instrument.refusedNames
  byName : s.instrument.RefusesByName ∧ t.instrument.RefusesByName
  blank : st.settings.hardware.ySymmetry ∈ ps → t.blank = s.blank

/-- Two results with the same answer and states that are alike. -/
structure SameResult (st : Station) (ps : List String) {α : Type}
    (x y : α × Server SimulatedInstrument) : Prop where
  answer : y.1 = x.1
  state : Alike st ps x.2 y.2

lemma SameResult.exists_eq {α : Type} {x y : α × Server SimulatedInstrument}
    (h : SameResult st ps x y) : ∃ a s t, x = (a, s) ∧ y = (a, t) ∧ Alike st ps s t :=
  ⟨x.1, x.2, y.2, rfl, Prod.ext h.answer rfl, h.state⟩

namespace Alike

/-- The journal, the scans and the time do not count. -/
lemma of_eq (h : Alike st ps s t) (hs : s'.instrument = s.instrument) (hs' : s'.blank = s.blank)
    (ht : t'.instrument = t.instrument) (ht' : t'.blank = t.blank) : Alike st ps s' t' where
  value p hp := by rw [hs, ht, h.value p hp]
  refusedNames := by rw [hs, ht, h.refusedNames]
  byName := by rw [hs, ht]; exact h.byName
  blank hp := by rw [hs', ht', h.blank hp]

lemma log (h : Alike st ps s t) (level : LogLevel) (message : String) :
    Alike st ps (s.log level message) (t.log level message) := h.of_eq rfl rfl rfl rfl

lemma pause (h : Alike st ps s t) : Alike st ps (s.pause st) (t.pause st) :=
  h.of_eq (pause_beside st s _).instrument (pause_beside st s _).blank
    (pause_beside st t _).instrument (pause_beside st t _).blank

lemma refuses (h : Alike st ps s t) (name : String) :
    t.instrument.refuses (t.instrument.writes.size + 1) name
      = s.instrument.refuses (s.instrument.writes.size + 1) name := by
  rw [h.byName.2.refuses, h.byName.1.refuses, h.refusedNames]

/-! ### Single operations -/

lemma read (h : Alike st ps s t) {name : String} (hname : name ∈ ps) :
    t.read name = s.read name := by
  rw [read_eq, read_eq, h.value name hname]

lemma written (h : Alike st ps s t) (name : String) (v : Float) :
    Alike st ps { s with instrument := (s.instrument.writeParameter name v).2 }
      { t with instrument := (t.instrument.writeParameter name v).2 } where
  value p hp := by
    have hvalue : t.instrument.parameters.get? p = s.instrument.parameters.get? p := h.value p hp
    rw [SimulatedInstrument.writeParameter_state, SimulatedInstrument.writeParameter_state,
      SimulatedInstrument.value?, SimulatedInstrument.value?, h.refuses]
    split
    · exact hvalue
    · rw [Table.get?_insert, Table.get?_insert, hvalue]
  refusedNames := by
    rw [SimulatedInstrument.writeParameter_state, SimulatedInstrument.writeParameter_state]
    exact h.refusedNames
  byName := ⟨h.byName.1.writeParameter name v, h.byName.2.writeParameter name v⟩
  blank := h.blank

lemma write (h : Alike st ps s t) (name : String) (v : Float) :
    SameResult st ps (s.write name v) (t.write name v) := by
  rw [write_eq, write_eq, h.refuses]
  dsimp only
  split
  · exact ⟨rfl, (h.written name v).log _ _⟩
  · exact ⟨rfl, h.written name v⟩

lemma writeAndReply (h : Alike st ps s t) (name : String) (v : Float) :
    SameResult st ps (s.writeAndReply name v) (t.writeAndReply name v) := by
  obtain ⟨answer, s', t', hs, ht, h'⟩ := (h.write name v).exists_eq
  rw [Server.writeAndReply, Server.writeAndReply, hs, ht]
  cases answer <;> exact ⟨rfl, h'⟩

lemma writeSetpoint (h : Alike st ps s t) (field : Float) :
    SameResult st ps (s.writeSetpoint st field) (t.writeSetpoint st field) := by
  obtain ⟨answer, s', t', hs, ht, h'⟩ := (h.write st.settings.hardware.magnetDac field).exists_eq
  rw [Server.writeSetpoint, Server.writeSetpoint, hs, ht]
  cases answer with
  | ok => exact ⟨rfl, h'⟩
  | error e => exact ⟨rfl, h'.log _ _⟩

lemma continueMove (fields : List Float) {x y : String × Server SimulatedInstrument}
    (h : SameResult st ps x y) :
    SameResult st ps (continueMove st fields x) (continueMove st fields y) := by
  induction fields generalizing x y with
  | nil => exact h
  | cons field rest ih =>
    rw [Server.continueMove, Server.continueMove]
    exact ih (h.state.pause.writeSetpoint field)

lemma carryOut (h : Alike st ps s t) (fields : List Float) :
    SameResult st ps (s.carryOut st fields) (t.carryOut st fields) := by
  cases fields with
  | nil => exact ⟨rfl, h⟩
  | cons field rest => exact continueMove rest (h.writeSetpoint field)

lemma setMagnet (h : Alike st ps s t) (hmagnet : st.settings.hardware.magnetDac ∈ ps)
    (target : Float) : SameResult st ps (s.setMagnet st target) (t.setMagnet st target) := by
  rw [Server.setMagnet, Server.setMagnet, h.read hmagnet]
  split
  · exact ⟨rfl, h⟩
  · refine Alike.carryOut ?_ _
    split
    · exact h.log _ _
    · exact h

lemma blankBeam (h : Alike st ps s t) (hy : st.settings.hardware.ySymmetry ∈ ps) :
    SameResult st ps (s.blankBeam st) (t.blankBeam st) := by
  rw [Server.blankBeam, Server.blankBeam, h.read hy]
  split
  · exact ⟨rfl, h⟩
  · obtain ⟨answer, s', t', hs, ht, h'⟩ := (h.write st.settings.hardware.ySymmetry
      st.settings.beamBlank.blankValue).exists_eq
    rw [hs, ht]
    cases answer with
    | ok => exact ⟨rfl, h'.value, h'.refusedNames, h'.byName, fun _ => rfl⟩
    | error e => exact ⟨rfl, h'⟩

lemma unblankBeam (h : Alike st ps s t) (hy : st.settings.hardware.ySymmetry ∈ ps) :
    SameResult st ps (s.unblankBeam st) (t.unblankBeam st) := by
  rw [Server.unblankBeam, Server.unblankBeam, h.blank hy]
  obtain ⟨answer, s', t', hs, ht, h'⟩ := (h.write st.settings.hardware.ySymmetry
    s.blank.restore).exists_eq
  rw [hs, ht]
  cases answer with
  | ok => exact ⟨rfl, h'.value, h'.refusedNames, h'.byName,
    fun _ => congrArg (fun b => { b with isBlanked := false }) (h'.blank hy)⟩
  | error e => exact ⟨rfl, h'⟩

lemma switchBlanking (h : Alike st ps s t) (hy : st.settings.hardware.ySymmetry ∈ ps)
    (wish : Bool) : SameResult st ps (s.switchBlanking st wish) (t.switchBlanking st wish) := by
  unfold Server.switchBlanking
  rw [h.blank hy]
  split
  · exact ⟨rfl, h⟩
  · split
    · exact h.blankBeam hy
    · exact h.unblankBeam hy
    · exact ⟨rfl, h⟩

lemma applyTune (h : Alike st ps s t) (name : String) :
    SameResult st ps (s.applyTune st name) (t.applyTune st name) := by
  unfold Server.applyTune
  dsimp only
  cases st.tunes.get? name with
  | none => exact ⟨rfl, h.log _ _⟩
  | some tune =>
    refine ⟨rfl, fun p hp => ?_, h.refusedNames, h.byName, h.blank⟩
    have hvalue (i : SimulatedInstrument) : (i.parameters.insertAll tune.parameters.entries).get? p
        = (tune.parameters.get? p).or (i.value? p) :=
      Table.get?_insertAll tune.parameters.sorted i.parameters p
    exact (hvalue t.instrument).trans (by rw [h.value p hp, ← hvalue]; rfl)

lemma withValue (h : Alike st ps s t) {α : Type} (value : Except Failure α)
    {next next' : α → Outcome SimulatedInstrument}
    (hnext : ∀ a, SameResult st ps (next a) (next' a)) :
    SameResult st ps (s.withValue value next) (t.withValue value next') := by
  cases value with
  | error e => exact ⟨rfl, h⟩
  | ok a => exact hnext a

end Alike

lemma SameResult.replied {x y : String × Server SimulatedInstrument}
    (h : SameResult st ps x y) : SameResult st ps (Server.replied x) (Server.replied y) :=
  ⟨congrArg Except.ok h.answer, h.state⟩

/-! ### Requests -/

/-- A request without the argument that its verb needs is answered alike in all states. -/
lemma exists_outcome_of_not_isWellFormed {σ : Type} [Instrument σ] {r : Request}
    (h : ¬ r.IsWellFormed) (st : Station) :
    ∃ answer, ∀ s : Server σ, s.serveRequest st r = (answer, s) := by
  have unread {α : Type} {value : Except Failure α} {next : Server σ → α → Outcome σ}
      (hno : ¬ ∃ a, value = .ok a) :
      ∃ answer, ∀ s : Server σ, s.withValue value (next s) = (answer, s) := by
    cases value with
    | error e => exact ⟨.error e, fun _ => rfl⟩
    | ok a => exact absurd ⟨a, rfl⟩ hno
  obtain ⟨verb, argument⟩ := r
  cases verb
  case blankBeam =>
    simp only [serveRequest]
    cases st.settings.beamBlank.enabled with
    | false => exact ⟨.ok doneReply, fun _ => rfl⟩
    | true => exact unread h
  all_goals first | exact unread h | exact absurd trivial h

/-- In states that are alike as far as its parameters go, a request is served alike. -/
lemma serveRequest_alike {r : Request} (hr : r.Addresses st ps) (h : Alike st ps s t) :
    SameResult st ps (s.serveRequest st r) (t.serveRequest st r) := by
  cases hr with
  | malformed hr =>
    obtain ⟨answer, hanswer⟩ : ∃ answer, ∀ s : Server SimulatedInstrument,
      s.serveRequest st r = (answer, s) := exists_outcome_of_not_isWellFormed hr st
    rw [hanswer, hanswer]
    exact ⟨rfl, h⟩
  | write hw =>
    rw [serveRequest_of_write? hw, serveRequest_of_write? hw]
    exact h.withValue _ fun w => (h.writeAndReply w.1 w.2).replied
  | query hp =>
    rw [serveRequest_of_shown? hp, serveRequest_of_shown? hp, h.value _ (List.mem_singleton_self _)]
    exact ⟨rfl, h⟩
  | valve hv =>
    obtain ⟨verb, argument⟩ := r
    subst hv
    simp only [serveRequest, valveState, h.read (List.mem_singleton_self _)]
    exact ⟨rfl, h⟩
  | magnet hv =>
    obtain ⟨verb, argument⟩ := r
    subst hv
    exact h.withValue _ fun v => (h.setMagnet (List.mem_singleton_self _) v).replied
  | blanking hv =>
    obtain ⟨verb, argument⟩ := r
    subst hv
    simp only [serveRequest]
    split
    · exact ⟨rfl, h⟩
    · exact h.withValue _ fun a => (h.switchBlanking (List.mem_singleton_self _) _).replied
  | tune hv =>
    obtain ⟨verb, argument⟩ := r
    subst hv
    refine h.withValue _ fun name => ?_
    have hsame := h.applyTune name
    exact ⟨by rw [done, done, hsame.answer], hsame.state⟩

/-- In states that are alike as far as its parameters go, a line is served alike. -/
theorem serveLine_alike {line : String} (hline : LineAddresses st line ps)
    (h : Alike st ps s t) : SameResult st ps (s.serveLine st line) (t.serveLine st line) := by
  cases hline with
  | unreadable hparse =>
    rw [serveLine_of_parse_error hparse, serveLine_of_parse_error hparse]
    exact ⟨rfl, h⟩
  | request hparse hr =>
    have hsame := serveRequest_alike hr h
    refine ⟨?_, ?_⟩
    · rw [serveLine_reply hparse, serveLine_reply hparse, hsame.answer]
    · rw [serveLine_of_parse hparse, serveLine_of_parse hparse]
      exact hsame.state

/-! ### What is not addressed -/

/-- The later state differs from the earlier one in nothing that other parameters than these
concern. -/
structure Untouched (st : Station) (ps : List String) (s s' : Server SimulatedInstrument) :
    Prop where
  value : ∀ p ∉ ps, s'.instrument.value? p = s.instrument.value? p
  refusedNames : s'.instrument.refusedNames = s.instrument.refusedNames
  byName : s.instrument.RefusesByName → s'.instrument.RefusesByName
  blank : st.settings.hardware.ySymmetry ∉ ps → s'.blank = s.blank

lemma Untouched.refl (s : Server SimulatedInstrument) : Untouched st ps s s :=
  ⟨fun _ _ => rfl, rfl, id, fun _ => rfl⟩

lemma Untouched.of_footprint {r : Request} {attempts : List (String × Float)}
    (h : Footprint st r s s' attempts) (hattempts : ∀ w ∈ attempts, w.1 ∈ ps)
    (hblank : r.verb = .blankBeam → st.settings.hardware.ySymmetry ∈ ps)
    (htune : r.verb = .setTuningSettings → ∀ t, st.tunes.get? r.argument = some t →
      ∀ p ∈ t.parameters.keys, p ∈ ps) : Untouched st ps s s' := by
  have hscript := h.script
  simp only [Prod.mk.injEq] at hscript
  have hsize : s.instrument.writes.size ≤ s'.instrument.writes.size := by
    rw [← Array.length_toList, ← Array.length_toList, h.writes, List.length_append]
    exact Nat.le_add_right _ _
  refine ⟨fun p hp => ?_, hscript.1, fun hs => hs.of_writes hscript.2.1 hsize,
    fun hy => h.blank fun hverb => hy (hblank hverb)⟩
  by_contra hchanged
  rcases h.values p hchanged with hmem | ⟨hverb, t, ht, hmem⟩
  · obtain ⟨w, hw, rfl⟩ := List.mem_map.mp hmem
    exact hp (hattempts w hw)
  · exact hp (htune hverb t ht p hmem)

/-- A request leaves alone what it does not address. -/
lemma serveRequest_untouched {r : Request} (hr : r.Addresses st ps)
    (s : Server SimulatedInstrument) : Untouched st ps s (s.serveRequest st r).2 := by
  obtain ⟨attempts, hfoot⟩ := serveRequest_footprint st s r
  have other {verb verb' : Verb} (h : r.verb = verb) (hne : verb ≠ verb') {P : Prop} :
      r.verb = verb' → P := fun h' => absurd (h.symm.trans h') hne
  cases hr with
  | malformed h =>
    rw [hfoot.malformed h]
    exact .refl s
  | query h =>
    rw [serveRequest_of_shown? h]
    exact .refl s
  | valve h =>
    obtain ⟨verb, argument⟩ := r
    subst h
    exact .refl s
  | @write w h =>
    have hattempts : attempts = [w] :=
      List.append_cancel_left (hfoot.writes.symm.trans (serveRequest_singleWrite h s))
    have hsingle : r.verb ∈ Verb.singleWrites := by
      by_contra hno
      rw [(Request.write?_eq_none_iff _ r).mpr hno] at h
      cases h
    refine .of_footprint hfoot (fun w' hw' => ?_) (fun hv => ?_) (fun hv => ?_)
    · rw [hattempts] at hw'
      rw [List.mem_singleton.mp hw']
      exact List.mem_singleton_self _
    · exact absurd hsingle (hv ▸ by decide)
    · exact absurd hsingle (hv ▸ by decide)
  | magnet h =>
    exact .of_footprint hfoot (fun w hw => List.mem_singleton.mpr (hfoot.magnetWrites h w hw))
      (other h (by decide)) (other h (by decide))
  | blanking h =>
    exact .of_footprint hfoot (fun w hw => List.mem_singleton.mpr ((hfoot.blankWrite h).2 w hw))
      (fun _ => List.mem_singleton_self _) (other h (by decide))
  | tune h hwell =>
    have hattempts : attempts = [] :=
      hfoot.noWrite (h ▸ by decide) (h ▸ by decide) (h ▸ by decide)
    refine .of_footprint hfoot (by simp [hattempts]) (other h (by decide)) fun _ t ht p hp => ?_
    obtain ⟨verb, argument⟩ := r
    subst h
    obtain ⟨name, hname⟩ := hwell
    have htune : Request.tune? st ⟨.setTuningSettings, argument⟩ = some t := by
      rw [Request.tune?, if_pos rfl, hname, Request.argument_of_givenArgument hname]
      exact ht
    rw [htune]
    exact hp

/-- A line leaves alone what it does not address. -/
theorem serveLine_untouched {line : String} (hline : LineAddresses st line ps)
    (s : Server SimulatedInstrument) : Untouched st ps s (s.serveLine st line).2 := by
  cases hline with
  | unreadable hparse =>
    rw [serveLine_of_parse_error hparse]
    exact .refl s
  | request hparse hr =>
    rw [serveLine_of_parse hparse]
    exact serveRequest_untouched hr s

/-! ### Two lines -/

/-- What another line left alone is as it was. -/
lemma Untouched.alike (h : Untouched st ps s s') (hs : s.instrument.RefusesByName)
    (hdisjoint : ps.Disjoint qs) : Alike st qs s s' where
  value p hp := h.value p fun hp' => hdisjoint hp' hp
  refusedNames := h.refusedNames
  byName := ⟨hs, h.byName hs⟩
  blank hy := h.blank fun hy' => hdisjoint hy' hy

/-- A part of the state that belongs to one parameter is the same after two lines in either order:
the line that addresses the parameter finds it as it was, and the other one leaves it alone. -/
lemma part_comm (hs : s.instrument.RefusesByName) {a b : String} (ha : LineAddresses st a ps)
    (hb : LineAddresses st b qs) (hdisjoint : ps.Disjoint qs) {α : Type}
    (part : Server SimulatedInstrument → α) {p : String}
    (same : ∀ {ps s t}, Alike st ps s t → p ∈ ps → part t = part s)
    (left : ∀ {ps s s'}, Untouched st ps s s' → p ∉ ps → part s' = part s) :
    part ((s.serveLine st b).2.serveLine st a).2
      = part ((s.serveLine st a).2.serveLine st b).2 := by
  have hfirst := (serveLine_untouched ha s).alike hs hdisjoint
  have hsecond := (serveLine_untouched hb s).alike hs hdisjoint.symm
  by_cases hp : p ∈ ps
  · have hq : p ∉ qs := fun hq => hdisjoint hp hq
    calc part ((s.serveLine st b).2.serveLine st a).2
      _ = part (s.serveLine st a).2 := same (serveLine_alike ha hsecond).state hp
      _ = part ((s.serveLine st a).2.serveLine st b).2 := (left (serveLine_untouched hb _) hq).symm
  · have hlater : part ((s.serveLine st a).2.serveLine st b).2 = part (s.serveLine st b).2 := by
      by_cases hq : p ∈ qs
      · exact same (serveLine_alike hb hfirst).state hq
      · rw [left (serveLine_untouched hb _) hq, left (serveLine_untouched ha _) hp,
          left (serveLine_untouched hb _) hq]
    rw [left (serveLine_untouched ha _) hp, hlater]

lemma serveLines_pair {σ : Type} [Instrument σ] (st : Station) (s : Server σ) (a b : String) :
    s.serveLines st [a, b]
      = ([(s.serveLine st a).1, ((s.serveLine st a).2.serveLine st b).1],
          ((s.serveLine st a).2.serveLine st b).2) := by
  simp only [serveLines]

/-- Two lines about different parameters can be served in either order, as long as the instrument
refuses attempts by name only: each gets the same reply, every parameter has the same value in the
end, or none, and the state of blanking is the same. -/
theorem serveLines_pair_comm (st : Station) (s : Server SimulatedInstrument)
    (hs : s.instrument.RefusesByName) {a b : String} {ps qs : List String}
    (ha : LineAddresses st a ps) (hb : LineAddresses st b qs) (hdisjoint : ps.Disjoint qs) :
    let ab := s.serveLines st [a, b]
    let ba := s.serveLines st [b, a]
    ba.1 = ab.1.reverse
      ∧ (∀ p, ba.2.instrument.value? p = ab.2.instrument.value? p)
      ∧ ba.2.blank = ab.2.blank := by
  have hb_reply := (serveLine_alike hb ((serveLine_untouched ha s).alike hs hdisjoint)).answer
  have ha_reply := (serveLine_alike ha ((serveLine_untouched hb s).alike hs hdisjoint.symm)).answer
  rw [serveLines_pair, serveLines_pair]
  dsimp only
  refine ⟨?_, fun p => ?_, ?_⟩
  · rw [ha_reply, hb_reply, List.reverse_cons, List.reverse_singleton, List.singleton_append]
  · exact part_comm hs ha hb hdisjoint (fun s => s.instrument.value? p) (fun h => h.value p)
      fun h => h.value p
  · exact part_comm hs ha hb hdisjoint (fun s => s.blank) (fun h => h.blank) fun h => h.blank

/-- A move of the magnet in steps and a request to blank the beam, of which the instrument refuses
the latter. -/
theorem serveLines_pair_comm_multicollector :
    let st : Station := { settings := { beamBlank := { enabled := true } } }
    let i := { SimulatedInstrument.multicollector with refusedNames := ["Y-Symmetry Set"] }
    let s : Server SimulatedInstrument := { instrument := i }
    let a := "SetMagnetDAC 6.5"
    let b := "BlankBeam true"
    i.RefusesByName ∧ LineAddresses st a ["Field Set"] ∧ LineAddresses st b ["Y-Symmetry Set"]
      ∧ ["Field Set"].Disjoint ["Y-Symmetry Set"]
      ∧ (s.serveLines st [b, a]).1 = (s.serveLines st [a, b]).1.reverse
      ∧ (∀ p, (s.serveLines st [b, a]).2.instrument.value? p
          = (s.serveLines st [a, b]).2.instrument.value? p)
      ∧ (s.serveLines st [b, a]).2.blank = (s.serveLines st [a, b]).2.blank := by
  intro st i s a b
  have hs : i.RefusesByName := fun number hnumber => absurd hnumber List.not_mem_nil
  have hmove : Request.parse a = .ok ⟨.setMagnetDAC, "6.5"⟩ := by decide +kernel
  have hblank : Request.parse b = .ok ⟨.blankBeam, "true"⟩ := by decide +kernel
  have ha : LineAddresses st a ["Field Set"] :=
    .request hmove (.magnet rfl ⟨6.5, by decide +kernel⟩)
  have hb : LineAddresses st b ["Y-Symmetry Set"] :=
    .request hblank (.blanking rfl ⟨"true", by decide +kernel⟩)
  have hdisjoint : ["Field Set"].Disjoint ["Y-Symmetry Set"] := by simp
  exact ⟨hs, ha, hb, hdisjoint, serveLines_pair_comm st s hs ha hb hdisjoint⟩

end Server

end SpectroRemote
