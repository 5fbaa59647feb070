import Mathlib.Algebra.Ring.Parity
import Mathlib.Data.List.Induction
import SpectroRemote.Proofs.Footprint
import SpectroRemote.Proofs.Lists
import SpectroRemote.Proofs.Recorder

/-!
# The history of blanking

A server serves requests one after the other, and between two of them the instrument may become any
other. `blankHistory` keeps the writes that the instrument accepted from requests to blank or to
restore the beam. They alternate between the blank value and the y symmetry from just before it was
written, and the beam is blanked after an odd number of them (`blankHistory_alternates`).
-/

namespace SpectroRemote

/-! ### Writes that blank and restore -/

/-- A write that was accepted from a request to blank or to restore the beam. -/
structure BlankingWrite where
  /-- The y symmetry just before the request. -/
  reading : Except Refusal Float
  parameter : String
  value : Float

/-- The writes blank the beam and restore it in turn, and restore what was read before. -/
structure Alternate (st : Station) (writes : List BlankingWrite) : Prop where
  parameter : ∀ w ∈ writes, w.parameter = st.settings.hardware.ySymmetry
  blanks : ∀ (i : Nat) (w : BlankingWrite), Even i → writes[i]? = some w →
    w.value = st.settings.beamBlank.blankValue ∧ ∃ c, w.reading = .ok c
  restores : ∀ (i : Nat) (w b : BlankingWrite), Even i → writes[i]? = some b →
    writes[i + 1]? = some w → b.reading = .ok w.value

namespace Alternate

variable {st : Station} {writes : List BlankingWrite} {w : BlankingWrite}

lemma nil (st : Station) : Alternate st [] :=
  ⟨by simp, by simp, by simp⟩

lemma parameter_concat (h : Alternate st writes)
    (hparameter : w.parameter = st.settings.hardware.ySymmetry) :
    ∀ v ∈ writes ++ [w], v.parameter = st.settings.hardware.ySymmetry := by
  intro v hv
  rcases List.mem_append.mp hv with hv | hv
  · exact h.parameter v hv
  · rwa [List.mem_singleton.mp hv]

/-- After an even number of writes the beam can be blanked. -/
lemma concat_blank (h : Alternate st writes) (heven : Even writes.length)
    (hparameter : w.parameter = st.settings.hardware.ySymmetry)
    (hvalue : w.value = st.settings.beamBlank.blankValue) (hreading : ∃ c, w.reading = .ok c) :
    Alternate st (writes ++ [w]) := by
  constructor
  · exact h.parameter_concat hparameter
  · intro i v hi hv
    rcases getElem?_concat_eq_some hv with hv | ⟨-, rfl⟩
    · exact h.blanks i v hi hv
    · exact ⟨hvalue, hreading⟩
  · intro i v b hi hb hv
    rcases getElem?_concat_eq_some hv with hv | ⟨hlast, -⟩
    · have hlt : i < writes.length := by
        have := (List.getElem?_eq_some_iff.mp hv).1
        omega
      rw [List.getElem?_append_left hlt] at hb
      exact h.restores i v b hi hb hv
    · rw [← hlast, Nat.even_add_one] at heven
      exact absurd hi heven

/-- After an odd number of writes the beam can be restored to the last reading. -/
lemma concat_restore (h : Alternate st writes) (hodd : Odd writes.length)
    (hparameter : w.parameter = st.settings.hardware.ySymmetry)
    (hvalue : writes.getLast?.map (·.reading) = some (.ok w.value)) :
    Alternate st (writes ++ [w]) := by
  constructor
  · exact h.parameter_concat hparameter
  · intro i v hi hv
    rcases getElem?_concat_eq_some hv with hv | ⟨rfl, -⟩
    · exact h.blanks i v hi hv
    · exact absurd hi (Nat.not_even_iff_odd.mpr hodd)
  · intro i v b hi hb hv
    have hlt : i < writes.length := by
      have := (List.getElem?_eq_some_iff.mp hv).1
      rw [List.length_append, List.length_singleton] at this
      omega
    rw [List.getElem?_append_left hlt] at hb
    rcases getElem?_concat_eq_some hv with hv | ⟨hlast, rfl⟩
    · exact h.restores i v b hi hb hv
    · rw [List.getLast?_eq_getElem?, ← hlast, Nat.add_sub_cancel, hb] at hvalue
      exact Option.some.inj hvalue

end Alternate

namespace Server

variable {σ : Type} [Instrument σ]

/-! ### Single visits -/

/-- A request line, and what becomes of the instrument before it comes. -/
structure Visit (σ : Type) where
  meanwhile : σ → σ
  line : String

omit [Instrument σ] in
/-- The state in which a line finds the server. -/
def await (s : Server (Recorder σ)) (v : Visit σ) : Server (Recorder σ) :=
  { s with instrument := { s.instrument with instrument := v.meanwhile s.instrument.instrument } }

/-- The state after a line is served. -/
def receive (st : Station) (s : Server (Recorder σ)) (v : Visit σ) : Server (Recorder σ) :=
  ((s.await v).serveLine st v.line).2

/-- The line asks to blank or to restore the beam. -/
def Visit.asksToBlank (v : Visit σ) : Bool :=
  match Request.parse v.line with
  | .ok r => r.verb = .blankBeam
  | .error _ => false

/-- The writes that were accepted while a line was served, if it asks to blank or to restore the
beam. -/
def blankingWrites (st : Station) (s : Server (Recorder σ)) (v : Visit σ) : List BlankingWrite :=
  if v.asksToBlank then
    let reading := Instrument.readParameter (s.await v).instrument st.settings.hardware.ySymmetry
    ((s.receive st v).instrument.accepted.drop s.instrument.accepted.length).map fun w =>
      ⟨reading, w.1, w.2⟩
  else []

/-- Serves lines one after the other. Gives the state in the end and the writes that were accepted
from requests to blank or to restore the beam. -/
def blankHistory (st : Station) (s : Server (Recorder σ)) (visits : List (Visit σ)) :
    Server (Recorder σ) × List BlankingWrite :=
  visits.foldl (fun (s, writes) v => (s.receive st v, writes ++ s.blankingWrites st v)) (s, [])

/-- What a single visit does: from a state of blanking, with these accepted writes, to another. -/
inductive Moved (st : Station) (reading : Except Refusal Float) :
    Blanking → List BlankingWrite → Blanking → Prop
  | stays (b : Blanking) : Moved st reading b [] b
  | blanks {b : Blanking} {c : Float} (hnot : b.isBlanked = false) (hreading : reading = .ok c) :
    Moved st reading b
      [⟨reading, st.settings.hardware.ySymmetry, st.settings.beamBlank.blankValue⟩] ⟨true, c⟩
  | restores {b : Blanking} (his : b.isBlanked = true) :
    Moved st reading b [⟨reading, st.settings.hardware.ySymmetry, b.restore⟩] ⟨false, b.restore⟩

/-- The writes that an attempt to blank or to restore the beam adds to the record. -/
lemma Switched.moved {st : Station} {s : Server (Recorder σ)} {wish : Bool} {i : Recorder σ}
    {b : Blanking} (h : Switched st s wish i b) :
    Moved st (Instrument.readParameter s.instrument st.settings.hardware.ySymmetry) s.blank
      ((i.accepted.drop s.instrument.accepted.length).map fun w =>
        ⟨Instrument.readParameter s.instrument st.settings.hardware.ySymmetry, w.1, w.2⟩) b := by
  have hnone : s.instrument.accepted.drop s.instrument.accepted.length = [] :=
    List.drop_eq_nil_of_le le_rfl
  cases h with
  | idle => rw [hnone]; exact .stays _
  | unreadable => rw [hnone]; exact .stays _
  | blankRefused _ hwrite | restoreRefused _ hwrite =>
    rw [Recorder.accepted_of_writeParameter hwrite, Recorder.entry, List.append_nil, hnone]
    exact .stays _
  | blanked hnot hread hwrite =>
    rw [Recorder.accepted_of_writeParameter hwrite, List.drop_left]
    exact .blanks hnot hread
  | restored his hwrite =>
    rw [Recorder.accepted_of_writeParameter hwrite, List.drop_left]
    exact .restores his

/-- A line that asks to blank or to restore the beam does so, unless it lacks its argument. -/
lemma receive_switched (st : Station) (s : Server (Recorder σ)) {v : Visit σ} {argument : String}
    (h : Request.parse v.line = .ok ⟨.blankBeam, argument⟩) :
    s.receive st v = s.await v ∧ argument = ""
      ∨ Switched st (s.await v) (argument = "true") (s.receive st v).instrument
        (s.receive st v).blank := by
  rw [receive, serveLine_of_parse h]
  exact serveRequest_blankBeam st (s.await v) argument

/-- Serving any other line leaves the blanking as it is. -/
lemma receive_blank (st : Station) (s : Server (Recorder σ)) {v : Visit σ}
    (h : v.asksToBlank = false) : (s.receive st v).blank = s.blank := by
  rw [Visit.asksToBlank] at h
  rw [receive]
  cases hparse : Request.parse v.line with
  | error e => rw [serveLine_of_parse_error hparse]; rfl
  | ok r =>
    rw [hparse, decide_eq_false_iff_not] at h
    rw [serveLine_of_parse hparse]
    exact (serveRequest_reaches st (s.await v) r).blank_eq fun _ => h

theorem receive_moved (st : Station) (s : Server (Recorder σ)) (v : Visit σ) :
    Moved st (Instrument.readParameter (s.await v).instrument st.settings.hardware.ySymmetry)
      s.blank (s.blankingWrites st v) (s.receive st v).blank := by
  rw [blankingWrites]
  cases h : v.asksToBlank with
  | false =>
    rw [receive_blank st s h]
    exact .stays _
  | true =>
    rw [Visit.asksToBlank] at h
    split at h
    · next r hparse =>
      obtain ⟨verb, argument⟩ := r
      obtain rfl : verb = .blankBeam := of_decide_eq_true h
      rcases receive_switched st s hparse with ⟨hsame, -⟩ | hswitched
      · rw [hsame]
        have hnone : (s.await v).instrument.accepted.drop s.instrument.accepted.length = [] :=
          List.drop_eq_nil_of_le le_rfl
        rw [if_pos rfl, hnone]
        exact .stays _
      · exact hswitched.moved
    · cases h

/-! ### Whole histories -/

lemma blankHistory_concat (st : Station) (s : Server (Recorder σ)) (visits : List (Visit σ))
    (v : Visit σ) :
    s.blankHistory st (visits ++ [v]) =
      ((s.blankHistory st visits).1.receive st v,
        (s.blankHistory st visits).2 ++ (s.blankHistory st visits).1.blankingWrites st v) := by
  rw [blankHistory, List.foldl_append]
  rfl

/-- What a state of blanking tells about the writes so far. -/
structure Recalls (st : Station) (b : Blanking) (writes : List BlankingWrite) : Prop where
  isBlanked_iff : b.isBlanked = true ↔ Odd writes.length
  alternate : Alternate st writes
  /-- What is restored is what was read before the beam was blanked. -/
  restore : b.isBlanked = true → writes.getLast?.map (·.reading) = some (.ok b.restore)

lemma Recalls.moved {st : Station} {reading : Except Refusal Float} {b b' : Blanking}
    {writes more : List BlankingWrite} (h : Recalls st b writes)
    (hmoved : Moved st reading b more b') : Recalls st b' (writes ++ more) := by
  cases hmoved with
  | stays => rwa [List.append_nil]
  | @blanks c hnot hreading =>
    have heven : Even writes.length := by
      rw [← Nat.not_odd_iff_even, ← h.isBlanked_iff, hnot]
      exact Bool.false_ne_true
    constructor
    · simpa using heven.add_one
    · exact h.alternate.concat_blank heven rfl rfl ⟨c, hreading⟩
    · intro _
      simpa using hreading
  | restores his =>
    have hodd := h.isBlanked_iff.mp his
    constructor
    · simpa [Nat.odd_add_one] using hodd
    · exact h.alternate.concat_restore hodd rfl (h.restore his)
    · intro hblanked
      cases hblanked

theorem blankHistory_recalls (st : Station) (s : Server (Recorder σ))
    (unblanked : s.blank.isBlanked = false) (visits : List (Visit σ)) :
    Recalls st (s.blankHistory st visits).1.blank (s.blankHistory st visits).2 := by
  -- at the end of the history, where each visit moves the blanking from what it was before
  induction visits using List.reverseRecOn with
  | nil =>
    refine ⟨?_, .nil st, fun h => ?_⟩
    · simp [blankHistory, unblanked]
    · rw [blankHistory, List.foldl_nil, unblanked] at h
      cases h
  | append_singleton visits v ih =>
    rw [blankHistory_concat]
    exact ih.moved (receive_moved st _ v)

/-- After any history the beam is blanked exactly if an odd number of writes was accepted from
requests to blank or to restore it, and these writes alternate. A further such request leaves the
blanking as it is if it asks for what is the case already or is refused, and else does what it asks
for. -/
theorem blankHistory_alternates (st : Station) (enabled : st.settings.beamBlank.enabled = true)
    (s : Server (Recorder σ)) (unblanked : s.blank.isBlanked = false) (visits : List (Visit σ)) :
    let now := (s.blankHistory st visits).1
    let writes := (s.blankHistory st visits).2
    (now.blank.isBlanked = true ↔ Odd writes.length) ∧ Alternate st writes
      ∧ ∀ (v : Visit σ) (argument : String),
          Request.parse v.line = .ok ⟨.blankBeam, argument⟩ →
            let wish := decide (argument = "true")
            (wish = now.blank.isBlanked ∨ (now.await v).RefusesBlanking st wish →
                (now.receive st v).blank = now.blank)
              ∧ (argument ≠ "" → ¬ (now.await v).RefusesBlanking st wish →
                (now.receive st v).blank.isBlanked = wish) := by
  intro now writes
  have h := blankHistory_recalls st s unblanked visits
  refine ⟨h.isBlanked_iff, h.alternate, fun v argument hparse => ?_⟩
  rcases receive_switched st now hparse with ⟨hsame, hempty⟩ | hswitched
  · rw [hsame]
    exact ⟨fun _ => rfl, fun hne => absurd hempty hne⟩
  · exact ⟨hswitched.blank_eq, fun _ => hswitched.isBlanked_eq enabled⟩

/-- The beam of a multicollector is blanked, its y symmetry is changed, the beam is restored, and it
is blanked once more, after a refused attempt. That makes three writes. -/
theorem blankHistory_multicollector :
    let st : Station := { settings := { beamBlank := { enabled := true } } }
    let s : Server (Recorder SimulatedInstrument) :=
      { instrument := ⟨SimulatedInstrument.multicollector, []⟩ }
    let refusing (names : List String) (i : SimulatedInstrument) := { i with refusedNames := names }
    let visits : List (Visit SimulatedInstrument) :=
      [⟨id, "BlankBeam true"⟩, ⟨(·.preset "Y-Symmetry Set" 7), "BlankBeam false"⟩,
        ⟨refusing ["Y-Symmetry Set"], "BlankBeam true"⟩, ⟨refusing [], "BlankBeam true"⟩]
    let writes := (s.blankHistory st visits).2
    st.settings.beamBlank.enabled = true ∧ s.blank.isBlanked = false
      ∧ writes.length = 3 ∧ (s.blankHistory st visits).1.blank.isBlanked = true
      ∧ Alternate st writes := by
  intro st s refusing visits writes
  have hthree : writes.length = 3 := by decide +kernel
  obtain ⟨hparity, halternate, -⟩ := blankHistory_alternates st rfl s rfl visits
  refine ⟨rfl, rfl, hthree, ?_, halternate⟩
  rw [hparity]
  exact hthree ▸ ⟨1, rfl⟩

end Server

end SpectroRemote
