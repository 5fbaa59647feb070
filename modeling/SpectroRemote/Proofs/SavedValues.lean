import SpectroRemote.Proofs.Decimal.ReadBack
import SpectroRemote.Proofs.Readouts

/-!
# Values saved and restored

What a client reads of a parameter is plain text, and sets the parameter to the same value again, to
the last bit (`setParameter_valueText`).
-/

namespace SpectroRemote

lemma Decimal.IsPlain.comma {s : List Char} (h : IsPlain s) : ',' ∉ s := by
  obtain ⟨digits, hs, hdigits, -⟩ := h
  have habsent : ',' ∉ digits := fun hc => (hdigits ',' hc).elim (by decide) (by decide)
  rcases hs with rfl | rfl
  · exact habsent
  · exact List.not_mem_cons_of_ne_of_not_mem (by decide) habsent

lemma isPlain_valueText {v : Float} (h : v.isFinite = true) :
    Decimal.IsPlain (valueText v).toList := by
  rw [valueText, String.toList_ofList]
  exact Decimal.isPlain_text h

namespace Server

/-- An accepted write is answered with success, and gives its parameter the value. -/
lemma writeAndReply_accepted {s : Server SimulatedInstrument} {name : String}
    (h : s.instrument.refuses (s.instrument.writes.size + 1) name = false) (v : Float) :
    (s.writeAndReply name v).1 = doneReply
      ∧ (s.writeAndReply name v).2.instrument.value? name = some v := by
  have hdone : (s.writeAndReply name v).1 = doneReply := by
    rw [writeAndReply, write_eq, h, if_neg Bool.false_ne_true]
  exact ⟨hdone, by rw [value?_writeAndReply, if_pos hdone]⟩

lemma serveLine_getParameter {s : Server SimulatedInstrument} {name : String}
    (hname : Request.IsName name) {v : Float} (hvalue : s.instrument.value? name = some v)
    (st : Station) :
    s.serveLine st (Request.line .getParameter name) = (valueText v, s) := by
  have hshown : Request.shown? st.settings.hardware ⟨.getParameter, name⟩ = some name := by
    rw [Request.shown?, Request.givenArgument_of_ne hname.ne_empty]
    rfl
  rw [serveLine, Request.parse_line, hname.trimmed]
  dsimp only
  rw [serveRequest_of_shown? hshown, hvalue]
  rfl

lemma serveLine_setParameter {name number : String} (hname : Request.IsName name)
    (hcomma : ',' ∉ number.toList) {v : Float} (hnumber : readFinite number.toList = .ok v)
    (st : Station) (s : Server SimulatedInstrument) :
    s.serveLine st (Request.line .setParameter (name ++ "," ++ number))
      = s.writeAndReply name v := by
  have hwrite : Request.write? st.settings.hardware
      ⟨.setParameter, trimmed (name ++ "," ++ number)⟩ = some (.ok (name, v)) := by
    change some (Request.nameAndValue _) = _
    rw [Request.nameAndValue_of_isName hname hcomma, hnumber]
    rfl
  exact serveLine_of_write? hwrite s

/-- The text that replies show for a finite double has a minus sign at most, digits, and at most one
point, and is read as the same double. So a parameter with a finite value is saved by the reply that
shows it. At any later time at which the instrument accepts the write, the parameter is set to that
reply with success, and has the same value again. -/
theorem setParameter_valueText (v : Float) (hv : v.isFinite = true) :
    Decimal.IsPlain (valueText v).toList ∧ readFinite (valueText v).toList = .ok v
      ∧ ∀ (st : Station) (s : Server SimulatedInstrument) (name : String), Request.IsName name →
        s.instrument.value? name = some v →
          let saved := s.serveLine st (Request.line .getParameter name)
          saved = (valueText v, s) ∧ ∀ later : Server SimulatedInstrument,
            later.instrument.refuses (later.instrument.writes.size + 1) name = false →
              let restored :=
                later.serveLine st (Request.line .setParameter (name ++ "," ++ saved.1))
              restored.1 = doneReply ∧ restored.2.instrument.value? name = some v := by
  have hplain := isPlain_valueText hv
  have hread := readFinite_valueText hv
  refine ⟨hplain, hread, fun st s name hname hvalue => ?_⟩
  intro saved
  have hsaved : saved = (valueText v, s) := serveLine_getParameter hname hvalue st
  refine ⟨hsaved, fun later haccepts => ?_⟩
  rw [hsaved]
  dsimp only
  rw [serveLine_setParameter hname hplain.comma hread]
  exact writeAndReply_accepted haccepts v

/-- The least positive double is saved from one server and restored to another one. -/
theorem setParameter_valueText_least :
    let v : Float := 5e-324
    let st : Station := {}
    let name := "Trap Voltage Set"
    let i := SimulatedInstrument.multicollector
    let s : Server SimulatedInstrument := { instrument := i.preset name v }
    let later : Server SimulatedInstrument := { instrument := i }
    v.isFinite = true ∧ Request.IsName name ∧ s.instrument.value? name = some v
      ∧ later.instrument.refuses (later.instrument.writes.size + 1) name = false
      ∧ later.instrument.value? name = some 120
      ∧ let saved := s.serveLine st (Request.line .getParameter name)
        let restored := later.serveLine st (Request.line .setParameter (name ++ "," ++ saved.1))
        restored.1 = doneReply ∧ restored.2.instrument.value? name = some v := by
  intro v st name i s later
  have hv : v.isFinite = true := by decide +kernel
  have hname : Request.IsName name := ⟨by decide, by decide, by decide +kernel⟩
  have hvalue : s.instrument.value? name = some v := by decide +kernel
  have haccepts : later.instrument.refuses (later.instrument.writes.size + 1) name = false := by
    decide +kernel
  have hbefore : later.instrument.value? name = some 120 := by decide +kernel
  have hrestored := ((setParameter_valueText v hv).2.2 st s name hname hvalue).2 later haccepts
  exact ⟨hv, hname, hvalue, haccepts, hbefore, hrestored⟩

end Server

end SpectroRemote
