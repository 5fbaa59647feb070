import SpectroRemote.Proofs.Requests

/-!
# Rejected requests

Whatever serving a request may change, it is over only when the reply tells that the change was made
or could not be made (`TellsOutcome`). The reply to a request that is rejected tells neither, so a
rejected request leaves the state as it is, and a sequence of requests comes to the same without it
(`serveLines_kept`).
-/

namespace SpectroRemote.Server

/-! ### Replies that tell what came of a change -/

/-- The reply tells that something was done, or that it could not be done. -/
def TellsOutcome (reply : String) : Prop :=
  reply = doneReply ∨ "Error: could not ".toList <+: reply.toList

lemma TellsOutcome.ne_rejection {reply : String} (h : TellsOutcome reply) :
    reply ≠ Failure.rejectionReply := by
  rintro rfl
  exact absurd h (by unfold TellsOutcome; decide)

lemma begins_append {start : List Char} {t : String} (h : start <+: t.toList) (u : String) :
    start <+: (t ++ u).toList := by
  rw [String.toList_append]
  exact h.trans (List.prefix_append _ _)

/-- An error that tells what could not be done. -/
lemma tellsOutcome_of_begins {reason : String} (h : "could not ".toList <+: reason.toList) :
    TellsOutcome ("Error: " ++ reason) := by
  have hstart : "Error: could not ".toList = "Error: ".toList ++ "could not ".toList := by decide
  refine .inr ?_
  rw [String.toList_append, hstart]
  exact (List.prefix_append_right_inj _).mpr h

lemma tellsOutcome_writeRefused (parameter : String) (v : Float) :
    TellsOutcome (Failure.writeRefused parameter v).reply :=
  .inr (begins_append (begins_append (begins_append (by decide) _) _) _)

lemma tellsOutcome_unknownCup (name : String) :
    TellsOutcome (Failure.lookup (.unknownCup name)).reply :=
  tellsOutcome_of_begins (begins_append (by decide) name)

/-- The reply tells of success, or that a write of the parameter was refused. -/
def TellsWrite (name reply : String) : Prop :=
  reply = doneReply ∨ ∃ v, reply = (Failure.writeRefused name v).reply

lemma TellsWrite.tellsOutcome {name reply : String} (h : TellsWrite name reply) :
    TellsOutcome reply := by
  rcases h with rfl | ⟨v, rfl⟩
  · exact .inl rfl
  · exact tellsOutcome_writeRefused name v

variable {σ : Type}

/-- The text of the reply that serving a request comes to. -/
def replyText (o : Outcome σ) : String :=
  match o.1 with
  | .ok reply => reply
  | .error e => e.reply

/-- The state is still `s`, or the reply tells what came of a change. -/
def Spares (s : Server σ) (o : Outcome σ) : Prop := o.2 = s ∨ TellsOutcome (replyText o)

lemma spares_answer (s : Server σ) (reply : String) : s.Spares (s.answer reply) := .inl rfl

lemma spares_withValue {α : Type} {s : Server σ} {value : Except Failure α} {next : α → Outcome σ}
    (h : ∀ a, s.Spares (next a)) : s.Spares (s.withValue value next) := by
  cases value with
  | error e => exact .inl rfl
  | ok a => exact h a

lemma spares_of_cases {s : Server σ} {name : String} {x : String × Server σ}
    (h : x = (Failure.rejectionReply, s) ∨ TellsWrite name x.1) : s.Spares (replied x) :=
  h.imp (congrArg Prod.snd) TellsWrite.tellsOutcome

/-! ### Replies to writes -/

variable [Instrument σ]

lemma reply_of_read_error {s : Server σ} {name : String} {e : Failure}
    (h : s.read name = .error e) : e.reply = Failure.rejectionReply := by
  rw [read] at h
  split at h
  · cases h
  · cases h
    rfl

lemma tellsWrite_of_write {s s' : Server σ} {name : String} {v : Float} {e : Failure}
    (h : s.write name v = (.error e, s')) : TellsWrite name e.reply := by
  rw [write] at h
  split at h
  · cases h
  · cases h
    exact .inr ⟨v, rfl⟩

lemma tellsWrite_writeAndReply (s : Server σ) (name : String) (v : Float) :
    TellsWrite name (s.writeAndReply name v).1 := by
  rw [writeAndReply]
  split
  · exact .inl rfl
  · next hwrite => exact tellsWrite_of_write hwrite

/-- Blanking and restoring are rejected, with nothing changed, if the y symmetry cannot be read. -/
lemma switchBlanking_cases (st : Station) (s : Server σ) (blank : Bool) :
    s.switchBlanking st blank = (Failure.rejectionReply, s)
      ∨ TellsWrite st.settings.hardware.ySymmetry (s.switchBlanking st blank).1 := by
  unfold switchBlanking
  split
  · exact .inr (.inl rfl)
  · split
    · unfold blankBeam
      dsimp only
      split
      · next hread => exact .inl (by rw [reply_of_read_error hread])
      · split
        · next hwrite => exact .inr (tellsWrite_of_write hwrite)
        · exact .inr (.inl rfl)
    · unfold unblankBeam
      split
      · next hwrite => exact .inr (tellsWrite_of_write hwrite)
      · exact .inr (.inl rfl)
    · exact .inr (.inl rfl)

lemma tellsWrite_writeSetpoint (st : Station) (s : Server σ) (field : Float) :
    TellsWrite st.settings.hardware.magnetDac (s.writeSetpoint st field).1 := by
  rw [writeSetpoint]
  split
  · exact .inl rfl
  · next hwrite => exact tellsWrite_of_write hwrite

/-- The reply to a move is that to its last write, which was tried. -/
lemma tellsWrite_continueMove (st : Station) (fields : List Float) {r : String × Server σ}
    (h : TellsWrite st.settings.hardware.magnetDac r.1) :
    TellsWrite st.settings.hardware.magnetDac (continueMove st fields r).1 := by
  induction fields generalizing r with
  | nil => exact h
  | cons field rest ih =>
    rw [continueMove]
    exact ih (tellsWrite_writeSetpoint st _ field)

/-- A move of the magnet is rejected, with nothing changed, if the field cannot be read. -/
lemma setMagnet_cases (st : Station) (s : Server σ) (target : Float) :
    s.setMagnet st target = (Failure.rejectionReply, s)
      ∨ TellsWrite st.settings.hardware.magnetDac (s.setMagnet st target).1 := by
  rw [setMagnet]
  split
  · next hread => exact .inl (by rw [reply_of_read_error hread])
  · refine .inr ?_
    dsimp only
    unfold carryOut
    split
    · exact .inl rfl
    · exact tellsWrite_continueMove st _ (tellsWrite_writeSetpoint st _ _)

lemma tellsWrite_changeIntegrationTime (st : Station) (s : Server σ) (seconds : Float) :
    TellsWrite "integration time" (replyText (s.changeIntegrationTime st seconds)) := by
  rw [changeIntegrationTime]
  split
  · exact .inl rfl
  · dsimp only
    split
    · exact .inr ⟨seconds, rfl⟩
    · split
      · exact .inr ⟨seconds, rfl⟩
      · exact .inl rfl

/-! ### Other operations -/

lemma tellsOutcome_setSubCup (st : Station) (s : Server σ) (name : String) :
    TellsOutcome (s.setSubCup st name).1 := by
  rw [setSubCup]
  split
  · exact .inl rfl
  · exact .inr (begins_append (by decide) name)

lemma switchIonCounters_reply (s : Server σ) (active : Bool) :
    (s.switchIonCounters active).1 = doneReply := by
  rw [switchIonCounters]
  split <;> rfl

lemma tellsOutcome_applyTune (st : Station) (s : Server σ) (name : String) :
    TellsOutcome (replyText (done (s.applyTune st name))) := by
  have hfailed : TellsOutcome (Failure.tune ("could not set tuning settings " ++ name)).reply :=
    tellsOutcome_of_begins (begins_append (by decide) name)
  unfold applyTune
  dsimp only
  split
  · exact hfailed
  · split
    · exact hfailed
    · exact .inl rfl

/-- Asking for the sub-cups of an unknown cup configuration leaves an event, and is not rejected. -/
lemma spares_subCupNames (s : Server σ) (name : String) :
    s.Spares ((s.subCupNames name).1.map ("\r".intercalate ·), (s.subCupNames name).2) := by
  rw [subCupNames, cupNamed]
  cases s.allCups with
  | error e => exact .inl rfl
  | ok cups =>
    dsimp only
    cases cups.find? fun c => c.name = name with
    | none => exact .inr (tellsOutcome_unknownCup name)
    | some cup => exact .inl rfl

/-! ### Requests -/

/-- A request changes something only if its reply tells what came of it. -/
theorem spares_serveRequest (st : Station) (s : Server σ) (r : Request) :
    s.Spares (s.serveRequest st r) := by
  cases hw : r.write? st.settings.hardware with
  | some w =>
    rw [serveRequest_of_write? hw]
    exact spares_withValue fun p => .inr (tellsWrite_writeAndReply s _ _).tellsOutcome
  | none =>
    obtain ⟨verb, argument⟩ := r
    cases verb
    case setTuningSettings =>
      exact spares_withValue fun name => .inr (tellsOutcome_applyTune st s name)
    case setIntegrationTime =>
      exact spares_withValue fun v => .inr (tellsWrite_changeIntegrationTime st s v).tellsOutcome
    case blankBeam =>
      simp only [serveRequest]
      split
      · exact spares_answer s _
      · exact spares_withValue fun a => spares_of_cases (switchBlanking_cases st s _)
    case getSubCupConfigurationList => exact spares_withValue fun name => spares_subCupNames s name
    case setSubCupConfiguration =>
      exact spares_withValue fun name => .inr (tellsOutcome_setSubCup st s name)
    case activateIonCounter => exact .inr (.inl (switchIonCounters_reply s true))
    case deactivateIonCounter => exact .inr (.inl (switchIonCounters_reply s false))
    case setMagnetDAC => exact spares_withValue fun v => spares_of_cases (setMagnet_cases st s v)
    all_goals first
      | exact spares_answer s _
      | exact spares_withValue fun _ => spares_answer s _
      | exact .inl rfl
      | exact absurd hw (by simp [Request.write?])

/-- A request line that is answered as a rejected one changes nothing. -/
lemma serveLine_of_rejected {st : Station} {s : Server σ} {line : String}
    (h : (s.serveLine st line).1 = Failure.rejectionReply) : (s.serveLine st line).2 = s := by
  cases hparse : Request.parse line with
  | error e => rw [serveLine_of_parse_error hparse]
  | ok r =>
    rw [serveLine_of_parse hparse]
    rw [serveLine_reply hparse] at h
    exact (spares_serveRequest st s r).resolve_right fun htells => htells.ne_rejection h

/-! ### Sequences of requests -/

/-- The lines that are not answered as rejected ones. -/
def kept (st : Station) (s : Server σ) (lines : List String) : List String :=
  ((lines.zip (s.serveLines st lines).1).filter fun p => p.2 ≠ Failure.rejectionReply).map (·.1)

lemma kept_cons (st : Station) (s : Server σ) (line : String) (rest : List String) :
    s.kept st (line :: rest) =
      if (s.serveLine st line).1 = Failure.rejectionReply then
        (s.serveLine st line).2.kept st rest
      else line :: (s.serveLine st line).2.kept st rest := by
  simp only [kept, serveLines, List.zip_cons_cons, List.filter_cons]
  split <;> next h => simp_all

/-- A request line that is answered as a rejected one leaves all of the state as it is. So a
sequence of request lines without those that are rejected ends in the same state, with the same
replies to the lines that are left. -/
theorem serveLines_kept (st : Station) (s : Server σ) :
    (∀ line, (s.serveLine st line).1 = Failure.rejectionReply → (s.serveLine st line).2 = s)
      ∧ ∀ lines, s.serveLines st (s.kept st lines) =
        ((s.serveLines st lines).1.filter fun reply => reply ≠ Failure.rejectionReply,
          (s.serveLines st lines).2) := by
  refine ⟨fun line => serveLine_of_rejected, fun lines => ?_⟩
  induction lines generalizing s with
  | nil => rfl
  | cons line rest ih =>
    have hrest := ih (s.serveLine st line).2
    rw [kept_cons]
    by_cases h : (s.serveLine st line).1 = Failure.rejectionReply
    · rw [if_pos h, serveLines]
      dsimp only
      rw [serveLine_of_rejected h] at hrest ⊢
      rw [List.filter_cons_of_neg (by simpa using h), hrest]
    · rw [if_neg h, serveLines, serveLines]
      dsimp only
      rw [hrest, List.filter_cons_of_pos (by simpa using h)]

end SpectroRemote.Server
