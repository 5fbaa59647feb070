import SpectroRemote.Proofs.Lines
import SpectroRemote.Server.Service

/-!
# Kinds of requests

Fourteen verbs write a single parameter and do nothing else; `Request.write?` names the parameter
and the value, and `serveRequest_of_write?` shows that this is all there is to serving them. Verbs
that begin with `Get` are queries. Every other verb has a way of its own.

A request whose argument is not what its verb needs leaves the state as it is.
-/

namespace SpectroRemote

/-! ### Arguments -/

/-- What a verb needs as its argument. -/
inductive ArgumentKind
  | nothing
  | word
  | number
  | nameAndValue
deriving DecidableEq

/-- What a verb needs as its argument. Blanking needs a word even where it is disabled. -/
def Verb.argumentKind : Verb → ArgumentKind
  | setTuningSettings | blankBeam | getSubCupConfigurationList | setSubCupConfiguration
  | getDeflection | getParameter => .word
  | setIntegrationTime | setMagnetDAC | setHighVoltage | setHV | setTrapVoltage
  | setElectronEnergy | setIonRepeller | setYSymmetry | setZSymmetry | setZFocus
  | setExtractionLens | setIonCounterVoltage => .number
  | setDeflection | setParameter => .nameAndValue
  | _ => .nothing

namespace Request

/-- The request has the argument that its verb needs. -/
def IsWellFormed (r : Request) : Prop :=
  match r.verb.argumentKind with
  | .nothing => True
  | .word => ∃ a, r.givenArgument = .ok a
  | .number => ∃ v, r.number = .ok v
  | .nameAndValue => ∃ p, r.nameAndValue = .ok p

/-- An argument that is given is the text after the verb. -/
lemma argument_of_givenArgument {r : Request} {a : String} (h : r.givenArgument = .ok a) :
    a = r.argument := by
  rw [givenArgument] at h
  split at h
  · cases h
  · exact (Except.ok.inj h).symm

end Request

/-- No failure is answered as success is. -/
lemma Failure.reply_ne_done (e : Failure) : e.reply ≠ Server.doneReply := by
  have happend {t u : String} (h : t.toList.head? = some 'E') :
      (t ++ u).toList.head? = some 'E' := by
    rw [String.toList_append, List.head?_append, h]
    rfl
  have hrejection : Failure.rejectionReply.toList.head? = some 'E' := by decide
  suffices h : e.reply.toList.head? = some 'E' by
    intro hdone
    rw [hdone] at h
    exact absurd h (by decide)
  cases e with
  | writeRefused parameter value => exact happend (happend (happend (by decide)))
  | lookup cause => exact happend (by decide)
  | tune reason => exact happend (by decide)
  | transport reason => exact happend (by decide)
  | unreadableSettings reason => exact happend (by decide)
  | invalidSettings reason => exact happend (by decide)
  | cupChangeRefused => decide
  | _ => exact hrejection

/-! ### Queries -/

/-- The verb asks for something and begins with `Get`. -/
def Verb.IsQuery (v : Verb) : Prop := "Get".toList <+: v.name.toList

instance (v : Verb) : Decidable v.IsQuery := inferInstanceAs (Decidable (_ <+: _))

/-! ### Single writes -/

namespace Verb

/-- The verbs that write one parameter. -/
def singleWrites : List Verb :=
  [.open, .close, .setHighVoltage, .setHV, .setTrapVoltage, .setElectronEnergy, .setIonRepeller,
    .setYSymmetry, .setZSymmetry, .setZFocus, .setExtractionLens, .setDeflection,
    .setIonCounterVoltage, .setParameter]

end Verb

/-- The parameter that a request writes and the value for it, if its verb writes one parameter. -/
def Request.write? (names : HardwareSettings) (r : Request) :
    Option (Except Failure (String × Float)) :=
  let setting (name : String) := some (r.number.map fun v => (name, v))
  match r.verb with
  | .open => some (.ok (names.ionPumpValve, 1))
  | .close => some (.ok (names.ionPumpValve, 0))
  | .setHighVoltage | .setHV =>
    some (r.number.map fun v => (ParameterName.accelerationReference, v / 1000))
  | .setTrapVoltage => setting ParameterName.trapVoltage
  | .setElectronEnergy => setting ParameterName.electronEnergy
  | .setIonRepeller => setting ParameterName.ionRepeller
  | .setYSymmetry => setting names.ySymmetry
  | .setZSymmetry => setting ParameterName.zSymmetry
  | .setZFocus => setting ParameterName.zFocus
  | .setExtractionLens => setting ParameterName.extractionLens
  | .setIonCounterVoltage => setting ParameterName.ionCounterSupply
  | .setDeflection => some (r.nameAndValue.map fun p => (ParameterName.deflection p.1, p.2))
  | .setParameter => some r.nameAndValue
  | _ => none

lemma Request.write?_eq_none_iff (names : HardwareSettings) (r : Request) :
    r.write? names = none ↔ r.verb ∉ Verb.singleWrites := by
  obtain ⟨verb, argument⟩ := r
  cases verb <;> simp [write?, Verb.singleWrites]

/-- A well-formed request for a single write names the parameter and the value. -/
lemma Request.IsWellFormed.write? {r : Request} (h : r.IsWellFormed)
    (hv : r.verb ∈ Verb.singleWrites) (names : HardwareSettings) :
    ∃ w, r.write? names = some (.ok w) := by
  have mapped {α : Type} {value : Except Failure α} (f : α → String × Float)
      (hok : ∃ a, value = .ok a) : ∃ w, some (value.map f) = some (.ok w) := by
    obtain ⟨a, rfl⟩ := hok
    exact ⟨f a, rfl⟩
  obtain ⟨verb, argument⟩ := r
  cases verb <;> simp only [Verb.singleWrites, List.mem_cons, reduceCtorEq, false_or, or_false,
    List.not_mem_nil] at hv
  case «open» => exact ⟨_, rfl⟩
  case close => exact ⟨_, rfl⟩
  case setParameter =>
    obtain ⟨p, hp⟩ := h
    exact ⟨p, congrArg some hp⟩
  all_goals exact mapped _ h

namespace Server

variable {σ : Type} [Instrument σ]

omit [Instrument σ] in
lemma withValue_map {α β : Type} (s : Server σ) (value : Except Failure α) (f : α → β)
    (next : β → Outcome σ) :
    s.withValue (value.map f) next = s.withValue value fun a => next (f a) := by
  cases value <;> rfl

/-- Serving a request for a single write is writing, and replying to the write. -/
lemma serveRequest_of_write? {st : Station} {r : Request}
    {w : Except Failure (String × Float)} (h : r.write? st.settings.hardware = some w)
    (s : Server σ) :
    s.serveRequest st r = s.withValue w fun p => replied (s.writeAndReply p.1 p.2) := by
  obtain ⟨verb, argument⟩ := r
  cases verb <;> simp only [Request.write?, reduceCtorEq, Option.some.injEq] at h <;>
    subst h <;> simp only [serveRequest, withValue_map] <;> rfl

/-- The line of a request for a single write is served by this write. -/
lemma serveLine_of_write? {st : Station} {verb : Verb} {argument : String} {p : String × Float}
    (h : Request.write? st.settings.hardware ⟨verb, trimmed argument⟩ = some (.ok p))
    (s : Server σ) : s.serveLine st (Request.line verb argument) = s.writeAndReply p.1 p.2 := by
  rw [serveLine, Request.parse_line]
  dsimp only
  rw [serveRequest_of_write? h]
  rfl

/-- A request without the argument that its verb needs leaves the state as it is. -/
lemma serveRequest_of_not_isWellFormed {r : Request} (h : ¬ r.IsWellFormed) (st : Station)
    (s : Server σ) : (s.serveRequest st r).2 = s := by
  have unchanged {α : Type} {value : Except Failure α} {next : α → Outcome σ}
      (hno : ¬ ∃ a, value = .ok a) : (s.withValue value next).2 = s := by
    cases value with
    | error e => rfl
    | ok a => exact absurd ⟨a, rfl⟩ hno
  obtain ⟨verb, argument⟩ := r
  cases verb
  case blankBeam =>
    simp only [serveRequest]
    split
    · rfl
    · exact unchanged h
  all_goals first | exact unchanged h | exact absurd trivial h

/-! ### Lines -/

lemma serveLine_of_parse_error {line : String} {e : Failure} (h : Request.parse line = .error e)
    (st : Station) (s : Server σ) : s.serveLine st line = (e.reply, s) := by
  rw [serveLine, h]

lemma serveLine_of_parse {line : String} {r : Request} (h : Request.parse line = .ok r)
    (st : Station) (s : Server σ) : (s.serveLine st line).2 = (s.serveRequest st r).2 := by
  rw [serveLine, h]
  dsimp only
  split <;> next heq => rw [heq]

lemma serveLine_reply {line : String} {r : Request} (h : Request.parse line = .ok r)
    (st : Station) (s : Server σ) :
    (s.serveLine st line).1 =
      match (s.serveRequest st r).1 with
      | .ok reply => reply
      | .error e => e.reply := by
  rw [serveLine, h]
  dsimp only
  split <;> next heq => rw [heq]

end Server

end SpectroRemote
