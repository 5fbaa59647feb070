import SpectroRemote.Proofs.Footprint
import SpectroRemote.Proofs.Grammar

/-!
# Names with values

Some requests name a parameter and give a value for it. Their argument is cut at commas: the first
field is the name, the second one is the number, and further fields do not count. What comes of an
argument is told by its fields (`Request.ReadsFields`, `nameAndValue_reads_fields`).
-/

namespace SpectroRemote

/-! ### Texts of numbers -/

namespace Decimal

variable {s : List Char}

lemma comma_notMem_of_all_isDigit (h : s.all Char.isDigit = true) : ',' ∉ s := by
  intro hc
  exact absurd (List.all_eq_true.mp h _ hc) (by decide)

lemma comma_mem_splitSign (h : ',' ∈ s) : ',' ∈ (splitSign s).2 := by
  fun_cases splitSign s with
  | case1 s => exact (List.mem_cons.mp h).resolve_left (by decide)
  | case2 s => exact (List.mem_cons.mp h).resolve_left (by decide)
  | case3 => exact h

lemma comma_notMem_of_readExponent? {n : Int} (h : readExponent? s = some n) : ',' ∉ s := by
  intro hc
  rw [readExponent?] at h
  dsimp only at h
  split at h
  · cases h
  · next hdigits =>
    simp only [Bool.or_eq_true, Bool.not_eq_true', not_or, Bool.not_eq_false] at hdigits
    exact comma_notMem_of_all_isDigit hdigits.2 (comma_mem_splitSign hc)

lemma comma_notMem_of_readScale? {n : Int} (h : readScale? s = some n) : ',' ∉ s := by
  cases s with
  | nil => exact List.not_mem_nil
  | cons c s =>
    rw [readScale?] at h
    split at h
    · next hletter =>
      refine List.not_mem_cons_of_ne_of_not_mem ?_ (comma_notMem_of_readExponent? h)
      rintro rfl
      revert hletter
      decide
    · cases h

lemma comma_mem_span (h : ',' ∈ s) : ',' ∈ (s.span Char.isDigit).2 := by
  rw [List.span_eq_takeWhile_dropWhile]
  rw [← List.takeWhile_append_dropWhile (p := Char.isDigit) (l := s)] at h
  refine (List.mem_append.mp h).resolve_left fun hc => ?_
  exact absurd (List.mem_takeWhile_imp hc) (by decide)

lemma comma_mem_splitFraction (h : ',' ∈ s) : ',' ∈ (splitFraction s).2 := by
  fun_cases splitFraction s with
  | case1 s => exact comma_mem_span ((List.mem_cons.mp h).resolve_left (by decide))
  | case2 => exact h

lemma comma_notMem_of_readScientific? {x : Scientific} (h : readScientific? s = some x) :
    ',' ∉ s := by
  intro hc
  have hrest := comma_mem_splitFraction (comma_mem_span hc)
  rw [readScientific?] at h
  obtain ⟨n, hn, -⟩ := Option.bind_eq_some_iff.mp h
  exact comma_notMem_of_readScale? hn hrest

/-- No number has a comma in its text. -/
lemma comma_notMem_of_read? {v : Float} (h : read? s = some v) : ',' ∉ s := by
  intro hc
  have hrest := comma_mem_splitSign hc
  have hword : ',' ∈ (splitSign s).2.map Char.toLower := List.mem_map.mpr ⟨',', hrest, by decide⟩
  rw [read?] at h
  dsimp only at h
  split at h
  · next hinfinity =>
    simp only [Bool.or_eq_true, decide_eq_true_eq] at hinfinity
    rcases hinfinity with heq | heq
    · rw [heq] at hword
      exact absurd hword (by decide)
    · rw [heq] at hword
      exact absurd hword (by decide)
  · split at h
    · next hnan =>
      rw [hnan] at hword
      exact absurd hword (by decide)
    · obtain ⟨x, hx, -⟩ := Option.map_eq_some_iff.mp h
      exact comma_notMem_of_readScientific? hx hrest

end Decimal

/-! ### Cutting and trimming -/

namespace Text

variable {c : Char} {s : List Char}

lemma mem_trimBack (hc : isBlank c = false) (h : c ∈ s) : c ∈ trimBack s := by
  induction s with
  | nil => cases h
  | cons d s ih =>
    cases hd : isBlank d with
    | false =>
      rw [trimBack_cons_of_not_blank hd]
      exact (List.mem_cons.mp h).elim (fun heq => heq ▸ .head _) fun h => .tail _ (ih h)
    | true =>
      have hmem := ih ((List.mem_cons.mp h).resolve_left fun heq => by simp [heq, hd] at hc)
      rw [trimBack_cons_of_blank hd, if_neg (List.ne_nil_of_mem hmem)]
      exact .tail _ hmem

lemma mem_trimFront (hc : isBlank c = false) (h : c ∈ s) : c ∈ trimFront s := by
  rw [← List.takeWhile_append_dropWhile (p := isBlank) (l := s)] at h
  refine (List.mem_append.mp h).resolve_left fun hblank => ?_
  rw [List.mem_takeWhile_imp hblank] at hc
  cases hc

lemma mem_trim (hc : isBlank c = false) (h : c ∈ s) : c ∈ trim s :=
  mem_trimBack hc (mem_trimFront hc h)

lemma trimFront_trimFront (s : List Char) : trimFront (trimFront s) = trimFront s :=
  List.dropWhile_idempotent _ s

lemma trim_trimFront (s : List Char) : trim (trimFront s) = trim s := by
  rw [trim, trim, trimFront_trimFront]

/-- Blanks in front of a text are blanks in front of what is cut off. -/
lemma cut_trimFront (hc : isBlank c = false) (s : List Char) :
    cut c (trimFront s) = (trimFront (cut c s).1, (cut c s).2) := by
  induction s with
  | nil => rfl
  | cons d s ih =>
    cases hd : isBlank d with
    | false =>
      rw [trimFront_cons_of_not_blank hd]
      by_cases hdc : d = c
      · rw [hdc, cut_cons_self]
        rfl
      · rw [cut_cons_of_ne hdc, trimFront_cons_of_not_blank hd]
    | true =>
      have hdc : d ≠ c := fun heq => by simp [← heq, hd] at hc
      rw [trimFront_cons_of_blank hd, ih, cut_cons_of_ne hdc, trimFront_cons_of_blank hd]

/-- Blanks after a text are blanks after what follows the cut, if there is a cut. -/
lemma cut_trimBack (hc : isBlank c = false) (s : List Char) :
    cut c (trimBack s) =
      match cut c s with
      | (field, some rest) => (field, some (trimBack rest))
      | (field, none) => (trimBack field, none) := by
  rcases cut_cases c s with ⟨field, rest, hfield, rfl, hcut⟩ | ⟨hmem, hcut⟩
  · have hrest : trimBack (c :: rest) = c :: trimBack rest := trimBack_cons_of_not_blank hc rest
    rw [hcut, trimBack_append, hrest, if_neg (List.cons_ne_nil _ _), cut_append hfield]
  · have htrim : c ∉ trimBack s := Request.notMem_trimBack hmem
    rw [hcut, cut_of_notMem htrim]

end Text

/-! ### Fields of an argument -/

namespace Request

/-- The text is the field, or goes on with a comma after it. -/
def BeginsWithField (text field : String) : Prop :=
  ',' ∉ field.toList ∧ (text = field ∨ ∃ rest, text = field ++ "," ++ rest)

/-- The first field ends at the first comma, and the second one at the next comma or with the
argument. -/
def HasFields (argument first second : String) : Prop :=
  ',' ∉ first.toList ∧ ∃ rest, argument = first ++ "," ++ rest ∧ BeginsWithField rest second

variable {argument first second : String}

lemma cut_of_beginsWithField {text field : String} (h : BeginsWithField text field) :
    (Text.cut ',' text.toList).1 = field.toList := by
  obtain ⟨hcomma, rfl | ⟨rest, rfl⟩⟩ := h
  · rw [Text.cut_of_notMem hcomma]
  · have htext : (field ++ "," ++ rest).toList = field.toList ++ ',' :: rest.toList := by simp
    rw [htext, Text.cut_append hcomma]

lemma HasFields.cut (h : HasFields argument first second) :
    ∃ rest, Text.cut ',' argument.toList = (first.toList, some rest)
      ∧ (Text.cut ',' rest).1 = second.toList := by
  obtain ⟨hcomma, rest, rfl, hrest⟩ := h
  refine ⟨rest.toList, ?_, cut_of_beginsWithField hrest⟩
  have htext : (first ++ "," ++ rest).toList = first.toList ++ ',' :: rest.toList := by simp
  rw [htext, Text.cut_append hcomma]

lemma exists_beginsWithField (text : String) : ∃ field, BeginsWithField text field := by
  rcases Text.cut_cases ',' text.toList with ⟨field, rest, hfield, htext, -⟩ | ⟨htext, -⟩
  · refine ⟨String.ofList field, by simpa using hfield, .inr ⟨String.ofList rest, ?_⟩⟩
    apply String.toList_injective
    simpa using htext
  · exact ⟨text, htext, .inl rfl⟩

/-- An argument with a comma has two fields. -/
lemma exists_hasFields (h : ',' ∈ argument.toList) :
    ∃ first second, HasFields argument first second := by
  obtain ⟨field, rest, htext, hfield⟩ := List.eq_append_cons_of_mem h
  obtain ⟨second, hsecond⟩ := exists_beginsWithField (String.ofList rest)
  refine ⟨String.ofList field, second, by simpa using hfield, String.ofList rest, ?_, hsecond⟩
  apply String.toList_injective
  simpa using htext

/-! ### Name and value -/

/-- How an argument is read from its cut at the first comma. One that is not there has no comma. -/
lemma nameAndValue_eq (r : Request) :
    r.nameAndValue =
      match Text.cut ',' r.argument.toList with
      | (_, none) => .error (.missingArgument r.verb)
      | (first, some rest) =>
        if (Text.trim first).isEmpty then .error (.missingArgument r.verb)
        else (readFinite (Text.cut ',' rest).1).map
          fun v => (String.ofList (Text.trim first), v) := by
  obtain ⟨verb, argument⟩ := r
  by_cases hempty : argument = ""
  · subst hempty
    rfl
  · rw [nameAndValue, givenArgument_of_ne hempty]
    simp only [bind, Except.bind]
    cases Text.cut ',' argument.toList with
    | mk first rest =>
      cases rest with
      | none => rfl
      | some rest =>
        dsimp only
        split
        · rfl
        · cases readFinite (Text.cut ',' rest).1 <;> rfl

/-- Blanks around an argument do not count. -/
lemma nameAndValue_trimmed (verb : Verb) (argument : String) :
    nameAndValue ⟨verb, SpectroRemote.trimmed argument⟩ = nameAndValue ⟨verb, argument⟩ := by
  have hcomma : Text.isBlank ',' = false := by decide
  rw [nameAndValue_eq, nameAndValue_eq, SpectroRemote.trimmed, String.toList_ofList, Text.trim,
    Text.cut_trimBack hcomma, Text.cut_trimFront hcomma]
  cases Text.cut ',' argument.toList with
  | mk first rest =>
    cases rest with
    | none => rfl
    | some rest =>
      have hsecond : readFinite (Text.cut ',' (Text.trimBack rest)).1
          = readFinite (Text.cut ',' rest).1 := by
        rw [Text.cut_trimBack hcomma]
        cases Text.cut ',' rest with
        | mk second more =>
          cases more with
          | none => exact readFinite_trimBack second
          | some more => rfl
      dsimp only
      rw [hsecond, Text.trim_trimFront]

/-- An argument with two fields is read as the first one, which must not be blank, with the number
in the second one. -/
lemma nameAndValue_of_hasFields (h : HasFields argument first second) (verb : Verb) :
    nameAndValue ⟨verb, argument⟩ =
      if SpectroRemote.trimmed first = "" then .error (.missingArgument verb)
      else (readFinite second.toList).map fun v => (SpectroRemote.trimmed first, v) := by
  obtain ⟨rest, hcut, hsecond⟩ := h.cut
  have hblank : (Text.trim first.toList).isEmpty = true ↔ SpectroRemote.trimmed first = "" := by
    rw [List.isEmpty_iff, SpectroRemote.trimmed, String.ofList_eq_empty_iff]
  rw [nameAndValue_eq, hcut]
  dsimp only
  rw [hsecond]
  exact if_congr hblank rfl rfl

lemma nameAndValue_of_notMem (h : ',' ∉ argument.toList) (verb : Verb) :
    nameAndValue ⟨verb, argument⟩ = .error (.missingArgument verb) := by
  rw [nameAndValue_eq, Text.cut_of_notMem h]

lemma comma_notMem_of_readFinite {text : List Char} {v : Float} (h : readFinite text = .ok v) :
    ',' ∉ text := by
  intro hc
  rw [readFinite] at h
  split at h
  · next w hw =>
    exact Decimal.comma_notMem_of_read? hw (Text.mem_trim (by decide) hc)
  · cases h

lemma eq_of_readFinite_error {text : List Char} {e : Failure} (h : readFinite text = .error e) :
    e = .notANumber (String.ofList (Text.trim text)) := by
  rw [readFinite] at h
  split at h
  · split at h
    · cases h
    · exact (Except.error.inj h).symm
  · exact (Except.error.inj h).symm

/-- What comes of an argument. -/
inductive ReadsFields (verb : Verb) (argument : String) : Except Failure (String × Float) → Prop
  /-- Without a comma the value is missing, and an empty argument has no comma either. -/
  | noComma (h : ',' ∉ argument.toList) :
      ReadsFields verb argument (.error (.missingArgument verb))
  | noName {first second : String} (hfields : HasFields argument first second)
      (hname : SpectroRemote.trimmed first = "") :
      ReadsFields verb argument (.error (.missingArgument verb))
  | noNumber {first second : String} (hfields : HasFields argument first second)
      (hname : SpectroRemote.trimmed first ≠ "") (hnumber : ∀ v, readFinite second.toList ≠ .ok v) :
      ReadsFields verb argument (.error (.notANumber (SpectroRemote.trimmed second)))
  | both {first second : String} {v : Float} (hfields : HasFields argument first second)
      (hname : SpectroRemote.trimmed first ≠ "") (hnumber : readFinite second.toList = .ok v) :
      ReadsFields verb argument (.ok (SpectroRemote.trimmed first, v))

variable {verb : Verb}

lemma nameAndValue_of_readsFields {outcome : Except Failure (String × Float)}
    (h : ReadsFields verb argument outcome) : nameAndValue ⟨verb, argument⟩ = outcome := by
  cases h with
  | noComma h => exact nameAndValue_of_notMem h verb
  | noName hfields hname => rw [nameAndValue_of_hasFields hfields, if_pos hname]
  | @noNumber first second hfields hname hnumber =>
    rw [nameAndValue_of_hasFields hfields, if_neg hname]
    cases hread : readFinite second.toList with
    | ok v => exact absurd hread (hnumber v)
    | error e =>
      rw [eq_of_readFinite_error hread]
      rfl
  | both hfields hname hnumber =>
    rw [nameAndValue_of_hasFields hfields, if_neg hname, hnumber]
    rfl

lemma exists_readsFields (verb : Verb) (argument : String) :
    ∃ outcome, ReadsFields verb argument outcome := by
  by_cases hcomma : ',' ∈ argument.toList
  · obtain ⟨first, second, hfields⟩ := exists_hasFields hcomma
    by_cases hname : SpectroRemote.trimmed first = ""
    · exact ⟨_, .noName hfields hname⟩
    · cases hread : readFinite second.toList with
      | ok v => exact ⟨_, .both hfields hname hread⟩
      | error e =>
        refine ⟨_, .noNumber hfields hname fun v h => ?_⟩
        rw [hread] at h
        cases h
  · exact ⟨_, .noComma hcomma⟩

/-- An argument is read as its fields say. -/
lemma nameAndValue_eq_iff {outcome : Except Failure (String × Float)} :
    nameAndValue ⟨verb, argument⟩ = outcome ↔ ReadsFields verb argument outcome := by
  constructor
  · rintro rfl
    obtain ⟨outcome, h⟩ := exists_readsFields verb argument
    rwa [nameAndValue_of_readsFields h]
  · exact nameAndValue_of_readsFields

end Request

/-! ### Requests that name a parameter -/

namespace Request

variable {name text w₁ w₂ w₃ tail : String} {v : Float}

/-- A name and a number are read with blanks around them, and with further fields after them. -/
lemma nameAndValue_of_blanks (hname : IsName name) (hnumber : readFinite text.toList = .ok v)
    (hblank : ∀ w ∈ [w₁, w₂, w₃], ∀ c ∈ w.toList, Text.isBlank c = true)
    (htail : tail = "" ∨ ∃ rest, tail = "," ++ rest) (verb : Verb) :
    nameAndValue ⟨verb, name ++ w₁ ++ "," ++ (w₂ ++ text ++ w₃ ++ tail)⟩ = .ok (name, v) := by
  have hw₁ := hblank w₁ (by simp)
  have hw₂ := hblank w₂ (by simp)
  have hw₃ := hblank w₃ (by simp)
  have hcomma {w : String} (h : ∀ c ∈ w.toList, Text.isBlank c = true) : ',' ∉ w.toList :=
    fun hc => absurd (h _ hc) (by decide)
  have hfields : HasFields (name ++ w₁ ++ "," ++ (w₂ ++ text ++ w₃ ++ tail)) (name ++ w₁)
      (w₂ ++ text ++ w₃) := by
    refine ⟨?_, _, rfl, ?_, ?_⟩
    · simp [hname.comma, hcomma hw₁]
    · simp [comma_notMem_of_readFinite hnumber, hcomma hw₂, hcomma hw₃]
    · rcases htail with rfl | ⟨rest, rfl⟩
      · exact .inl String.append_empty
      · exact .inr ⟨rest, String.append_assoc.symm⟩
  have hfirst : SpectroRemote.trimmed (name ++ w₁) = name := by
    rw [trimmed_append_blank hw₁, hname.trimmed]
  have hsecond : readFinite (w₂ ++ text ++ w₃).toList = .ok v := by
    rw [String.toList_append, String.toList_append, readFinite, Text.trim_append_blank hw₃,
      Text.trim_blank_append hw₂, ← hnumber, readFinite]
  rw [nameAndValue_of_hasFields hfields, hfirst, if_neg hname.ne_empty, hsecond]
  rfl

end Request

namespace Server

open Request

/-- An argument is read as its fields say (`Request.ReadsFields`). So a request with a name, a comma
and a number writes this number to the parameter of this name, or of the deflection for it, and
nothing else, whatever blanks stand before the comma and around the number, and whatever follows a
second comma. If the write is accepted, the parameter has this value. -/
theorem nameAndValue_reads_fields :
    (∀ verb argument outcome,
        nameAndValue ⟨verb, argument⟩ = outcome ↔ ReadsFields verb argument outcome)
      ∧ ∀ (st : Station) (s : Server SimulatedInstrument) (name text w₁ w₂ w₃ tail : String)
          (v : Float), IsName name → readFinite text.toList = .ok v →
          (∀ w ∈ [w₁, w₂, w₃], ∀ c ∈ w.toList, Text.isBlank c = true) →
          (tail = "" ∨ ∃ rest, tail = "," ++ rest) →
            let argument := name ++ w₁ ++ "," ++ w₂ ++ text ++ w₃ ++ tail
            let writes (line : String) := (s.serveLine st line).2.instrument.writes
            let sets (line p : String) := (s.serveLine st line).2.instrument.value? p
              = if (s.serveLine st line).1 = doneReply then some v else s.instrument.value? p
            (writes ("SetParameter " ++ argument) = s.instrument.writes.push (name, v)
              ∧ sets ("SetParameter " ++ argument) name)
            ∧ writes ("SetDeflection " ++ argument)
                = s.instrument.writes.push ("Deflection " ++ name ++ " Set", v)
              ∧ sets ("SetDeflection " ++ argument) ("Deflection " ++ name ++ " Set") := by
  refine ⟨fun verb argument outcome => nameAndValue_eq_iff, ?_⟩
  intro st s name text w₁ w₂ w₃ tail v hname hnumber hblank htail argument writes sets
  have hargument : argument = name ++ w₁ ++ "," ++ (w₂ ++ text ++ w₃ ++ tail) := by
    simp only [argument, String.append_assoc]
  have hread (verb : Verb) : nameAndValue ⟨verb, argument⟩ = .ok (name, v) := by
    rw [hargument]
    exact nameAndValue_of_blanks hname hnumber hblank htail verb
  constructor
  · have hwrite : Request.write? st.settings.hardware ⟨.setParameter, trimmed argument⟩
        = some (.ok (name, v)) := by
      rw [Request.write?, nameAndValue_trimmed, hread]
    have hverb : "SetParameter " = Verb.setParameter.name ++ " " := by decide
    have hline : s.serveLine st ("SetParameter " ++ argument) = s.writeAndReply name v := by
      rw [hverb]
      exact serveLine_of_write? hwrite s
    have hwrites := writes_writeAndReply s name v
    have hvalue := value?_writeAndReply s name v
    rw [← hline] at hwrites hvalue
    exact ⟨hwrites, hvalue⟩
  · have hdeflection : ParameterName.deflection name = "Deflection " ++ name ++ " Set" := by
      rw [ParameterName.deflection, hname.trimmed]
    have hwrite : Request.write? st.settings.hardware ⟨.setDeflection, trimmed argument⟩
        = some (.ok (ParameterName.deflection name, v)) := by
      rw [Request.write?, nameAndValue_trimmed, hread]
      rfl
    have hverb : "SetDeflection " = Verb.setDeflection.name ++ " " := by decide
    have hline : s.serveLine st ("SetDeflection " ++ argument)
        = s.writeAndReply (ParameterName.deflection name) v := by
      rw [hverb]
      exact serveLine_of_write? hwrite s
    have hwrites := writes_writeAndReply s (ParameterName.deflection name) v
    have hvalue := value?_writeAndReply s (ParameterName.deflection name) v
    rw [← hline] at hwrites hvalue
    rw [← hdeflection]
    exact ⟨hwrites, hvalue⟩

/-- Blanks of any kind, a tail of two more fields, and a number with an exponent. -/
theorem nameAndValue_reads_fields_deflection :
    let st : Station := {}
    let s : Server SimulatedInstrument := { instrument := SimulatedInstrument.multicollector }
    IsName "H 1" ∧ readFinite "-1.5e1".toList = .ok (-15)
      ∧ (s.serveLine st "SetDeflection H 1\u3000,\t-1.5e1 ,x, ").2.instrument.writes
        = #[("Deflection H 1 Set", -15)]
      ∧ (s.serveLine st "SetDeflection H 1\u3000,\t-1.5e1 ,x, ").2.instrument.value?
          "Deflection H 1 Set" = some (-15) := by
  intro st s
  have hname : IsName "H 1" := ⟨by decide, by decide, by decide +kernel⟩
  have hnumber : readFinite "-1.5e1".toList = .ok (-15) := by decide +kernel
  have hblank : ∀ w ∈ ["\u3000", "\t", " "], ∀ c ∈ w.toList, Text.isBlank c = true := by
    simp [Text.isBlank, Text.blankRanges]
  have hline : "SetDeflection H 1\u3000,\t-1.5e1 ,x, "
      = "SetDeflection " ++ ("H 1" ++ "\u3000" ++ "," ++ "\t" ++ "-1.5e1" ++ " " ++ ",x, ") := by
    decide +kernel
  have hdeflection : "Deflection " ++ "H 1" ++ " Set" = "Deflection H 1 Set" := by decide +kernel
  have hdone : (s.serveLine st "SetDeflection H 1\u3000,\t-1.5e1 ,x, ").1 = doneReply := by
    decide +kernel
  obtain ⟨-, hwrites, hsets⟩ := nameAndValue_reads_fields.2 st s "H 1" "-1.5e1" "\u3000" "\t" " "
    ",x, " (-15) hname hnumber hblank (.inr ⟨"x, ", by decide⟩)
  rw [← hline, hdeflection] at hwrites hsets
  rw [if_pos hdone] at hsets
  exact ⟨hname, hnumber, hwrites, hsets⟩

end Server

end SpectroRemote
