import SpectroRemote.Proofs.Lines

/-!
# The grammar of requests

A line is a request if, without the blanks around it, it is the name of a verb, or begins with the
name of a verb and a space (`Request.Spells`). It is a request in one way only, and a line that is
none is rejected with its first word (`parse_iff_spells`).
-/

namespace SpectroRemote

namespace Text

/-! ### Blanks at the ends -/

lemma trimBack_eq_nil {w : List Char} (h : ∀ c ∈ w, isBlank c = true) : trimBack w = [] := by
  rw [trimBack, List.reverse_eq_nil_iff, List.dropWhile_eq_nil_iff]
  intro c hc
  exact h c (List.mem_reverse.mp hc)

lemma trim_blank_append {w : List Char} (h : ∀ c ∈ w, isBlank c = true) (s : List Char) :
    trim (w ++ s) = trim s := by
  rw [trim, trim, trimFront, List.dropWhile_append_of_pos h, trimFront]

lemma trim_append_blank {w : List Char} (h : ∀ c ∈ w, isBlank c = true) (s : List Char) :
    trim (s ++ w) = trim s := by
  rw [← trim_trimBack, trimBack_append, if_pos (trimBack_eq_nil h), trim_trimBack]

/-! ### The first word -/

/-- A text is cut at the first separator, or it holds none. -/
lemma cut_cases (c : Char) (s : List Char) :
    (∃ word rest, c ∉ word ∧ s = word ++ c :: rest ∧ cut c s = (word, some rest))
      ∨ c ∉ s ∧ cut c s = (s, none) := by
  by_cases hc : c ∈ s
  · obtain ⟨word, rest, rfl, hword⟩ := List.eq_append_cons_of_mem hc
    exact .inl ⟨word, rest, hword, rfl, cut_append hword rest⟩
  · exact .inr ⟨hc, cut_of_notMem hc⟩

lemma cut_fst (c : Char) (s : List Char) : (cut c s).1 = s.takeWhile (· ≠ c) := by
  induction s with
  | nil => rfl
  | cons x s ih =>
    by_cases hx : x = c
    · rw [hx, cut_cons_self, List.takeWhile_cons_of_neg (by simp)]
    · rw [cut_cons_of_ne hx, List.takeWhile_cons_of_pos (by simpa using hx), ih]

end Text

lemma trimmed_blank_append {w : String} (h : ∀ c ∈ w.toList, Text.isBlank c = true) (s : String) :
    trimmed (w ++ s) = trimmed s := by
  rw [trimmed, trimmed, String.toList_append, Text.trim_blank_append h]

lemma trimmed_append_blank {w : String} (h : ∀ c ∈ w.toList, Text.isBlank c = true) (s : String) :
    trimmed (s ++ w) = trimmed s := by
  rw [trimmed, trimmed, String.toList_append, Text.trim_append_blank h]

/-! ### Names of verbs -/

lemma Verb.ofName?_eq_some_iff {word : String} {v : Verb} :
    ofName? word = some v ↔ word = v.name := by
  constructor
  · intro h
    have hname := List.find?_some h
    exact (of_decide_eq_true hname).symm
  · rintro rfl
    exact v.ofName?_name

lemma Verb.space_notMem_name (v : Verb) : ' ' ∉ v.name.toList := by
  intro h
  exact absurd (v.name_solid.2 _ h) (by decide)

namespace Request

/-! ### Spellings -/

/-- What is left of the line without the blanks around it is the name of the verb, or the name, a
space, and a text that is the argument when the blanks around it do not count. -/
def Spells (line : String) (r : Request) : Prop :=
  SpectroRemote.trimmed line = r.verb.name ∧ r.argument = ""
    ∨ ∃ text, SpectroRemote.trimmed line = Request.line r.verb text
      ∧ r.argument = SpectroRemote.trimmed text

/-- What stands before the first space of a line, if the blanks around the line do not count. -/
def firstWord (line : String) : String :=
  String.ofList ((SpectroRemote.trimmed line).toList.takeWhile (· ≠ ' '))

lemma trim_toList (line : String) :
    Text.trim line.toList = (SpectroRemote.trimmed line).toList := by
  rw [SpectroRemote.trimmed, String.toList_ofList]

/-- Lines that differ in the blanks around them are read alike. -/
lemma parse_congr {line line' : String}
    (h : SpectroRemote.trimmed line = SpectroRemote.trimmed line') : parse line = parse line' := by
  rw [parse, parse, trim_toList, trim_toList, h]

lemma parse_of_spells {line : String} {r : Request} (h : Spells line r) : parse line = .ok r := by
  obtain ⟨verb, argument⟩ := r
  rcases h with ⟨hname, rfl⟩ | ⟨text, hline, rfl⟩
  · rw [parse, trim_toList, hname, Text.cut_of_notMem verb.space_notMem_name]
    simp only [String.ofList_toList, Verb.ofName?_name]
    rfl
  · have htext : (Request.line verb text).toList = verb.name.toList ++ ' ' :: text.toList := by
      simp [Request.line]
    rw [parse, trim_toList, hline, htext, Text.cut_append verb.space_notMem_name]
    simp only [String.ofList_toList, Verb.ofName?_name, Option.getD_some]
    rfl

lemma spells_of_parse {line : String} {r : Request} (h : parse line = .ok r) : Spells line r := by
  rw [parse, trim_toList] at h
  rcases Text.cut_cases ' ' (SpectroRemote.trimmed line).toList with
    ⟨word, rest, -, hline, hcut⟩ | ⟨-, hcut⟩
  · rw [hcut] at h
    dsimp only at h
    split at h
    · next verb hverb =>
      cases h
      refine .inr ⟨String.ofList rest, ?_, ?_⟩
      · apply String.toList_injective
        rw [hline, Request.line, ← Verb.ofName?_eq_some_iff.mp hverb]
        simp
      · rw [SpectroRemote.trimmed, String.toList_ofList]
        rfl
    · cases h
  · rw [hcut] at h
    dsimp only at h
    split at h
    · next verb hverb =>
      cases h
      rw [String.ofList_toList] at hverb
      exact .inl ⟨Verb.ofName?_eq_some_iff.mp hverb, rfl⟩
    · cases h

/-- A line that is no request is rejected with its first word. -/
lemma eq_of_parse_error {line : String} {e : Failure} (h : parse line = .error e) :
    e = .unknownVerb (firstWord line) := by
  rw [parse, trim_toList] at h
  dsimp only at h
  split at h
  · cases h
  · rw [Text.cut_fst] at h
    exact (Except.error.inj h).symm

/-- A line is read as the request that it spells, and any other line is rejected with its first
word. In particular, blanks before the verb, and around the argument, do not count. -/
theorem parse_iff_spells :
    (∀ line r, parse line = .ok r ↔ Spells line r)
      ∧ (∀ line e, parse line = .error e ↔
        (∀ r, ¬ Spells line r) ∧ e = .unknownVerb (firstWord line))
      ∧ ∀ (verb : Verb) (argument w₁ w₂ w₃ : String), SpectroRemote.trimmed argument = argument →
          (∀ w ∈ [w₁, w₂, w₃], ∀ c ∈ w.toList, Text.isBlank c = true) →
            parse (w₁ ++ verb.name ++ " " ++ w₂ ++ argument ++ w₃) = .ok ⟨verb, argument⟩ := by
  have hiff (line : String) (r : Request) : parse line = .ok r ↔ Spells line r :=
    ⟨spells_of_parse, parse_of_spells⟩
  refine ⟨hiff, fun line e => ⟨fun h => ⟨fun r hr => ?_, eq_of_parse_error h⟩, ?_⟩, ?_⟩
  · rw [(hiff line r).mpr hr] at h
    cases h
  · rintro ⟨hno, rfl⟩
    cases h : parse line with
    | ok r => exact absurd (spells_of_parse h) (hno r)
    | error e => rw [eq_of_parse_error h]
  · intro verb argument w₁ w₂ w₃ hargument hblank
    have htext : SpectroRemote.trimmed (w₂ ++ argument ++ w₃) = argument := by
      rw [trimmed_append_blank (hblank w₃ (by simp)), trimmed_blank_append (hblank w₂ (by simp)),
        hargument]
    have hline : w₁ ++ verb.name ++ " " ++ w₂ ++ argument ++ w₃
        = w₁ ++ Request.line verb (w₂ ++ argument ++ w₃) := by
      simp only [Request.line, String.append_assoc]
    rw [hline, parse_congr (trimmed_blank_append (hblank w₁ (by simp)) _), parse_line, htext]

example : parse "\u3000\tSetHV \u2003 4.5  kV\r\n" = .ok ⟨.setHV, "4.5  kV"⟩ := by decide +kernel

end Request

end SpectroRemote
