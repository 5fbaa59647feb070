import Mathlib
import SpectroRemote.Request

/-!
# Request lines

How the line with a given verb and argument is read. Blanks at either end of the argument do not
count, and a name before a comma is found again as it was written (`nameAndValue_of_isName`).
-/

namespace SpectroRemote

namespace Text

/-! ### Trimming -/

lemma trimFront_cons_of_blank {c : Char} (h : isBlank c = true) (s : List Char) :
    trimFront (c :: s) = trimFront s := List.dropWhile_cons_of_pos h

lemma trimFront_cons_of_not_blank {c : Char} (h : isBlank c = false) (s : List Char) :
    trimFront (c :: s) = c :: s := List.dropWhile_cons_of_neg (by simp [h])

lemma trimBack_append (s t : List Char) :
    trimBack (s ++ t) = if trimBack t = [] then trimBack s else s ++ trimBack t := by
  rw [trimBack, List.reverse_append, List.dropWhile_append]
  by_cases h : t.reverse.dropWhile isBlank = []
  · rw [if_pos (by simpa using h), if_pos (by rw [trimBack, h]; rfl), trimBack]
  · rw [if_neg (by simpa using h), if_neg (by simpa [trimBack] using h), List.reverse_append,
      List.reverse_reverse, trimBack]

lemma trimBack_cons_of_not_blank {c : Char} (h : isBlank c = false) (s : List Char) :
    trimBack (c :: s) = c :: trimBack s := by
  have hc : trimBack [c] = [c] := by simp [trimBack, h]
  rw [← List.singleton_append, trimBack_append, hc]
  split
  · next hs => rw [hs]
  · rfl

lemma trimBack_cons_of_blank {c : Char} (h : isBlank c = true) (s : List Char) :
    trimBack (c :: s) = if trimBack s = [] then [] else c :: trimBack s := by
  have hc : trimBack [c] = [] := by simp [trimBack, h]
  rw [← List.singleton_append, trimBack_append, hc]
  rfl

lemma trimBack_trimBack (s : List Char) : trimBack (trimBack s) = trimBack s := by
  induction s with
  | nil => rfl
  | cons c s ih =>
    cases h : isBlank c with
    | false => rw [trimBack_cons_of_not_blank h, trimBack_cons_of_not_blank h, ih]
    | true =>
      rw [trimBack_cons_of_blank h]
      split
      · rfl
      · next hs => rw [trimBack_cons_of_blank h, ih, if_neg hs]

/-- What was cut off at the end does not count when both ends are trimmed. -/
lemma trim_trimBack (s : List Char) : trim (trimBack s) = trim s := by
  induction s with
  | nil => rfl
  | cons c s ih =>
    rw [trim, trim] at ih ⊢
    cases h : isBlank c with
    | false =>
      rw [trimBack_cons_of_not_blank h, trimFront_cons_of_not_blank h,
        trimFront_cons_of_not_blank h, trimBack_cons_of_not_blank h, trimBack_cons_of_not_blank h,
        trimBack_trimBack]
    | true =>
      rw [trimBack_cons_of_blank h, trimFront_cons_of_blank h, ← ih]
      split
      · next hs => rw [hs]
      · rw [trimFront_cons_of_blank h]

lemma trim_eq_nil {s : List Char} (h : trimBack s = []) : trim s = [] := by
  rw [← trim_trimBack, h]
  rfl

/-- A text without blanks around it begins without one. -/
lemma trimFront_of_trim {s : List Char} (h : trim s = s) : trimFront s = s := by
  have hfront : (trimFront s).Sublist s := List.dropWhile_sublist _
  have hback : (trim s).Sublist (trimFront s) := by
    have := (List.dropWhile_sublist isBlank (l := (trimFront s).reverse)).reverse
    rwa [List.reverse_reverse] at this
  rw [h] at hback
  exact hfront.eq_of_length_le hback.length_le

lemma trimFront_append {s : List Char} (hs : s ≠ []) (h : trimFront s = s) (t : List Char) :
    trimFront (s ++ t) = s ++ t := by
  rw [trimFront] at h ⊢
  rw [List.dropWhile_append, h, if_neg (by simpa using hs)]

/-- A text with no blank in it stays as it is. -/
lemma trimBack_of_solid {s : List Char} (h : ∀ c ∈ s, isBlank c = false) : trimBack s = s := by
  induction s with
  | nil => rfl
  | cons c s ih =>
    rw [trimBack_cons_of_not_blank (h c (.head _)), ih fun d hd => h d (.tail _ hd)]

/-! ### Cutting -/

lemma cut_append {c : Char} {s : List Char} (h : c ∉ s) (t : List Char) :
    cut c (s ++ c :: t) = (s, some t) := by
  induction s with
  | nil => exact cut_cons_self c t
  | cons x s ih =>
    rw [List.mem_cons, not_or] at h
    rw [List.cons_append, cut_cons_of_ne (Ne.symm h.1), ih h.2]

lemma cut_of_notMem {c : Char} {s : List Char} (h : c ∉ s) : cut c s = (s, none) := by
  induction s with
  | nil => rfl
  | cons x s ih =>
    rw [List.mem_cons, not_or] at h
    rw [cut_cons_of_ne (Ne.symm h.1), ih h.2]

end Text

/-! ### Verbs and arguments -/

lemma Verb.ofName?_name (v : Verb) : Verb.ofName? v.name = some v := by cases v <;> decide +kernel

/-- Verbs are words. -/
lemma Verb.name_solid (v : Verb) :
    v.name.toList ≠ [] ∧ ∀ c ∈ v.name.toList, Text.isBlank c = false := by
  have hsolid : v.name.toList ≠ [] ∧ v.name.toList.any Text.isBlank = false := by
    cases v <;> decide +kernel
  refine ⟨hsolid.1, fun c hc => ?_⟩
  exact Bool.eq_false_iff.mpr (List.any_eq_false.mp hsolid.2 c hc)

namespace Request

/-- The line of a verb and a text after it. -/
def line (verb : Verb) (text : String) : String := verb.name ++ " " ++ text

lemma trim_line {w : List Char} (hw : w ≠ []) (hsolid : ∀ c ∈ w, Text.isBlank c = false)
    (text : List Char) :
    Text.trim (w ++ ' ' :: text)
      = if Text.trimBack text = [] then w else w ++ ' ' :: Text.trimBack text := by
  obtain ⟨c, rest, rfl⟩ := List.exists_cons_of_ne_nil hw
  have hc := hsolid c (.head _)
  have hspace : Text.isBlank ' ' = true := by decide
  rw [Text.trim, List.cons_append, Text.trimFront_cons_of_not_blank hc, ← List.cons_append,
    Text.trimBack_append, Text.trimBack_cons_of_blank hspace, Text.trimBack_of_solid hsolid]
  by_cases h : Text.trimBack text = []
  · rw [if_pos h, if_pos rfl, if_pos h]
  · rw [if_neg h, if_neg (by simp), if_neg h]

/-- The line of a verb is read as a request with this verb, and what stands after it as its
argument. -/
theorem parse_line (verb : Verb) (text : String) :
    parse (line verb text) = .ok ⟨verb, trimmed text⟩ := by
  obtain ⟨hne, hsolid⟩ := verb.name_solid
  have hspace : ' ' ∉ verb.name.toList := fun h => by
    have := hsolid _ h
    revert this
    decide
  have hline : (line verb text).toList = verb.name.toList ++ ' ' :: text.toList := by
    simp [line]
  rw [parse, hline, trim_line hne hsolid]
  by_cases h : Text.trimBack text.toList = []
  · rw [if_pos h, Text.cut_of_notMem hspace]
    simp only [String.ofList_toList, Verb.ofName?_name, trimmed, Text.trim_eq_nil h]
    rfl
  · rw [if_neg h, Text.cut_append hspace]
    simp only [String.ofList_toList, Verb.ofName?_name, trimmed, Option.getD_some,
      Text.trim_trimBack]

/-! ### Names -/

/-- A name as requests can give it: not empty, with no comma in it and no blanks around it. -/
structure IsName (name : String) : Prop where
  ne_empty : name ≠ ""
  comma : ',' ∉ name.toList
  trimmed : trimmed name = name

lemma givenArgument_of_ne {verb : Verb} {argument : String} (h : argument ≠ "") :
    givenArgument ⟨verb, argument⟩ = .ok argument := by
  rw [givenArgument, if_neg (by simpa using h)]

lemma readFinite_trimBack (text : List Char) :
    readFinite (Text.trimBack text) = readFinite text := by
  rw [readFinite, readFinite, Text.trim_trimBack]

lemma notMem_trimBack {c : Char} {text : List Char} (h : c ∉ text) : c ∉ Text.trimBack text := by
  intro hc
  have hsub := (List.dropWhile_sublist Text.isBlank (l := text.reverse)).reverse
  rw [List.reverse_reverse] at hsub
  exact h (hsub.mem hc)

/-- A name and a number with a comma between them are read as this name and this number. -/
theorem nameAndValue_of_isName {name number : String} (hname : IsName name)
    (hcomma : ',' ∉ number.toList) (verb : Verb) :
    nameAndValue ⟨verb, SpectroRemote.trimmed (name ++ "," ++ number)⟩
      = (readFinite number.toList).map fun v => (name, v) := by
  obtain ⟨hempty, hsolid, htrimmed⟩ := hname
  have hne : name.toList ≠ [] := by simpa using hempty
  have htrim : Text.trim name.toList = name.toList := by
    have := congrArg String.toList htrimmed
    rwa [SpectroRemote.trimmed, String.toList_ofList] at this
  have hargument : Text.trim (name ++ "," ++ number).toList
      = name.toList ++ ',' :: Text.trimBack number.toList := by
    have htext : (name ++ "," ++ number).toList = name.toList ++ ',' :: number.toList := by simp
    have hback : Text.trimBack (',' :: number.toList) = ',' :: Text.trimBack number.toList :=
      Text.trimBack_cons_of_not_blank (by decide) _
    rw [htext, Text.trim, Text.trimFront_append hne (Text.trimFront_of_trim htrim),
      Text.trimBack_append, hback, if_neg (List.cons_ne_nil _ _)]
  rw [SpectroRemote.trimmed, hargument, nameAndValue, givenArgument_of_ne (by simp)]
  simp only [String.toList_ofList, bind, Except.bind, Text.cut_append hsolid, htrim,
    List.isEmpty_iff, hne, if_false, String.ofList_toList,
    Text.cut_of_notMem (notMem_trimBack hcomma), readFinite_trimBack]
  cases readFinite number.toList <;> rfl

end Request

end SpectroRemote
