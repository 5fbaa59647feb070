import SpectroRemote.Proofs.Toml.Quoting
import SpectroRemote.Proofs.Toml.Words
import SpectroRemote.Toml.Reader

/-!
# Printed statements are read back

A file of printed statements is read as these statements. Each part of a statement begins with a
character that is neither a blank nor the beginning of a comment, and what comes after it cannot
belong to it, so that the reader finds the parts where the printer put them.
-/

namespace SpectroRemote.Toml

/-! ### What a printed part begins with -/

/-- A character with which keys, values and headers begin. -/
def isOpening (c : Char) : Bool := Bare.isWordChar c || ['"', '\'', '['].contains c

/-- A text that begins like a key, a value or a header. -/
def Opens (s : List Char) : Prop := ∃ c ∈ s.head?, isOpening c = true

lemma ne_of_isOpening {c d : Char} (hc : isOpening c = true) (hd : isOpening d = false) :
    c ≠ d := by
  rintro rfl
  rw [hd] at hc
  cases hc

lemma isOpening_of_isWordChar {c : Char} (h : Bare.isWordChar c = true) : isOpening c = true := by
  rw [isOpening, h, Bool.true_or]

lemma dropSpaces_cons {c : Char} (h : isSpace c = false) (s : List Char) :
    dropSpaces (c :: s) = c :: s := by
  rw [dropSpaces, List.dropWhile_cons_of_neg (by simp [h])]

lemma dropSpaces_space (s : List Char) : dropSpaces (' ' :: s) = dropSpaces s := rfl

lemma endLine?_line (s : List Char) : endLine? ('\n' :: s) = some s := rfl

lemma dropLines_space (s : List Char) : dropLines (' ' :: s) = dropLines s := by
  rw [dropLines, dropLines, dropSpaces_space]

lemma dropLines_line (s : List Char) : dropLines ('\n' :: s) = dropLines s := by
  rw [dropLines]
  rfl

lemma dropLines_mark {c : Char} (h : c = ',' ∨ c = ']') (s : List Char) :
    dropLines (c :: s) = c :: s := by
  rcases h with rfl | rfl
  · rw [dropLines]
    rfl
  · rw [dropLines]
    rfl

namespace Opens

variable {s : List Char}

lemma cons {c : Char} (h : isOpening c = true) (s : List Char) : Opens (c :: s) := ⟨c, rfl, h⟩

lemma append (h : Opens s) (t : List Char) : Opens (s ++ t) := by
  obtain ⟨c, hc, hopening⟩ := h
  cases s with
  | nil => cases hc
  | cons d s => exact ⟨c, hc, hopening⟩

lemma exists_cons (h : Opens s) : ∃ c t, s = c :: t ∧ isOpening c = true := by
  obtain ⟨c, hc, hopening⟩ := h
  cases s with
  | nil => cases hc
  | cons d s => exact ⟨c, s, by rw [Option.some.inj hc], hopening⟩

lemma ne_cons (h : Opens s) {d : Char} (hd : isOpening d = false) (t : List Char) :
    s ≠ d :: t := by
  rintro rfl
  obtain ⟨c, hc, hopening⟩ := h
  exact ne_of_isOpening hopening hd (Option.some.inj hc).symm

lemma dropSpaces_eq (h : Opens s) : dropSpaces s = s := by
  obtain ⟨c, t, rfl, hopening⟩ := h.exists_cons
  apply dropSpaces_cons
  rw [isSpace, beq_eq_false_iff_ne.mpr (ne_of_isOpening hopening (by decide)),
    beq_eq_false_iff_ne.mpr (ne_of_isOpening hopening (by decide))]
  rfl

lemma dropComment_eq (h : Opens s) : dropComment s = s := by
  rw [dropComment]
  exact fun t ht => h.ne_cons (by decide) t ht

lemma lineBreak?_eq (h : Opens s) : Quoted.lineBreak? s = none := by
  obtain ⟨c, t, rfl, hopening⟩ := h.exists_cons
  apply Quoted.lineBreak?_eq_none
  intro d hd
  rw [← Option.some.inj hd]
  exact ⟨ne_of_isOpening hopening (by decide), ne_of_isOpening hopening (by decide)⟩

lemma endLine?_eq (h : Opens s) : endLine? s = none := by
  rw [endLine?, h.dropSpaces_eq, h.dropComment_eq]
  obtain ⟨c, t, rfl, -⟩ := h.exists_cons
  exact h.lineBreak?_eq

lemma dropLines_eq (h : Opens s) : dropLines s = s := by
  rw [dropLines, h.dropSpaces_eq]
  split
  · next heq =>
    rw [h.dropComment_eq, h.lineBreak?_eq] at heq
    cases heq
  · rfl

end Opens

/-! ### Keys -/

/-- What comes after a key does not prolong it. -/
def EndsKey (rest : List Char) : Prop := ∀ c ∈ rest.head?, isKeyChar c = false

lemma isWordChar_of_isKeyChar {c : Char} (h : isKeyChar c = true) : Bare.isWordChar c = true := by
  rw [isKeyChar, Bool.or_eq_true, Bool.or_eq_true] at h
  rw [Bare.isWordChar]
  rcases h with (h | h) | h <;> simp [h]

/-- A key is a word of its own or a text on one line. -/
lemma keyText_cases (key : String) :
    (keyText key = key.toList ∧ key.toList ≠ [] ∧ ∀ c ∈ key.toList, isKeyChar c = true)
      ∨ keyText key = Quoted.write .basic key.toList
      ∨ (keyText key = Quoted.write .literal key.toList ∧ '\'' ∉ key.toList
        ∧ ∀ c ∈ key.toList, isControl c = false) := by
  simp only [keyText]
  split
  · next h =>
    rw [Bool.and_eq_true, Bool.not_eq_true', List.all_eq_true, List.isEmpty_eq_false_iff] at h
    exact .inl ⟨rfl, h⟩
  split
  · exact .inr (.inl rfl)
  split
  · next h =>
    simp only [Bool.and_eq_true, Bool.not_eq_true', List.contains_eq_mem, List.any_eq_false,
      decide_eq_false_iff_not, Bool.not_eq_true] at h
    exact .inr (.inr ⟨rfl, h.2, h.1⟩)
  · exact .inr (.inl rfl)

lemma opens_keyText (key : String) : Opens (keyText key) := by
  rcases keyText_cases key with ⟨htext, hne, hkey⟩ | htext | ⟨htext, -⟩
  · obtain ⟨c, s, hs⟩ := List.exists_cons_of_ne_nil hne
    rw [htext, hs]
    apply Opens.cons
    exact isOpening_of_isWordChar (isWordChar_of_isKeyChar (hkey c (hs ▸ .head _)))
  · rw [htext]
    exact .cons (by decide) _
  · rw [htext]
    exact .cons (by decide) _

/-- A key is read back, and what comes after it is left. -/
theorem readKey?_keyText (key : String) {rest : List Char} (hrest : EndsKey rest) :
    readKey? (keyText key ++ rest) = some (key, rest) := by
  rcases keyText_cases key with ⟨htext, hne, hkey⟩ | htext | ⟨htext, hquote, hcontrol⟩
  · have hspan : (key.toList ++ rest).span isKeyChar = (key.toList, rest) := span_append hkey hrest
    have hhead {d : Char} (hd : isKeyChar d = false) (t : List Char) :
        key.toList ++ rest ≠ d :: t := by
      obtain ⟨c, s, hs⟩ := List.exists_cons_of_ne_nil hne
      rw [hs]
      intro h
      have hc := hkey c (hs ▸ .head _)
      rw [(List.cons.inj h).1, hd] at hc
      cases hc
    rw [htext, readKey?]
    · rw [hspan]
      simp [hne]
    · exact fun t ht => hhead (by decide) t ht
    · exact fun t ht => hhead (by decide) t ht
  · rw [htext]
    change (Quoted.readLine? (Quoted.write .basic key.toList ++ rest)).map _ = _
    rw [Quoted.readLine?_write_basic]
    simp
  · rw [htext]
    change (Quoted.readLine? (Quoted.write .literal key.toList ++ rest)).map _ = _
    rw [Quoted.readLine?_write_literal hquote hcontrol]
    simp

/-! ### Paths -/

lemma joined_cons_cons (separator a b : List Char) (texts : List (List Char)) :
    joined separator (a :: b :: texts) = a ++ (separator ++ joined separator (b :: texts)) := by
  simp [joined, List.intercalate]

lemma joined_singleton (separator a : List Char) : joined separator [a] = a := by
  simp [joined, List.intercalate]

/-- Keys with points between them are read back. -/
theorem readKeys?_joined {keys : List String} (hne : keys ≠ []) {rest : List Char}
    (hrest : EndsKey rest) (hpoint : (dropSpaces rest).head? ≠ some '.') :
    readKeys? (joined ['.'] (keys.map keyText) ++ rest) = some (keys, dropSpaces rest) := by
  induction keys with
  | nil => exact absurd rfl hne
  | cons key keys ih =>
    cases keys with
    | nil =>
      rw [List.map_singleton, joined_singleton, readKeys?,
        ((opens_keyText key).append rest).dropSpaces_eq, readKey?_keyText key hrest]
      split
      · next h => cases h
      · next h =>
        cases h
        split
        · next hhead =>
          rw [hhead] at hpoint
          exact absurd rfl hpoint
        · rfl
    | cons next keys =>
      have hends : EndsKey ('.' :: (joined ['.'] ((next :: keys).map keyText) ++ rest)) := by
        intro c hc
        rw [← Option.some.inj hc]
        rfl
      have hlt : (joined ['.'] ((next :: keys).map keyText) ++ rest).length
          < (keyText key ++ '.' :: (joined ['.'] ((next :: keys).map keyText) ++ rest)).length := by
        rw [List.length_append, List.length_append, List.length_cons, List.length_append]
        omega
      rw [List.map_cons, List.map_cons, joined_cons_cons, List.append_assoc, ← List.map_cons]
      change readKeys? (keyText key ++ '.' :: (joined ['.'] ((next :: keys).map keyText) ++ rest))
        = _
      rw [readKeys?, ((opens_keyText key).append _).dropSpaces_eq, readKey?_keyText key hends]
      simp only [dropSpaces_cons (c := '.') rfl, dif_pos hlt, ih (List.cons_ne_nil _ _),
        Option.map_some]

/-- A path is read back if it has no more keys than a path may have. -/
theorem readPath?_text {p : Path} (hlength : p.keys.length ≤ maxDepth) {rest : List Char}
    (hrest : EndsKey rest) (hpoint : (dropSpaces rest).head? ≠ some '.') :
    readPath? (p.text ++ rest) = some (p, dropSpaces rest) := by
  have hkeys : Path.ofKeys? p.keys = some p := by
    rw [Path.ofKeys?, if_neg (Nat.not_lt_of_le hlength), Path.keys, List.getLast?_concat,
      List.dropLast_concat]
    rfl
  have hne : p.keys ≠ [] := by simp [Path.keys]
  rw [readPath?, Path.text, readKeys?_joined hne hrest hpoint]
  simp only [Option.bind_eq_bind, Option.bind_some, hkeys]
  rfl

lemma exists_pathText_eq (p : Path) : ∃ key t, p.text = keyText key ++ t := by
  obtain ⟨key, keys, hkeys⟩ := List.exists_cons_of_ne_nil (l := p.keys) (by simp [Path.keys])
  rw [Path.text, hkeys]
  cases keys with
  | nil => exact ⟨key, [], by rw [List.map_singleton, joined_singleton, List.append_nil]⟩
  | cons next keys => exact ⟨key, _, by rw [List.map_cons, List.map_cons, joined_cons_cons]⟩

lemma opens_pathText (p : Path) : Opens p.text := by
  obtain ⟨key, t, htext⟩ := exists_pathText_eq p
  rw [htext]
  exact (opens_keyText key).append t

/-- A path is not taken for a header. -/
lemma pathText_append_ne (p : Path) (rest t : List Char) : p.text ++ rest ≠ '[' :: t := by
  obtain ⟨key, s, htext⟩ := exists_pathText_eq p
  rw [htext, List.append_assoc]
  rcases keyText_cases key with ⟨hkey, hne, hchars⟩ | hkey | ⟨hkey, -⟩
  · obtain ⟨c, u, hu⟩ := List.exists_cons_of_ne_nil hne
    have hc := hchars c (hu ▸ .head _)
    rw [hkey, hu]
    intro h
    rw [(List.cons.inj h).1] at hc
    cases hc
  · rw [hkey]
    exact fun h => nomatch (List.cons.inj h).1
  · rw [hkey]
    exact fun h => nomatch (List.cons.inj h).1

/-! ### Values -/

/-- A value that is read back from its text, whatever comes after it, at a depth of nesting. -/
structure Value.ReadsBack (depth : Nat) (v : Value) : Prop where
  opens : Opens v.toChars
  read : ∀ rest, Stops rest → readValue? depth (v.toChars ++ rest) = some (v, rest)

lemma readValue?_word {s : List Char} (hword : ∀ c ∈ s.head?, Bare.isWordChar c = true)
    (depth : Nat) : readValue? depth s = Bare.read? s := by
  have hhead {d : Char} (hd : Bare.isWordChar d = false) (t : List Char) : s ≠ d :: t := by
    rintro rfl
    have h := hword d rfl
    rw [hd] at h
    cases h
  rw [readValue?]
  · exact fun t ht => hhead (by decide) t ht
  · exact fun t ht => hhead (by decide) t ht
  · exact fun t ht => hhead (by decide) t ht
  · exact fun t ht => hhead (by decide) t ht

namespace Value.ReadsBack

variable {depth : Nat}

/-- A value that is written as a word. -/
lemma of_word {v : Value} (hword : ∀ c ∈ v.toChars, Bare.isWordChar c = true)
    (hread : Bare.readWord? v.toChars = some v) : v.ReadsBack depth := by
  have hne : v.toChars ≠ [] := by
    intro hnil
    rw [hnil] at hread
    cases hread
  obtain ⟨c, s, hs⟩ := List.exists_cons_of_ne_nil hne
  constructor
  · rw [hs]
    exact .cons (isOpening_of_isWordChar (hword c (hs ▸ .head _))) s
  · intro rest hrest
    rw [readValue?_word]
    · exact Bare.read?_append hword hrest hread
    · intro d hd
      rw [hs] at hd
      rw [← Option.some.inj hd]
      exact hword c (hs ▸ .head _)

lemma boolean (b : Bool) : (Value.boolean b).ReadsBack depth := by
  have hword : (Value.boolean b).toChars.all Bare.isWordChar = true := by cases b <;> decide
  exact of_word (List.all_eq_true.mp hword) (Bare.readWord?_boolean b)

lemma natural {n : Nat} (hn : (n : Int) ≤ Int64.maxValue.toInt) :
    (Value.integer n).ReadsBack depth := by
  have htext : (Value.integer n).toChars = Nat.toDigits 10 n := by
    rw [Value.toChars]
    change (toString n).toList = _
    exact Nat.toList_repr
  apply of_word
  · intro c hc
    rw [htext] at hc
    exact Bare.isWordChar_of_isDigit (Nat.isDigit_of_mem_toDigits (by decide) (by decide) hc)
  · rw [htext]
    exact Bare.readWord?_natural hn

lemma float (v : Float) : (Value.float v).ReadsBack depth := by
  apply of_word
  · exact fun c hc => Bare.isWordChar_of_mem_floatText hc
  · exact Bare.readWord?_floatText v

lemma noQuote_of_stops {rest : List Char} (h : Stops rest) {quote : Char}
    (hquote : quote = '"' ∨ quote = '\'') : Quoted.NoQuote quote rest := by
  intro hhead
  rcases hquote with rfl | rfl <;> rcases h _ hhead with h | h | h <;> cases h

/-- A quoted text begins with a quote. -/
lemma exists_write_eq (style : QuoteStyle) (s : List Char) :
    ∃ quote t, Quoted.write style s = quote :: t ∧ (quote = '"' ∨ quote = '\'') := by
  cases style with
  | basic => exact ⟨_, _, rfl, .inl rfl⟩
  | literal => exact ⟨_, _, rfl, .inr rfl⟩
  | multilineBasic => exact ⟨_, _, rfl, .inl rfl⟩
  | multilineLiteral => exact ⟨_, _, rfl, .inr rfl⟩

lemma text (s : String) : (Value.text s).ReadsBack depth := by
  obtain ⟨quote, t, htext, hquote⟩ := exists_write_eq (Quoted.styleOf s.toList) s.toList
  have hchars : (Value.text s).toChars = quote :: t := by rw [Value.toChars, htext]
  constructor
  · rw [hchars]
    rcases hquote with rfl | rfl
    · exact .cons (by decide) t
    · exact .cons (by decide) t
  · intro rest hrest
    have hread := Quoted.read?_write_styleOf s.toList (noQuote_of_stops hrest (.inl rfl))
      (noQuote_of_stops hrest (.inr rfl))
    rw [htext] at hread
    rw [hchars]
    rw [List.cons_append] at hread ⊢
    rcases hquote with rfl | rfl
    · rw [readValue?, hread]
      simp
    · rw [readValue?, hread]
      simp

end Value.ReadsBack

/-! ### Arrays -/

section Items

variable {item : Text.Reader Value} {s start rest rest' : List Char} {v : Value}

lemma readItems?_close (h : dropLines s = ']' :: rest) : readItems? item s = some ([], rest) := by
  rw [readItems?]
  split
  · next heq => rw [(List.cons.inj (h.symm.trans heq)).2]
  · next hne => exact absurd h (hne rest)

lemma readItems?_last (hstart : dropLines s = start) (hopens : Opens start)
    (hitem : item start = some (v, rest)) (hrest : dropLines rest = ']' :: rest') :
    readItems? item s = some ([v], rest') := by
  rw [readItems?, hstart]
  split
  · next h => exact absurd rfl (hopens.ne_cons (by decide) _)
  · rw [hitem]
    simp only [hrest]

lemma readItems?_next (hstart : dropLines s = start) (hopens : Opens start)
    (hitem : item start = some (v, rest)) (hrest : dropLines rest = ',' :: rest')
    (hlength : rest'.length < s.length) :
    readItems? item s = (readItems? item rest').map fun (items, r) => (v :: items, r) := by
  rw [readItems?, hstart]
  split
  · next h => exact absurd rfl (hopens.ne_cons (by decide) _)
  · rw [hitem]
    simp only [hrest, dif_pos hlength]

end Items

/-- An item on a line of its own, up to the end of the line. -/
def itemLine (text : List Char) : List Char := [' ', ' ', ' ', ' '] ++ text ++ [',', '\n']

/-- Items on lines of their own are read up to the bracket below them. -/
lemma readItems?_lines {depth : Nat} {items : List Value}
    (h : ∀ v ∈ items, v.ReadsBack depth) (rest : List Char) :
    readItems? (readValue? depth)
        ('\n' :: ((Value.itemTexts items).flatMap itemLine ++ ']' :: rest))
      = some (items, rest) := by
  induction items with
  | nil =>
    apply readItems?_close
    rw [dropLines_line]
    exact dropLines_mark (.inr rfl) rest
  | cons v items ih =>
    have hv := h v (.head _)
    have hitems := ih fun u hu => h u (.tail _ hu)
    generalize htext : (Value.itemTexts items).flatMap itemLine ++ ']' :: rest = later at hitems
    have hline : (Value.itemTexts (v :: items)).flatMap itemLine ++ ']' :: rest
        = ' ' :: ' ' :: ' ' :: ' ' :: (v.toChars ++ ',' :: '\n' :: later) := by
      rw [Value.itemTexts, List.flatMap_cons, List.append_assoc, htext]
      simp [itemLine]
    have hlength : ('\n' :: later).length
        < ('\n' :: ' ' :: ' ' :: ' ' :: ' ' :: (v.toChars ++ ',' :: '\n' :: later)).length := by
      simp only [List.length_cons, List.length_append]
      omega
    have hstart : dropLines
        ('\n' :: ' ' :: ' ' :: ' ' :: ' ' :: (v.toChars ++ ',' :: '\n' :: later))
          = v.toChars ++ ',' :: '\n' :: later := by
      rw [dropLines_line, dropLines_space, dropLines_space, dropLines_space, dropLines_space]
      exact (hv.opens.append _).dropLines_eq
    rw [hline, readItems?_next hstart (hv.opens.append _)
      (hv.read _ (.cons (.inr (.inl rfl)) _)) (dropLines_mark (.inl rfl) _) hlength, hitems]
    rfl

/-- An array stands on one line if it has no more than one item, and on several otherwise. -/
theorem Value.ReadsBack.array {depth : Nat} {items : List Value}
    (h : ∀ v ∈ items, v.ReadsBack depth) : (Value.array items).ReadsBack (depth + 1) := by
  have hread {s rest : List Char}
      (hitems : readItems? (readValue? depth) s = some (items, rest)) :
      readValue? (depth + 1) ('[' :: s) = some (.array items, rest) := by
    rw [readValue?, hitems]
    rfl
  match items with
  | [] =>
    constructor
    · exact .cons (by decide) _
    · intro rest _
      exact hread (readItems?_close (dropLines_mark (.inr rfl) rest))
  | [v] =>
    have hv := h v (.head _)
    have htext : (Value.array [v]).toChars = '[' :: (v.toChars ++ [']']) := by
      simp [Value.toChars, Value.itemTexts, arrayText]
    constructor
    · rw [htext]
      exact .cons (by decide) _
    · intro rest _
      rw [htext, List.cons_append, List.append_assoc]
      apply hread
      exact readItems?_last (hv.opens.append _).dropLines_eq (hv.opens.append _)
        (hv.read _ (.cons (.inr (.inr rfl)) rest)) (dropLines_mark (.inr rfl) rest)
  | u :: v :: items =>
    have htext : (Value.array (u :: v :: items)).toChars
        = '[' :: '\n' :: ((Value.itemTexts (u :: v :: items)).flatMap itemLine ++ [']']) := by
      rw [Value.toChars]
      rfl
    constructor
    · rw [htext]
      exact .cons (by decide) _
    · intro rest _
      rw [htext, List.cons_append, List.cons_append, List.append_assoc]
      apply hread
      exact readItems?_lines h rest

/-! ### Statements -/

/-- A statement that is read back: its path is not too long, and neither is its value nested too
deep. -/
inductive Statement.ReadsBack : Statement → Prop
  | table {path : Path} (h : path.keys.length ≤ maxDepth) : ReadsBack (.table path)
  | element {path : Path} (h : path.keys.length ≤ maxDepth) : ReadsBack (.element path)
  | assign {path : Path} {v : Value} (h : path.keys.length ≤ maxDepth)
    (hv : v.ReadsBack maxDepth) : ReadsBack (.assign path v)

lemma endsKey_cons {c : Char} (h : isKeyChar c = false) (s : List Char) : EndsKey (c :: s) := by
  intro d hd
  rwa [← Option.some.inj hd]

lemma readHeader?_text {p : Path} (hlength : p.keys.length ≤ maxDepth) (closing rest : List Char) :
    readHeader? (']' :: closing) (p.text ++ ((']' :: closing) ++ rest)) = some (p, rest) := by
  have hblank : dropSpaces ((']' :: closing) ++ rest) = (']' :: closing) ++ rest :=
    dropSpaces_cons rfl _
  have hpath : readPath? (p.text ++ ((']' :: closing) ++ rest))
      = some (p, dropSpaces ((']' :: closing) ++ rest)) :=
    readPath?_text hlength (endsKey_cons (by decide) _) fun h => nomatch Option.some.inj h
  rw [readHeader?, hpath, hblank]
  simp only [Option.bind_eq_bind, Option.bind_some]
  rw [if_pos (by simp), List.drop_left]

lemma readAssignment?_text {p : Path} (hlength : p.keys.length ≤ maxDepth) {v : Value}
    (hv : v.ReadsBack maxDepth) {rest : List Char} (hrest : Stops rest) :
    readAssignment? (readValue? maxDepth) (p.text ++ ' ' :: '=' :: ' ' :: (v.toChars ++ rest))
      = some ((p, v), rest) := by
  have hblank : dropSpaces (' ' :: '=' :: ' ' :: (v.toChars ++ rest))
      = '=' :: ' ' :: (v.toChars ++ rest) := by
    rw [dropSpaces_space, dropSpaces_cons rfl]
  have hpath : readPath? (p.text ++ ' ' :: '=' :: ' ' :: (v.toChars ++ rest))
      = some (p, dropSpaces (' ' :: '=' :: ' ' :: (v.toChars ++ rest))) :=
    readPath?_text hlength (endsKey_cons (by decide) _) fun h => nomatch Option.some.inj h
  rw [hblank] at hpath
  rw [readAssignment?, hpath]
  simp only [dropSpaces_space, (hv.opens.append rest).dropSpaces_eq, hv.read rest hrest,
    Option.map_some]

namespace Statement.ReadsBack

variable {st : Statement}

lemma opens (h : st.ReadsBack) : Opens st.line := by
  cases h with
  | table _ => exact .cons (by decide) _
  | element _ => exact .cons (by decide) _
  | assign _ _ =>
    rw [Statement.line, List.append_assoc]
    exact (opens_pathText _).append _

lemma readStatement? (h : st.ReadsBack) {rest : List Char} (hrest : Stops rest) :
    readStatement? (st.line ++ rest) = some (st, rest) := by
  rw [Toml.readStatement?, (h.opens.append rest).dropSpaces_eq]
  cases h with
  | @table p hlength =>
    have hline : (Statement.table p).line ++ rest = '[' :: (p.text ++ ([']'] ++ rest)) := by
      simp [Statement.line]
    rw [hline]
    split
    · next hpath => exact absurd (List.cons.inj hpath).2 (pathText_append_ne p _ _)
    · next heq =>
      rw [← (List.cons.inj heq).2, readHeader?_text hlength]
      rfl
    · next hne => exact absurd rfl (hne _)
  | @element p hlength =>
    have hline : (Statement.element p).line ++ rest
        = '[' :: '[' :: (p.text ++ ([']', ']'] ++ rest)) := by
      simp [Statement.line]
    rw [hline]
    change (readHeader? [']', ']'] _).map _ = _
    rw [readHeader?_text hlength]
    rfl
  | @assign p v hlength hv =>
    have hline : (Statement.assign p v).line ++ rest
        = p.text ++ ' ' :: '=' :: ' ' :: (v.toChars ++ rest) := by
      simp [Statement.line]
    rw [hline]
    split
    · next heq => exact absurd heq (pathText_append_ne p _ _)
    · next heq => exact absurd heq (pathText_append_ne p _ _)
    · rw [readAssignment?_text hlength hv hrest]
      rfl

/-- A line with a statement is read back. -/
lemma readLine? (h : st.ReadsBack) (rest : List Char) :
    readLine? (st.line ++ '\n' :: rest) = some (some st, rest) := by
  rw [Toml.readLine?, (h.opens.append _).endLine?_eq,
    h.readStatement? (.cons (.inl rfl) rest)]
  rfl

lemma readStatements?_line (h : st.ReadsBack) (rest : List Char) :
    readStatements? (st.line ++ '\n' :: rest) = (readStatements? rest).map (st :: ·) := by
  have hlength : rest.length < (st.line ++ '\n' :: rest).length := by
    simp only [List.length_append, List.length_cons]
    omega
  rw [readStatements?, if_neg (by simp), h.readLine?]
  simp only [dif_pos hlength]
  rfl

end Statement.ReadsBack

lemma readStatements?_blank (rest : List Char) :
    readStatements? ('\n' :: rest) = readStatements? rest := by
  rw [readStatements?, if_neg (by simp), readLine?, endLine?_line]
  simp

lemma readStatements?_laterLines {statements : List Statement}
    (h : ∀ st ∈ statements, st.ReadsBack) :
    readStatements? (laterLines statements) = some statements := by
  induction statements with
  | nil =>
    rw [laterLines, readStatements?]
    rfl
  | cons st rest ih =>
    have hst := (h st (.head _)).readStatements?_line (laterLines rest)
    rw [ih fun s hs => h s (.tail _ hs)] at hst
    rw [laterLines]
    cases st.isHeader with
    | true =>
      change readStatements? ('\n' :: (st.line ++ '\n' :: laterLines rest)) = _
      rw [readStatements?_blank, hst]
      rfl
    | false =>
      change readStatements? (st.line ++ '\n' :: laterLines rest) = _
      rw [hst]
      rfl

/-- Printed statements are read back. -/
theorem readStatements?_write {statements : List Statement}
    (h : ∀ st ∈ statements, st.ReadsBack) :
    readStatements? (write statements) = some statements := by
  cases statements with
  | nil =>
    rw [write, readStatements?]
    rfl
  | cons st rest =>
    rw [write, (h st (.head _)).readStatements?_line,
      readStatements?_laterLines fun s hs => h s (.tail _ hs)]
    rfl

/-- A printed file says what the statements in it do. -/
theorem read?_write {statements : List Statement} (h : ∀ st ∈ statements, st.ReadsBack) :
    Toml.read? (String.ofList (write statements)) = Entries.ofStatements? statements := by
  have hmark : (write statements).head? ≠ some byteOrderMark := by
    cases statements with
    | nil => exact fun h => nomatch h
    | cons st rest =>
      obtain ⟨c, s, hs, hopening⟩ := (h st (.head _)).opens.exists_cons
      rw [write, hs]
      exact fun hhead => ne_of_isOpening hopening (by decide) (Option.some.inj hhead)
  simp only [Toml.read?, String.toList_ofList, if_neg hmark, readStatements?_write h,
    Option.bind_some]

end SpectroRemote.Toml
