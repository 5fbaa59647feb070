import Mathlib
import SpectroRemote.Toml.Quoted

/-!
# Quoted texts are read back

Whatever a text holds, it is read back from each style that it can be written in: the basic styles
escape what cannot stand for itself, and the literal styles are only taken for texts in which
everything can. In the styles over several lines the last quotes of a text stand right before those
that close it, so one more quote must not follow.
-/

namespace SpectroRemote.Toml.Quoted

open Text

/-! ### Escapes -/

/-- How a character stands in a basic text: it is escaped or stands for itself. -/
inductive Standing (c : Char) : List Char → Prop
  | escape (e : List Char) (hread : ∀ s, Escape.read? (e ++ s) = some (c, s))
    (hline : ∀ s, continuedLine? (e ++ s) = none) : Standing c ('\\' :: e)
  | plain (hquote : c ≠ '"') (hbackslash : c ≠ '\\') (hcontrol : isControl c = false) :
    Standing c [c]

/-- A character that is not laid out does not continue a line. -/
lemma continuedLine?_cons_of_not_layout {c : Char} (hspace : isSpace c = false) (hline : c ≠ '\n')
    (hreturn : c ≠ '\r') (s : List Char) : continuedLine? (c :: s) = none := by
  rw [continuedLine?, List.dropWhile_cons_of_neg (by simp [hspace])]
  unfold lineBreak?
  split
  · next h => exact absurd (List.cons.inj h).1 hline
  · next h => exact absurd (List.cons.inj h).1 hreturn
  · rfl

lemma Standing.letter {c letter : Char} (hread : ∀ s, Escape.read? (letter :: s) = some (c, s))
    (hspace : isSpace letter = false) (hline : letter ≠ '\n') (hreturn : letter ≠ '\r') :
    Standing c ['\\', letter] := by
  apply Standing.escape [letter]
  · exact hread
  · exact fun s => continuedLine?_cons_of_not_layout hspace hline hreturn s

lemma ne_of_isControl_eq_false {c d : Char} (hc : isControl c = false) (hd : isControl d = true) :
    c ≠ d := by
  rintro rfl
  rw [hd] at hc
  cases hc

lemma toNat_lt_of_isControl {c : Char} (h : isControl c = true) : c.toNat < 128 := by
  rw [isControl, Bool.or_eq_true, Bool.and_eq_true, decide_eq_true_eq, beq_iff_eq] at h
  rcases h with ⟨hlt, -⟩ | rfl
  · have hlt : c.toNat < 32 := hlt
    omega
  · decide

lemma hexDigit?_digit : ∀ n < 16,
    Escape.hexDigit? ((Nat.toDigits 16 n).headD '0').toUpper = some n := by decide

/-- An escape by the code point stands for its character. -/
lemma standing_codeEscape {c : Char} (h : c.toNat < 128) : Standing c (codeEscape c) := by
  have hhigh := hexDigit?_digit (c.toNat / 16) (by omega)
  have hlow := hexDigit?_digit (c.toNat % 16) (by omega)
  have hzero : Escape.hexDigit? '0' = some 0 := by decide
  have hvalue : 16 * (16 * (16 * (16 * 0 + 0) + 0) + c.toNat / 16) + c.toNat % 16 = c.toNat := by
    omega
  rw [codeEscape]
  refine .escape _ (fun s => ?_) fun s =>
    continuedLine?_cons_of_not_layout (by decide) (by decide) (by decide) _
  simp only [List.cons_append, List.nil_append, Escape.read?, Escape.readCodePoint?,
    Escape.readHex?, hzero, hhigh, hlow, Option.bind_some, hvalue, Char.ofNat_toNat]
  exact if_pos c.valid

/-- Every character can stand in a basic text, apart from quotes and line breaks. -/
lemma standing_escaped {c : Char} (hquote : c ≠ '"') (hline : c ≠ '\n') :
    Standing c (escaped c) := by
  rw [escaped]
  split
  · next h =>
    subst h
    exact .letter (fun _ => rfl) (by decide) (by decide) (by decide)
  split
  · next h =>
    subst h
    exact .letter (fun _ => rfl) (by decide) (by decide) (by decide)
  split
  · next h =>
    subst h
    exact .letter (fun _ => rfl) (by decide) (by decide) (by decide)
  split
  · next h =>
    subst h
    exact .letter (fun _ => rfl) (by decide) (by decide) (by decide)
  split
  · next h =>
    subst h
    exact .letter (fun _ => rfl) (by decide) (by decide) (by decide)
  next hbackslash =>
  split
  · next h => exact standing_codeEscape (toNat_lt_of_isControl h)
  · next h => exact .plain hquote hbackslash (by simpa using h)

/-! ### Basic texts -/

section Basic

variable {c : Char} {s rest : List Char}

lemma readBasic?_quote : readBasic? ('"' :: s) = some ([], s) := by
  rw [readBasic?]

lemma readBasic?_escape (h : Escape.read? s = some (c, rest)) :
    readBasic? ('\\' :: s) = prepend c (readBasic? rest) := by
  rw [readBasic?]
  split
  · next heq => rw [h] at heq; cases heq
  · next heq =>
    rw [h] at heq
    cases heq
    rfl

lemma readBasic?_plain (hquote : c ≠ '"') (hbackslash : c ≠ '\\') (hcontrol : isControl c = false) :
    readBasic? (c :: s) = prepend c (readBasic? s) := by
  rw [readBasic?]
  · rw [hcontrol]
    rfl
  · exact fun h => hquote h
  · exact fun h => hbackslash h

end Basic

lemma Standing.readBasic? {c : Char} {e : List Char} (h : Standing c e) (s : List Char) :
    readBasic? (e ++ s) = prepend c (readBasic? s) := by
  cases h with
  | escape e hread _ => exact readBasic?_escape (hread s)
  | plain hquote hbackslash hcontrol => exact readBasic?_plain hquote hbackslash hcontrol

/-- On one line quotes and line breaks are escaped too. -/
lemma exists_escapeLine_eq (c : Char) (s : List Char) :
    ∃ e, escapeLine (c :: s) = e ++ escapeLine s ∧ Standing c e := by
  by_cases hquote : c = '"'
  · subst hquote
    exact ⟨_, rfl, .letter (fun _ => rfl) (by decide) (by decide) (by decide)⟩
  by_cases hline : c = '\n'
  · subst hline
    exact ⟨['\\', 'n'], rfl, .letter (fun _ => rfl) (by decide) (by decide) (by decide)⟩
  refine ⟨escaped c, ?_, standing_escaped hquote hline⟩
  rw [escapeLine]
  · exact hquote
  · exact hline

/-- A basic text on one line is read back. -/
theorem readBasic?_escapeLine (s rest : List Char) :
    readBasic? (escapeLine s ++ '"' :: rest) = some (s, rest) := by
  induction s with
  | nil => exact readBasic?_quote
  | cons c s ih =>
    obtain ⟨e, he, hstanding⟩ := exists_escapeLine_eq c s
    rw [he, List.append_assoc, hstanding.readBasic?, ih]
    rfl

/-! ### Literal texts -/

/-- A literal text on one line is read back. -/
theorem readLiteral?_append {s : List Char} (hquote : '\'' ∉ s)
    (hcontrol : ∀ c ∈ s, isControl c = false) (rest : List Char) :
    readLiteral? (s ++ '\'' :: rest) = some (s, rest) := by
  induction s with
  | nil => rfl
  | cons c s ih =>
    rw [List.mem_cons, not_or] at hquote
    have hc := hcontrol c (.head _)
    rw [List.cons_append, readLiteral?, hc, ih hquote.2 fun d hd => hcontrol d (.tail _ hd)]
    · rfl
    · exact fun h => hquote.1 h.symm

/-! ### Quotes inside of texts over several lines -/

/-- What follows is no quote. -/
def NoQuote (quote : Char) (s : List Char) : Prop := s.head? ≠ some quote

/-- A reader that goes on over one or two quotes in a row, and stops after three of which the text
holds the first ones if there are more. Line breaks and all but special characters stand for
themselves. -/
structure ReadsLines (quote : Char) (special : List Char) (read : Reader (List Char)) : Prop where
  line : ∀ s, read ('\n' :: s) = prepend '\n' (read s)
  plain : ∀ c ∉ special, isControl c = false → ∀ s, read (c :: s) = prepend c (read s)
  pass : ∀ s, (∀ t, s ≠ quote :: quote :: t) → read (quote :: s) = prepend quote (read s)
  stop : ∀ n ≤ 2, ∀ rest, NoQuote quote rest →
    read (List.replicate n quote ++ quote :: quote :: quote :: rest)
      = some (List.replicate n quote, rest)

/-- Up to two quotes in front of something else belong to the text. -/
lemma ReadsLines.quotes {quote : Char} {special : List Char} {read : Reader (List Char)}
    (h : ReadsLines quote special read) {n : Nat} (hn : n ≤ 2) {s t rest : List Char}
    (hs : NoQuote quote s) (hread : read s = some (t, rest)) :
    read (List.replicate n quote ++ s) = some (List.replicate n quote ++ t, rest) := by
  have hone : read (quote :: s) = some (quote :: t, rest) := by
    rw [h.pass, hread]
    · rfl
    · rintro u rfl
      exact hs rfl
  obtain rfl | rfl | rfl : n = 0 ∨ n = 1 ∨ n = 2 := by omega
  · exact hread
  · exact hone
  · change read (quote :: quote :: s) = some (quote :: quote :: t, rest)
    rw [h.pass, hone]
    · rfl
    · intro u hu
      rw [(List.cons.inj hu).2] at hs
      exact hs rfl

/-! ### Basic texts over several lines -/

section MultilineBasic

variable {c : Char} {s rest : List Char}

lemma readMultilineBasic?_escape (hline : continuedLine? s = none)
    (h : Escape.read? s = some (c, rest)) :
    readMultilineBasic? ('\\' :: s) = prepend c (readMultilineBasic? rest) := by
  rw [readMultilineBasic?]
  split
  · next heq => rw [hline] at heq; cases heq
  · split
    · next heq => rw [h] at heq; cases heq
    · next heq =>
      rw [h] at heq
      cases heq
      rfl

lemma readsLines_basic : ReadsLines '"' ['"', '\\'] readMultilineBasic? where
  line s := by
    rw [readMultilineBasic?]
  plain c hc hcontrol s := by
    simp only [List.mem_cons, List.not_mem_nil, or_false, not_or] at hc
    obtain ⟨hquote, hbackslash⟩ := hc
    rw [readMultilineBasic?]
    · rw [hcontrol]
      rfl
    · exact fun _ h => absurd h hquote
    · exact fun _ h => absurd h hquote
    · exact fun _ h => absurd h hquote
    · exact hbackslash
    · exact ne_of_isControl_eq_false hcontrol (by decide)
    · exact fun _ h => absurd h (ne_of_isControl_eq_false hcontrol (by decide))
  pass s hs := by
    rw [readMultilineBasic?]
    · rfl
    · exact fun t _ h => hs _ h
    · exact fun t _ h => hs _ h
    · exact fun t _ h => hs _ h
    · exact fun h => by cases h
    · exact fun h => by cases h
    · exact fun _ h => by cases h
  stop n hn rest hrest := by
    have hnone (t : List Char) : rest ≠ '"' :: t := by
      rintro rfl
      exact hrest rfl
    obtain rfl | rfl | rfl : n = 0 ∨ n = 1 ∨ n = 2 := by omega
    · change readMultilineBasic? ('"' :: '"' :: '"' :: rest) = _
      rw [readMultilineBasic?]
      · rfl
      · exact fun t h => hnone _ h
      · exact fun t h => hnone _ h
    · change readMultilineBasic? ('"' :: '"' :: '"' :: '"' :: rest) = _
      rw [readMultilineBasic?]
      · rfl
      · exact fun t h => hnone _ h
    · change readMultilineBasic? ('"' :: '"' :: '"' :: '"' :: '"' :: rest) = _
      rw [readMultilineBasic?]
      rfl

lemma Standing.readMultilineBasic? {e : List Char} (h : Standing c e) (s : List Char) :
    readMultilineBasic? (e ++ s) = prepend c (readMultilineBasic? s) := by
  cases h with
  | escape e hread hline => exact readMultilineBasic?_escape (hline s) (hread s)
  | plain hquote hbackslash hcontrol =>
    exact readsLines_basic.plain c (by simp [hquote, hbackslash]) hcontrol s

lemma Standing.noQuote {e : List Char} (h : Standing c e) (s : List Char) :
    NoQuote '"' (e ++ s) := by
  cases h with
  | escape e _ _ => exact fun h => nomatch Option.some.inj h
  | plain hquote _ _ => exact fun h => hquote (Option.some.inj h)

end MultilineBasic

/-- A basic text over several lines is read back. The induction carries the quotes that were just
passed along, since they may turn out to be the last ones. -/
theorem readMultilineBasic?_escapeLines {rest : List Char} (hrest : NoQuote '"' rest)
    (s : List Char) {n : Nat} (hn : n ≤ 2) :
    readMultilineBasic? (List.replicate n '"' ++ (escapeLines n s ++ '"' :: '"' :: '"' :: rest))
      = some (List.replicate n '"' ++ s, rest) := by
  induction s generalizing n with
  | nil =>
    rw [List.append_nil]
    exact readsLines_basic.stop n hn rest hrest
  | cons c s ih =>
    have ihzero : readMultilineBasic? (escapeLines 0 s ++ '"' :: '"' :: '"' :: rest)
        = some (s, rest) := ih (Nat.zero_le 2)
    by_cases hquote : c = '"'
    · subst hquote
      rw [escapeLines]
      split
      · next hlt =>
        have h := ih (n := n + 1) (by omega)
        rw [List.replicate_succ', List.append_assoc, List.append_assoc] at h
        exact h
      · refine readsLines_basic.quotes hn (fun h => nomatch Option.some.inj h) ?_
        have h : Standing '"' ['\\', '"'] :=
          .letter (fun _ => rfl) (by decide) (by decide) (by decide)
        have hread := h.readMultilineBasic? (escapeLines 0 s ++ '"' :: '"' :: '"' :: rest)
        rw [ihzero] at hread
        exact hread
    by_cases hline : c = '\n'
    · subst hline
      rw [escapeLines]
      refine readsLines_basic.quotes hn (fun h => nomatch Option.some.inj h) ?_
      rw [List.cons_append, readsLines_basic.line, ihzero]
      rfl
    · have hstanding := standing_escaped hquote hline
      rw [escapeLines]
      · rw [List.append_assoc]
        refine readsLines_basic.quotes hn (hstanding.noQuote _) ?_
        rw [hstanding.readMultilineBasic?, ihzero]
        rfl
      · exact hquote
      · exact hline

/-! ### Literal texts over several lines -/

lemma readsLines_literal : ReadsLines '\'' ['\''] readMultilineLiteral? where
  line s := by
    rw [readMultilineLiteral?]
  plain c hc hcontrol s := by
    have hquote : c ≠ '\'' := List.ne_of_not_mem_cons hc
    rw [readMultilineLiteral?]
    · rw [hcontrol]
      rfl
    · exact fun _ h => absurd h hquote
    · exact fun _ h => absurd h hquote
    · exact fun _ h => absurd h hquote
    · exact ne_of_isControl_eq_false hcontrol (by decide)
    · exact fun _ h => absurd h (ne_of_isControl_eq_false hcontrol (by decide))
  pass s hs := by
    rw [readMultilineLiteral?]
    · rfl
    · exact fun t _ h => hs _ h
    · exact fun t _ h => hs _ h
    · exact fun t _ h => hs _ h
    · exact fun h => by cases h
    · exact fun _ h => by cases h
  stop n hn rest hrest := by
    have hnone (t : List Char) : rest ≠ '\'' :: t := by
      rintro rfl
      exact hrest rfl
    obtain rfl | rfl | rfl : n = 0 ∨ n = 1 ∨ n = 2 := by omega
    · change readMultilineLiteral? ('\'' :: '\'' :: '\'' :: rest) = _
      rw [readMultilineLiteral?]
      · rfl
      · exact fun t h => hnone _ h
      · exact fun t h => hnone _ h
    · change readMultilineLiteral? ('\'' :: '\'' :: '\'' :: '\'' :: rest) = _
      rw [readMultilineLiteral?]
      · rfl
      · exact fun t h => hnone _ h
    · rfl

/-- A literal text over several lines is read back, unless it has three quotes in a row. -/
theorem readMultilineLiteral?_append {rest : List Char} (hrest : NoQuote '\'' rest) {s : List Char}
    (hcontrol : ∀ c ∈ s, isControl c = true → c = '\n') {n : Nat}
    (hrun : exceedsRun '\'' 2 n s = false) :
    readMultilineLiteral? (List.replicate n '\'' ++ (s ++ '\'' :: '\'' :: '\'' :: rest))
      = some (List.replicate n '\'' ++ s, rest) := by
  induction s generalizing n with
  | nil =>
    have hn : n ≤ 2 := by simpa [exceedsRun] using hrun
    rw [List.append_nil]
    exact readsLines_literal.stop n hn rest hrest
  | cons c s ih =>
    have hs : ∀ d ∈ s, isControl d = true → d = '\n' := fun d hd => hcontrol d (.tail _ hd)
    rw [exceedsRun] at hrun
    split at hrun
    · next hquote =>
      subst hquote
      have h := ih hs hrun
      rw [List.replicate_succ', List.append_assoc, List.append_assoc] at h
      exact h
    · next hquote =>
      obtain ⟨hn, hrun⟩ := Bool.or_eq_false_iff.mp hrun
      have hzero := ih hs hrun
      refine readsLines_literal.quotes (by simpa using hn)
        (fun h => hquote (Option.some.inj h)) ?_
      rw [List.replicate_zero, List.nil_append, List.nil_append] at hzero
      by_cases hline : c = '\n'
      · subst hline
        rw [List.cons_append, readsLines_literal.line, hzero]
        rfl
      · have hplain : isControl c = false :=
          Bool.eq_false_iff.mpr fun h => hline (hcontrol c (.head _) h)
        rw [List.cons_append, readsLines_literal.plain c (by simpa using hquote) hplain, hzero]
        rfl

/-! ### One line -/

theorem readLine?_write_basic (s rest : List Char) :
    readLine? (write .basic s ++ rest) = some (s, rest) := by
  have htext : write .basic s ++ rest = '"' :: (escapeLine s ++ '"' :: rest) := by simp [write]
  rw [htext]
  exact readBasic?_escapeLine s rest

theorem readLine?_write_literal {s : List Char} (hquote : '\'' ∉ s)
    (hcontrol : ∀ c ∈ s, isControl c = false) (rest : List Char) :
    readLine? (write .literal s ++ rest) = some (s, rest) := by
  have htext : write .literal s ++ rest = '\'' :: (s ++ '\'' :: rest) := by simp [write]
  rw [htext]
  exact readLiteral?_append hquote hcontrol rest

/-! ### All styles

A text on one line is not taken for one over several lines, since its opening quote is followed by
at most one more, and the line break that is skipped after the opening quotes is never a part of the
text.
-/

section Styles

variable {s rest : List Char}

lemma read?_basic (h : ∀ t, s ≠ '"' :: '"' :: t) : read? ('"' :: s) = readBasic? s := by
  rw [read?]
  · rfl
  · exact fun t ht => h t (List.cons.inj ht).2
  · exact fun t ht => nomatch (List.cons.inj ht).1

lemma read?_literal (h : ∀ t, s ≠ '\'' :: '\'' :: t) : read? ('\'' :: s) = readLiteral? s := by
  rw [read?]
  · rfl
  · exact fun t ht => nomatch (List.cons.inj ht).1
  · exact fun t ht => h t (List.cons.inj ht).2

lemma lineBreak?_eq_none (h : ∀ c ∈ s.head?, c ≠ '\n' ∧ c ≠ '\r') : lineBreak? s = none := by
  unfold lineBreak?
  split
  · exact absurd rfl (h '\n' rfl).1
  · exact absurd rfl (h '\r' rfl).2
  · rfl

lemma dropLineBreak_openingBreak (h : '\n' ∉ s → ∀ c ∈ rest.head?, c ≠ '\n' ∧ c ≠ '\r') :
    dropLineBreak (openingBreak s ++ rest) = rest := by
  rw [openingBreak]
  split
  · rfl
  · next hlines =>
    rw [List.nil_append, dropLineBreak, lineBreak?_eq_none (h (by simpa using hlines))]
    rfl

lemma Standing.head_ne {c : Char} {e : List Char} (h : Standing c e) (t : List Char) :
    ∀ d ∈ (e ++ t).head?, d ≠ '\n' ∧ d ≠ '\r' := by
  intro d hd
  cases h with
  | escape e _ _ =>
    rw [← Option.some.inj hd]
    decide
  | plain _ _ hcontrol =>
    rw [← Option.some.inj hd]
    exact ⟨ne_of_isControl_eq_false hcontrol (by decide),
      ne_of_isControl_eq_false hcontrol (by decide)⟩

lemma head_escapeLines_ne (hline : '\n' ∉ s) (t : List Char) :
    ∀ c ∈ (escapeLines 0 s ++ '"' :: t).head?, c ≠ '\n' ∧ c ≠ '\r' := by
  cases s with
  | nil =>
    intro c hc
    rw [← Option.some.inj hc]
    decide
  | cons c s =>
    rw [List.mem_cons, not_or] at hline
    by_cases hquote : c = '"'
    · subst hquote
      intro d hd
      rw [← Option.some.inj hd]
      decide
    · rw [escapeLines, List.append_assoc]
      · exact (standing_escaped hquote fun h => hline.1 h.symm).head_ne _
      · exact hquote
      · exact fun h => hline.1 h.symm

theorem read?_write_basic (hrest : NoQuote '"' rest) :
    read? (write .basic s ++ rest) = some (s, rest) := by
  have htext : write .basic s ++ rest = '"' :: (escapeLine s ++ '"' :: rest) := by simp [write]
  rw [htext, read?_basic]
  · exact readBasic?_escapeLine s rest
  · rintro t ht
    cases s with
    | nil =>
      rw [(List.cons.inj ht).2] at hrest
      exact hrest rfl
    | cons c s =>
      obtain ⟨e, he, hstanding⟩ := exists_escapeLine_eq c s
      rw [he, List.append_assoc] at ht
      exact hstanding.noQuote _ (congrArg List.head? ht)

theorem read?_write_literal (hquote : '\'' ∉ s) (hcontrol : ∀ c ∈ s, isControl c = false)
    (hrest : NoQuote '\'' rest) : read? (write .literal s ++ rest) = some (s, rest) := by
  have htext : write .literal s ++ rest = '\'' :: (s ++ '\'' :: rest) := by simp [write]
  rw [htext, read?_literal]
  · exact readLiteral?_append hquote hcontrol rest
  · rintro t ht
    cases s with
    | nil =>
      rw [(List.cons.inj ht).2] at hrest
      exact hrest rfl
    | cons c s => exact hquote (by rw [(List.cons.inj ht).1]; exact .head _)

theorem read?_write_multilineBasic (hrest : NoQuote '"' rest) :
    read? (write .multilineBasic s ++ rest) = some (s, rest) := by
  have htext : write .multilineBasic s ++ rest
      = '"' :: '"' :: '"' ::
        (openingBreak s ++ (escapeLines 0 s ++ '"' :: '"' :: '"' :: rest)) := by
    simp [write]
  rw [htext]
  change readMultilineBasic? (dropLineBreak _) = _
  rw [dropLineBreak_openingBreak fun hline => head_escapeLines_ne hline _]
  exact readMultilineBasic?_escapeLines hrest s (Nat.zero_le 2)

theorem read?_write_multilineLiteral (hcontrol : ∀ c ∈ s, isControl c = true → c = '\n')
    (hrun : exceedsRun '\'' 2 0 s = false) (hrest : NoQuote '\'' rest) :
    read? (write .multilineLiteral s ++ rest) = some (s, rest) := by
  have htext : write .multilineLiteral s ++ rest
      = '\'' :: '\'' :: '\'' :: (openingBreak s ++ (s ++ '\'' :: '\'' :: '\'' :: rest)) := by
    simp [write]
  rw [htext]
  change readMultilineLiteral? (dropLineBreak _) = _
  rw [dropLineBreak_openingBreak]
  · exact readMultilineLiteral?_append hrest hcontrol hrun
  · intro hline c hc
    cases s with
    | nil =>
      rw [← Option.some.inj hc]
      decide
    | cons d s =>
      rw [← Option.some.inj hc]
      rw [List.mem_cons, not_or] at hline
      have hplain : d ≠ '\n' := fun h => hline.1 h.symm
      exact ⟨hplain, fun h => hplain (hcontrol d (.head _) (by rw [h]; decide))⟩

end Styles

lemma eq_of_isControl {s : List Char} (h : needsEscape s = false) :
    ∀ c ∈ s, isControl c = true → c = '\n' := by
  intro c hc hcontrol
  have hnone := List.any_eq_false.mp h c hc
  rw [hcontrol, Bool.true_and, bne_iff_ne] at hnone
  exact Decidable.of_not_not hnone

/-- Every text is read back from the style that shows it best. -/
theorem read?_write_styleOf (s : List Char) {rest : List Char} (hbasic : NoQuote '"' rest)
    (hliteral : NoQuote '\'' rest) :
    Quoted.read? (write (styleOf s) s ++ rest) = some (s, rest) := by
  simp only [styleOf]
  split
  · exact read?_write_basic hbasic
  split
  · next h =>
    simp only [Bool.and_eq_true, Bool.not_eq_true', List.contains_eq_mem,
      decide_eq_false_iff_not] at h
    obtain ⟨⟨hescapes, hquote⟩, hline⟩ := h
    refine read?_write_literal hquote (fun c hc => Bool.eq_false_iff.mpr fun hcontrol => ?_)
      hliteral
    rw [eq_of_isControl hescapes c hc hcontrol] at hc
    exact hline hc
  split
  · exact read?_write_multilineBasic hbasic
  split
  · next h =>
    rw [Bool.and_eq_true, Bool.not_eq_true', Bool.not_eq_true'] at h
    exact read?_write_multilineLiteral (eq_of_isControl h.1) h.2 hliteral
  split
  · exact read?_write_multilineBasic hbasic
  · exact read?_write_basic hbasic

end SpectroRemote.Toml.Quoted
