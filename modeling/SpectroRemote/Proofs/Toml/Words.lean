import SpectroRemote.Proofs.Decimal.Spelling
import SpectroRemote.Toml.Printer

/-!
# Written words are read back

Booleans, natural numbers of 64 bits and doubles are written as words. Each of these words is read
as the value that it was written for, provided that what follows it cannot belong to a value.
-/

namespace SpectroRemote

lemma Text.fields_of_notMem {c : Char} {s : List Char} (h : c ∉ s) : Text.fields c s = [s] := by
  induction s with
  | nil => rfl
  | cons x s ih =>
    rw [List.mem_cons, not_or] at h
    rw [Text.fields, if_neg fun hx => h.1 hx.symm, ih h.2]

namespace Toml

/-- What comes after a value: nothing, or a character that cannot be part of one. -/
def Stops (rest : List Char) : Prop := ∀ c ∈ rest.head?, c = '\n' ∨ c = ',' ∨ c = ']'

namespace Stops

lemma nil : Stops [] := fun _ h => nomatch h

lemma cons {c : Char} (h : c = '\n' ∨ c = ',' ∨ c = ']') (s : List Char) : Stops (c :: s) := by
  intro d hd
  rwa [← Option.some.inj hd]

end Stops

namespace Bare

/-! ### Moments -/

lemma mem_of_after? {c : Char} {s t : List Char} (h : Moment.after? c s = some t) : c ∈ s := by
  cases s with
  | nil => cases h
  | cons x s =>
    rw [Moment.after?] at h
    split at h
    · next hx => exact hx ▸ List.mem_cons_self
    · cases h

lemma eq_drop_of_readNumber? {width n : Nat} {s t : List Char}
    (h : Moment.readNumber? width s = some (n, t)) : t = s.drop width := by
  rw [Moment.readNumber?] at h
  split at h
  · exact (Prod.mk.inj (Option.some.inj h)).2.symm
  · cases h

lemma eq_drop_of_readField? {first last n : Nat} {s t : List Char}
    (h : Moment.readField? first last s = some (n, t)) : t = s.drop 2 := by
  simp only [Moment.readField?, Option.bind_eq_bind, Option.bind_eq_some_iff] at h
  obtain ⟨⟨m, r⟩, hnumber, h⟩ := h
  split at h
  · rw [← (Prod.mk.inj (Option.some.inj h)).2]
    exact eq_drop_of_readNumber? hnumber
  · cases h

/-- A date has a minus sign that does not stand at its front. -/
lemma readDate?_eq_none {s : List Char} (h : '-' ∉ s.tail) : Moment.readDate? s = none := by
  apply Option.eq_none_iff_forall_ne_some.mpr
  intro r hr
  simp only [Moment.readDate?, Option.bind_eq_bind, Option.bind_eq_some_iff] at hr
  obtain ⟨⟨year, t⟩, hyear, x, hafter, -⟩ := hr
  have hmem := mem_of_after? hafter
  rw [eq_drop_of_readNumber? hyear, ← List.drop_drop (i := 3) (j := 1)] at hmem
  rw [← List.drop_one] at h
  exact h (List.mem_of_mem_drop hmem)

/-- A time of day has a colon. -/
lemma readTime?_eq_none {s : List Char} (h : ':' ∉ s) : Moment.readTime? s = none := by
  apply Option.eq_none_iff_forall_ne_some.mpr
  intro r hr
  simp only [Moment.readTime?, Option.bind_eq_bind, Option.bind_eq_some_iff] at hr
  obtain ⟨⟨hour, t⟩, hhour, x, hafter, -⟩ := hr
  have hmem := mem_of_after? hafter
  rw [eq_drop_of_readField? hhour] at hmem
  exact h (List.mem_of_mem_drop hmem)

lemma moment_eq_none {s : List Char} (hminus : '-' ∉ s.tail) (hcolon : ':' ∉ s) :
    Moment.read? s = none := by
  rw [Moment.read?, readDate?_eq_none hminus, readTime?_eq_none hcolon]

/-! ### Whole words -/

/-- A word is read as a whole. -/
lemma read?_append {word rest : List Char} {v : Value} (hword : ∀ c ∈ word, isWordChar c = true)
    (hrest : Stops rest) (h : readWord? word = some v) :
    Bare.read? (word ++ rest) = some (v, rest) := by
  have hspan : (word ++ rest).span isWordChar = (word, rest) := by
    apply span_append hword
    intro c hc
    rcases hrest c hc with rfl | rfl | rfl <;> rfl
  have hblank : (rest.head? == some ' ') = false := by
    rw [beq_eq_false_iff_ne]
    intro hhead
    rcases hrest ' ' hhead with h | h | h <;> cases h
  simp only [Bare.read?, hspan, hblank, Bool.and_false, Bool.false_and, h, Option.map_some]
  rfl

lemma readWord?_boolean (b : Bool) :
    readWord? (Value.boolean b).toChars = some (.boolean b) := by
  cases b <;> rfl

/-! ### Digits -/

lemma isWordChar_of_isDigit {c : Char} (h : c.isDigit = true) : isWordChar c = true := by
  simp [isWordChar, Char.isAlphanum, h]

/-- Digits without underscores are digits as they stand. -/
lemma digits?_eq_some {p : Char → Bool} {s : List Char} (hne : s ≠ []) (hs : ∀ c ∈ s, p c = true)
    (hunderscore : '_' ∉ s) : digits? p s = some s := by
  rw [digits?, Text.fields_of_notMem hunderscore]
  simpa [hne] using hs

lemma digits?_eq_none {p : Char → Bool} {s : List Char} {c : Char} (hc : c ∈ s)
    (hp : p c = false) (hunderscore : '_' ∉ s) : digits? p s = none := by
  rw [digits?, Text.fields_of_notMem hunderscore]
  simp only [List.all_cons, List.all_nil, Bool.and_true]
  rw [if_neg]
  intro h
  have := List.all_eq_true.mp (Bool.and_eq_true_iff.mp h).2 c hc
  rw [hp] at this
  cases this

lemma notMem_of_isDigit {s : List Char} (hs : ∀ c ∈ s, c.isDigit = true) {c : Char}
    (hc : c.isDigit = false) : c ∉ s := by
  intro hmem
  rw [hs c hmem] at hc
  cases hc

lemma bne_of_isDigit {c d : Char} (hc : c.isDigit = true) (hd : d.isDigit = false) :
    (c != d) = true := by
  rw [bne_iff_ne]
  rintro rfl
  rw [hc] at hd
  cases hd

/-- Digits that begin with zero only if they are no more than that. -/
lemma readWhole?_eq_some {s : List Char} (hne : s ≠ []) (hs : ∀ c ∈ s, c.isDigit = true)
    (hzero : ∀ c t, s ≠ '0' :: c :: t) : readWhole? s = some s := by
  rw [readWhole?, digits?_eq_some hne hs (notMem_of_isDigit hs (by decide))]
  split
  · next c t h => exact absurd (Option.some.inj h) (hzero c t)
  · rfl

lemma hexDigit?_of_isDigit {c : Char} (h : c.isDigit = true) :
    Text.Escape.hexDigit? c = some (c.toNat - '0'.toNat) := by
  obtain ⟨hlow, hhigh⟩ := Bool.and_eq_true_iff.mp h
  rw [Text.Escape.hexDigit?, if_pos ⟨of_decide_eq_true hlow, of_decide_eq_true hhigh⟩]

lemma ofDigits_eq {s : List Char} (hs : ∀ c ∈ s, c.isDigit = true) (n : Nat) :
    s.foldl (fun n c => 10 * n + (Text.Escape.hexDigit? c).getD 0) n = Nat.ofDigitChars 10 s n := by
  induction s generalizing n with
  | nil => rfl
  | cons c s ih =>
    rw [List.foldl_cons, hexDigit?_of_isDigit (hs c (.head _)), Nat.ofDigitChars_cons]
    exact ih (fun d hd => hs d (.tail _ hd)) _

/-! ### Natural numbers -/

/-- A number that is not written to one of the other bases. -/
lemma readInteger?_eq {s : List Char} (hx : 'x' ∉ s) (ho : 'o' ∉ s) (hb : 'b' ∉ s) :
    readInteger? s = (readWhole? (Decimal.splitSign s).2).bind fun digits =>
      inRange? (if (Decimal.splitSign s).1 then -(ofDigits 10 digits : Int)
        else (ofDigits 10 digits : Int)) := by
  unfold readInteger?
  split
  · exact absurd (.tail _ (.head _)) hx
  · exact absurd (.tail _ (.head _)) ho
  · exact absurd (.tail _ (.head _)) hb
  · rfl

/-- A natural number that 64 bits can hold is read from its digits. -/
theorem readWord?_natural {n : Nat} (hn : (n : Int) ≤ Int64.maxValue.toInt) :
    readWord? (Nat.toDigits 10 n) = some (.integer n) := by
  have hdigits : ∀ c ∈ Nat.toDigits 10 n, c.isDigit = true := fun c hc =>
    Nat.isDigit_of_mem_toDigits (by decide) (by decide) hc
  have habsent {c : Char} (hc : c.isDigit = false) : c ∉ Nat.toDigits 10 n :=
    notMem_of_isDigit hdigits hc
  have hmoment : Moment.read? (Nat.toDigits 10 n) = none :=
    moment_eq_none (fun h => habsent (by decide) (List.mem_of_mem_tail h)) (habsent (by decide))
  have hsign : Decimal.splitSign (Nat.toDigits 10 n) = (false, Nat.toDigits 10 n) := by
    obtain ⟨c, s, heq⟩ := List.exists_cons_of_ne_nil (Nat.toDigits_ne_nil (n := n) (b := 10))
    rw [heq] at hdigits ⊢
    exact Decimal.splitSign_of_isDigit (hdigits c (.head _)) s
  have hwhole : readWhole? (Nat.toDigits 10 n) = some (Nat.toDigits 10 n) :=
    readWhole?_eq_some Nat.toDigits_ne_nil hdigits (Decimal.toDigits_ne_zero_cons n)
  have hvalue : ofDigits 10 (Nat.toDigits 10 n) = n := by
    rw [ofDigits, ofDigits_eq hdigits, Nat.ofDigitChars_ten_toDigits]
  have hinteger : readInteger? (Nat.toDigits 10 n) = some (n : Int) := by
    rw [readInteger?_eq (habsent (by decide)) (habsent (by decide)) (habsent (by decide)), hsign]
    simp only [hwhole, hvalue, Option.bind_some]
    have hmin : Int64.minValue.toInt ≤ n := by
      have : Int64.minValue.toInt ≤ 0 := by decide
      omega
    exact if_pos ⟨hmin, hn⟩
  have hword {c : Char} (hc : c.isDigit = false) (t : List Char) :
      Nat.toDigits 10 n ≠ c :: t := fun h => habsent hc (h ▸ .head _)
  rw [readWord?, if_neg (hword (by decide) _), if_neg (hword (by decide) _), hmoment, hinteger]

/-! ### Doubles -/

section Spelled

variable {n : Nat} (sp : Decimal.Spelling n Decimal.places) (negative : Bool)

/-- The characters of a spelled decimal. -/
lemma mem_signed {c : Char} (hc : c ∈ sp.signed negative) :
    c.isDigit = true ∨ c = '.' ∨ c = '-' := by
  rcases List.mem_append.mp hc with hc | hc
  · cases negative with
    | true => exact .inr (.inr (List.mem_singleton.mp hc))
    | false => cases hc
  · rcases List.mem_append.mp hc with hc | hc
    · exact .inl (sp.whole_isDigit c hc)
    · rcases List.mem_cons.mp hc with hc | hc
      · exact .inr (.inl hc)
      · exact .inl (sp.fraction_isDigit c hc)

lemma notMem_signed {c : Char} (hdigit : c.isDigit = false) (hpoint : c ≠ '.') (hminus : c ≠ '-') :
    c ∉ sp.signed negative := by
  intro hc
  rcases mem_signed sp negative hc with hc | hc | hc
  · rw [hdigit] at hc
    cases hc
  · exact hpoint hc
  · exact hminus hc

lemma isWordChar_of_mem_signed {c : Char} (hc : c ∈ sp.signed negative) :
    isWordChar c = true := by
  rcases mem_signed sp negative hc with hc | rfl | rfl
  · exact isWordChar_of_isDigit hc
  · rfl
  · rfl

/-- The only minus sign stands at the front. -/
lemma minus_notMem_tail : '-' ∉ (sp.signed negative).tail := by
  have htext : '-' ∉ sp.text := fun h => by
    rcases List.mem_append.mp h with h | h
    · exact notMem_of_isDigit sp.whole_isDigit (by decide) h
    · rcases List.mem_cons.mp h with h | h
      · cases h
      · exact notMem_of_isDigit sp.fraction_isDigit (by decide) h
  cases negative with
  | true => exact htext
  | false => exact fun h => htext (List.mem_of_mem_tail h)

lemma readInteger?_signed : readInteger? (sp.signed negative) = none := by
  have habsent {c : Char} (hdigit : c.isDigit = false) (hpoint : c ≠ '.') (hminus : c ≠ '-') :=
    notMem_signed sp negative hdigit hpoint hminus
  have hdigits : digits? Char.isDigit sp.text = none := by
    apply digits?_eq_none (c := '.')
    · exact List.mem_append_right _ (.head _)
    · decide
    · exact fun h => absurd (List.mem_append_right _ h) (habsent (c := '_') (by decide) (by decide)
        (by decide))
  rw [readInteger?_eq (habsent (by decide) (by decide) (by decide))
    (habsent (by decide) (by decide) (by decide)) (habsent (by decide) (by decide) (by decide)),
    sp.splitSign_signed, readWhole?, hdigits]
  rfl

lemma isFraction_fraction : isFraction ('.' :: sp.fraction) = true := by
  have hspan : sp.fraction.span (fun c => c != 'e' && c != 'E') = (sp.fraction, []) := by
    have h := span_append (p := fun c => c != 'e' && c != 'E') (s := sp.fraction) (t := [])
      (fun c hc => ?_) (fun c hc => nomatch hc)
    · rwa [List.append_nil] at h
    · have hdigit := sp.fraction_isDigit c hc
      rw [bne_of_isDigit hdigit (by decide), bne_of_isDigit hdigit (by decide)]
      rfl
  have hdigits : digits? Char.isDigit sp.fraction = some sp.fraction :=
    digits?_eq_some sp.fraction_ne_nil sp.fraction_isDigit
      (notMem_of_isDigit sp.fraction_isDigit (by decide))
  simp only [isFraction, hspan, hdigits]
  rfl

/-- A spelled decimal is read as a double, unless it is too great for one. -/
lemma readFloat?_signed {v : Float} (hread : Decimal.read? (sp.signed negative) = some v)
    (hfinite : (v == Decimal.ofRank false Decimal.infinityRank) = false) :
    readFloat? (sp.signed negative) = some v := by
  have hspan : sp.text.span (fun c => c != '.' && c != 'e' && c != 'E')
      = (sp.whole, '.' :: sp.fraction) := by
    apply span_append
    · intro c hc
      have hdigit := sp.whole_isDigit c hc
      rw [bne_of_isDigit hdigit (by decide), bne_of_isDigit hdigit (by decide),
        bne_of_isDigit hdigit (by decide)]
      rfl
    · intro c hc
      rw [← Option.some.inj hc]
      rfl
  have hwhole : readWhole? sp.whole = some sp.whole :=
    readWhole?_eq_some sp.whole_ne_nil sp.whole_isDigit sp.whole_ne
  have hfilter : (sp.signed negative).filter (· != '_') = sp.signed negative := by
    rw [List.filter_eq_self]
    intro c hc
    rw [bne_iff_ne]
    rintro rfl
    exact notMem_signed sp negative (by decide) (by decide) (by decide) hc
  obtain ⟨d, s, hd, htext⟩ := sp.exists_text_eq_cons
  have hword {c : Char} (hc : c.isDigit = false) (t : List Char) : sp.text ≠ c :: t := by
    rw [htext]
    intro h
    rw [(List.cons.inj h).1, hc] at hd
    cases hd
  simp only [readFloat?, sp.splitSign_signed, hspan, hwhole, isFraction_fraction, hfilter, hread]
  rw [if_neg (hword (by decide) _), if_neg (hword (by decide) _)]
  simp [hfinite]

end Spelled

/-- Only infinity is equal to infinity. -/
lemma beq_infinity {v : Float} (h : v.isFinite = true) :
    (v == Decimal.ofRank false Decimal.infinityRank) = false := by
  have hinfinity : (Decimal.ofRank false Decimal.infinityRank).toModel.unpack
      = .infinity .positive := by rfl
  change v.toModel.unpack.isFinite = true at h
  change (v.toModel.unpack.beq (Decimal.ofRank false Decimal.infinityRank).toModel.unpack) = false
  rw [hinfinity]
  generalize v.toModel.unpack = u at h
  cases u with
  | notANumber => cases h
  | infinity s => cases h
  | zero s => rfl
  | finite s m e hm => rfl

lemma isNaN_of_isFinite {v : Float} (h : v.isFinite = true) : v.isNaN = false := by
  change v.toModel.unpack.isFinite = true at h
  change v.toModel.unpack.isNaN = false
  generalize v.toModel.unpack = u at h
  cases u with
  | notANumber => cases h
  | _ => rfl

/-- The text of a finite double is spelled with its sign, and is read as the double. -/
lemma exists_floatText_eq {v : Float} (h : v.isFinite = true) :
    ∃ n, ∃ sp : Decimal.Spelling n Decimal.places,
      floatText v = sp.signed (Decimal.isNegative v)
        ∧ Decimal.read? (sp.signed (Decimal.isNegative v)) = some v := by
  obtain ⟨n, sp, htext, hrank⟩ :=
    Decimal.exists_spelling_textOfRank (Decimal.rank_lt_of_isFinite h)
  refine ⟨n, sp, ?_, ?_⟩
  · rw [Decimal.Spelling.signed, htext]
    simp only [floatText, Decimal.text, isNaN_of_isFinite h, h, Bool.false_eq_true, if_false,
      if_true, Bool.true_and]
    generalize Decimal.textOfRank (Decimal.rank v) = t
    by_cases hpoint : '.' ∈ t <;> cases Decimal.isNegative v <;> simp [hpoint]
  · rw [sp.read?_signed, hrank, Decimal.ofRank_rank]

lemma floatText_of_infinite {v : Float} (hfinite : v.isFinite = false)
    (hnumber : v.isNaN = false) :
    floatText v = (if Decimal.isNegative v then ['-'] else []) ++ ['i', 'n', 'f'] := by
  simp only [floatText, Decimal.text, hfinite, hnumber, Bool.false_eq_true, if_false,
    Bool.false_and]
  cases Decimal.isNegative v <;> rfl

lemma isWordChar_of_mem_floatText {v : Float} {c : Char} (hc : c ∈ floatText v) :
    isWordChar c = true := by
  cases hfinite : v.isFinite with
  | true =>
    obtain ⟨n, sp, htext, -⟩ := exists_floatText_eq hfinite
    rw [htext] at hc
    exact isWordChar_of_mem_signed sp _ hc
  | false =>
    cases hnumber : v.isNaN with
    | true =>
      rw [floatText, if_pos hnumber] at hc
      exact List.all_eq_true.mp (by decide : ['n', 'a', 'n'].all isWordChar = true) c hc
    | false =>
      rw [floatText_of_infinite hfinite hnumber] at hc
      generalize Decimal.isNegative v = negative at hc
      have hall : ((if negative then ['-'] else []) ++ ['i', 'n', 'f']).all isWordChar = true := by
        cases negative <;> decide
      exact List.all_eq_true.mp hall c hc

/-- Every double is read from its text, the one that is no number included. -/
theorem readWord?_floatText (v : Float) : readWord? (floatText v) = some (.float v) := by
  by_cases hfinite : v.isFinite = true
  · obtain ⟨n, sp, htext, hread⟩ := exists_floatText_eq hfinite
    rw [htext]
    generalize Decimal.isNegative v = negative at hread ⊢
    have habsent {c : Char} (hdigit : c.isDigit = false) (hpoint : c ≠ '.') (hminus : c ≠ '-') :=
      notMem_signed sp negative hdigit hpoint hminus
    have hmoment : Moment.read? (sp.signed negative) = none :=
      moment_eq_none (minus_notMem_tail sp negative)
        (habsent (by decide) (by decide) (by decide))
    have hword {c : Char} (hc : c ∉ sp.signed negative) (t : List Char) :
        sp.signed negative ≠ c :: t := fun h => hc (h ▸ .head _)
    rw [readWord?, if_neg (hword (habsent (by decide) (by decide) (by decide)) _),
      if_neg (hword (habsent (by decide) (by decide) (by decide)) _), hmoment,
      readInteger?_signed, readFloat?_signed sp negative hread (beq_infinity hfinite)]
    rfl
  · rw [Bool.not_eq_true] at hfinite
    by_cases hnumber : v.isNaN = true
    · have htext : floatText v = ['n', 'a', 'n'] := by rw [floatText, if_pos hnumber]
      rw [htext, Decimal.eq_notANumber hnumber]
      rfl
    · rw [Bool.not_eq_true] at hnumber
      have hv := Decimal.ofRank_rank v
      rw [Decimal.rank_of_infinite hfinite hnumber] at hv
      have hvalue : Value.float v
          = .float (Decimal.ofRank (Decimal.isNegative v) Decimal.infinityRank) := by rw [hv]
      rw [floatText_of_infinite hfinite hnumber, hvalue]
      cases Decimal.isNegative v <;> rfl

end Bare

end Toml

end SpectroRemote
