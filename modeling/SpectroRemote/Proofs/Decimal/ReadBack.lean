import SpectroRemote.Proofs.Lines
import SpectroRemote.Proofs.Toml.Words

/-!
# Values read back

The text that replies show for a finite double is plain, that is digits with at most one point among
them and perhaps a minus sign in front, and the double is read back from it
(`readFinite_valueText`).
-/

namespace SpectroRemote

/-! ### Texts without blanks -/

namespace Text

lemma trim_of_solid {s : List Char} (h : ∀ c ∈ s, isBlank c = false) : trim s = s := by
  rw [trim, trimFront, List.dropWhile_eq_self_iff.mpr fun hs => by simp [h]]
  exact trimBack_of_solid h

/-- The printable characters of ASCII are not blank, except for the space. -/
lemma isBlank_of_visible {c : Char} (hlow : 0x20 < c.toNat) (hhigh : c.toNat < 0x7F) :
    isBlank c = false := by
  rw [isBlank, List.any_eq_false]
  intro range hmem
  simp only [blankRanges, List.mem_cons, List.not_mem_nil, or_false] at hmem
  rcases hmem with rfl | rfl | rfl | rfl | rfl | rfl | rfl | rfl | rfl | rfl <;>
    simp only [Bool.and_eq_true, decide_eq_true_eq] <;> omega

lemma isBlank_of_isDigit {c : Char} (h : c.isDigit = true) : isBlank c = false := by
  obtain ⟨hlow, hhigh⟩ := Char.isDigit_iff_toNat.mp h
  have hcodes : '0'.toNat = 48 ∧ '9'.toNat = 57 := by decide
  apply isBlank_of_visible
  · omega
  · omega

end Text

namespace Decimal

/-! ### Decimals without a fraction -/

lemma divNearestEven_mul_left {c : Nat} (hc : 0 < c) (a b : Nat) :
    divNearestEven (c * a) (c * b) = divNearestEven a b := by
  have hless (m n : Nat) : c * m < c * n ↔ m < n := Nat.mul_lt_mul_left hc
  simp only [divNearestEven, Nat.mul_div_mul_left _ _ hc, Nat.mul_mod_mul_left,
    Nat.mul_left_comm 2 c, hless]

/-- The nearest double to a fraction does not depend on how the fraction is reduced. -/
lemma nearestRank_mul_left {c : Nat} (hc : 0 < c) (a b : Nat) :
    nearestRank (c * a) (c * b) = nearestRank a b := by
  simp only [nearestRank, Nat.mul_assoc c, Nat.mul_div_mul_left _ _ hc, divNearestEven_mul_left hc]

/-- A zero after the point counts for nothing. -/
lemma Scientific.rank_append_zero (d : Nat) :
    Scientific.rank ⟨d * 10, -1⟩ = Scientific.rank ⟨d, 0⟩ := by
  by_cases hd : d = 0
  · simp only [hd, Scientific.rank, Nat.zero_mul, if_true]
  · have hsmall (n : Nat) : ¬ (-1 : Int) < -400 - n := by omega
    have hsmall' (n : Nat) : ¬ (0 : Int) < -400 - n := by omega
    simp only [Scientific.rank]
    rw [if_neg (by omega), if_neg (hsmall _), if_neg (by decide), if_neg (by decide),
      if_neg hd, if_neg (hsmall' _), if_neg (by decide), if_pos (by decide), Nat.mul_comm d]
    simpa using nearestRank_mul_left (by decide : 0 < 10) d 1

lemma readScientific?_of_isDigit {s : List Char} (hs : s ≠ [])
    (h : ∀ c ∈ s, c.isDigit = true) : readScientific? s = some ⟨ofDigits s, 0⟩ := by
  have hspan : s.span Char.isDigit = (s, []) := by
    have := span_append (t := []) h fun c hc => nomatch hc
    rwa [List.append_nil] at this
  have hgiven : (s.isEmpty && ([] : List Char).isEmpty) = false := by
    rw [List.isEmpty_eq_false_iff.mpr hs]
    rfl
  simp only [readScientific?, hspan, splitFraction, readScale?, Option.bind_eq_bind,
    Option.bind_some, hgiven]
  simp

/-! ### Plain texts -/

/-- Digits with at most one point among them, perhaps with a minus sign in front. -/
def IsPlain (s : List Char) : Prop :=
  ∃ digits, (s = digits ∨ s = '-' :: digits) ∧ (∀ c ∈ digits, c.isDigit = true ∨ c = '.')
    ∧ digits.count '.' ≤ 1

lemma IsPlain.solid {s : List Char} (h : IsPlain s) : ∀ c ∈ s, Text.isBlank c = false := by
  obtain ⟨digits, hs, hdigits, -⟩ := h
  have hsolid (c : Char) (hc : c ∈ digits) : Text.isBlank c = false := by
    rcases hdigits c hc with hc | rfl
    · exact Text.isBlank_of_isDigit hc
    · decide
  intro c hc
  rcases hs with rfl | rfl
  · exact hsolid c hc
  · rcases List.mem_cons.mp hc with rfl | hc
    · decide
    · exact hsolid c hc

lemma count_point_of_isDigit {s : List Char} (h : ∀ c ∈ s, c.isDigit = true) :
    s.count '.' = 0 := by
  rw [List.count_eq_zero]
  exact fun hmem => absurd (h _ hmem) (by decide)

/-! ### Texts of doubles -/

/-- The text of a finite rank is spelled, or it is the whole number of which the spelling adds a
fraction of zero. -/
lemma textOfRank_cases {r : Nat} (hlt : r < infinityRank) :
    ∃ n, ∃ sp : Spelling n places, sp.scientific.rank = r
      ∧ (textOfRank r = sp.text ∨ textOfRank r = sp.whole ∧ sp.fraction = ['0']) := by
  obtain ⟨n, sp, htext, hrank⟩ := exists_spelling_textOfRank hlt
  refine ⟨n, sp, hrank, ?_⟩
  cases hpoint : (textOfRank r).contains '.' with
  | true =>
    rw [hpoint, if_pos rfl] at htext
    exact .inl htext.symm
  | false =>
    rw [hpoint, if_neg Bool.false_ne_true, Spelling.text] at htext
    have hwhole : '.' ∉ sp.whole := fun h => absurd (sp.whole_isDigit _ h) (by decide)
    have habsent : '.' ∉ textOfRank r := by simpa using hpoint
    have hcut := congrArg (Text.cut '.') htext
    rw [Text.cut_append hwhole, Text.cut_append habsent, Prod.mk.injEq, Option.some.injEq] at hcut
    exact .inr ⟨hcut.1.symm, hcut.2⟩

/-- The text of a finite rank has digits and at most one point in it. -/
lemma digits_textOfRank {r : Nat} (hlt : r < infinityRank) :
    (∀ c ∈ textOfRank r, c.isDigit = true ∨ c = '.') ∧ (textOfRank r).count '.' ≤ 1 := by
  obtain ⟨n, sp, -, htext | ⟨htext, -⟩⟩ := textOfRank_cases hlt <;> rw [htext]
  · constructor
    · intro c hc
      rcases List.mem_append.mp hc with hc | hc
      · exact .inl (sp.whole_isDigit c hc)
      · exact (List.mem_cons.mp hc).symm.imp_left (sp.fraction_isDigit c)
    · rw [Spelling.text, List.count_append, List.count_cons_self,
        count_point_of_isDigit sp.whole_isDigit, count_point_of_isDigit sp.fraction_isDigit]
  · constructor
    · exact fun c hc => .inl (sp.whole_isDigit c hc)
    · rw [count_point_of_isDigit sp.whole_isDigit]
      exact Nat.zero_le 1

/-- The text of a finite rank begins with a digit, and is read as that rank. -/
lemma readScientific?_textOfRank {r : Nat} (hlt : r < infinityRank) :
    ∃ c s, textOfRank r = c :: s ∧ c.isDigit = true
      ∧ ∃ x, readScientific? (c :: s) = some x ∧ x.rank = r := by
  obtain ⟨n, sp, hrank, htext | ⟨htext, hfraction⟩⟩ := textOfRank_cases hlt
  · obtain ⟨c, s, hc, hcons⟩ := sp.exists_text_eq_cons
    exact ⟨c, s, htext.trans hcons, hc, sp.scientific, hcons ▸ sp.readScientific?_text, hrank⟩
  · obtain ⟨c, s, hcons⟩ := List.exists_cons_of_ne_nil sp.whole_ne_nil
    have hread := readScientific?_of_isDigit sp.whole_ne_nil sp.whole_isDigit
    have hten : ofDigits (sp.whole ++ sp.fraction) = ofDigits sp.whole * 10 := by
      rw [hfraction]
      exact ofDigits_append_zeros sp.whole 1
    rw [Spelling.scientific, hten, hfraction] at hrank
    refine ⟨c, s, htext.trans hcons, sp.whole_isDigit c (hcons ▸ .head _),
      ⟨ofDigits sp.whole, 0⟩, ?_, (Scientific.rank_append_zero _).symm.trans hrank⟩
    rw [← hcons]
    exact hread

lemma text_eq {v : Float} (h : v.isFinite = true) :
    text v = (if isNegative v then ['-'] else []) ++ textOfRank (rank v) := by
  rw [text, if_neg (by rw [Toml.Bare.isNaN_of_isFinite h]; decide)]
  simp only [h, if_true]
  cases isNegative v <;> rfl

/-- The text of a finite double is plain. -/
theorem isPlain_text {v : Float} (h : v.isFinite = true) : IsPlain (text v) := by
  refine ⟨textOfRank (rank v), ?_, digits_textOfRank (rank_lt_of_isFinite h)⟩
  rw [text_eq h]
  cases isNegative v
  · exact .inl rfl
  · exact .inr rfl

/-- A finite double is read from its text. -/
theorem read?_text {v : Float} (h : v.isFinite = true) : read? (text v) = some v := by
  obtain ⟨c, s, htext, hc, x, hread, hrank⟩ := readScientific?_textOfRank (rank_lt_of_isFinite h)
  rw [text_eq h, htext, read?_of_readScientific? hc hread, hrank, ofRank_rank]

end Decimal

/-- A finite double is read from the text that replies show for it. -/
theorem readFinite_valueText {v : Float} (h : v.isFinite = true) :
    readFinite (valueText v).toList = .ok v := by
  rw [valueText, String.toList_ofList, readFinite,
    Text.trim_of_solid (Decimal.isPlain_text h).solid, Decimal.read?_text h]
  exact if_pos h

end SpectroRemote
