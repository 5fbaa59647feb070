import SpectroRemote.Decimal.Positional
import SpectroRemote.Decimal.Reader
import SpectroRemote.Proofs.Decimal.Ranks
import SpectroRemote.Proofs.Decimal.Rounding
import SpectroRemote.Proofs.Lists

/-!
# Decimals read back

A decimal that is written out is digits with a point among them (`Spelling`), and is read as the
fraction that the digits stand for. The text of a double stands for a fraction that rounds to it, so
every double is read back from its text (`read?_spelled`).
-/

namespace SpectroRemote.Decimal

/-! ### Digits -/

lemma ofDigits_append_zeros (s : List Char) (z : Nat) :
    ofDigits (s ++ List.replicate z '0') = ofDigits s * 10 ^ z := by
  rw [ofDigits, Nat.ofDigitChars_append, Nat.ofDigitChars_replicate_zero, Nat.mul_comm]
  rfl

lemma dropTrailingZeros_append (s : List Char) :
    ∃ z, s = dropTrailingZeros s ++ List.replicate z '0' := by
  have hfront (t : List Char) : ∃ z, t = List.replicate z '0' ++ t.dropWhile (· == '0') := by
    induction t with
    | nil => exact ⟨0, rfl⟩
    | cons c t ih =>
      obtain ⟨z, hz⟩ := ih
      by_cases hc : c = '0'
      · refine ⟨z + 1, ?_⟩
        rw [hc, List.dropWhile_cons_of_pos rfl, List.replicate_succ, List.cons_append, ← hz]
      · exact ⟨0, by rw [List.dropWhile_cons_of_neg (by simpa using hc)]; rfl⟩
  obtain ⟨z, hz⟩ := hfront s.reverse
  refine ⟨z, ?_⟩
  have hs := congrArg List.reverse hz
  rwa [List.reverse_reverse, List.reverse_append, List.reverse_replicate] at hs

lemma length_padded {k m : Nat} (hk : 0 < k) (hm : m < 10 ^ k) : (padded k m).length = k := by
  have hle := (Nat.length_toDigits_le_iff (by decide) hk).mpr hm
  rw [padded, List.length_append, List.length_replicate]
  omega

lemma ofDigits_padded (k m : Nat) : ofDigits (padded k m) = m := by
  rw [ofDigits, padded, Nat.ofDigitChars_append, Nat.ofDigitChars_replicate_zero, Nat.mul_zero,
    Nat.ofDigitChars_ten_toDigits]

lemma isDigit_of_mem_padded {k m : Nat} {c : Char} (hc : c ∈ padded k m) : c.isDigit = true := by
  rcases List.mem_append.mp hc with hc | hc
  · rw [List.eq_of_mem_replicate hc]
    rfl
  · exact Nat.isDigit_of_mem_toDigits (by decide) (by decide) hc

/-- The first digit of a number that has more than one is not zero. -/
lemma toDigits_ne_zero_cons (n : Nat) (c : Char) (s : List Char) :
    Nat.toDigits 10 n ≠ '0' :: c :: s := by
  induction n using Nat.strong_induction_on generalizing c s with
  | _ n ih =>
    intro h
    rw [Nat.toDigits_eq_if (by decide)] at h
    split at h
    · cases (List.cons.inj h).2
    · next hn =>
      -- all digits but the last are those of a smaller number
      cases hmore : Nat.toDigits 10 (n / 10) with
      | nil => exact Nat.toDigits_ne_nil hmore
      | cons d t =>
        rw [hmore] at h
        obtain ⟨rfl, -⟩ := List.cons.inj h
        cases t with
        | cons d t => exact ih (n / 10) (by omega) d t hmore
        | nil =>
          have hvalue := Nat.ofDigitChars_ten_toDigits (n := n / 10)
          rw [hmore] at hvalue
          change 0 = n / 10 at hvalue
          omega

/-! ### Spellings -/

/-- Digits, a point and more digits, which stand for `n / 10 ^ k`. -/
structure Spelling (n k : Nat) where
  whole : List Char
  fraction : List Char
  /-- The zeros that are left out at the end of the fraction. -/
  zeros : Nat
  whole_isDigit : ∀ c ∈ whole, c.isDigit = true
  fraction_isDigit : ∀ c ∈ fraction, c.isDigit = true
  whole_ne_nil : whole ≠ []
  fraction_ne_nil : fraction ≠ []
  whole_ne : ∀ c s, whole ≠ '0' :: c :: s
  length_fraction : fraction.length + zeros = k
  value : ofDigits (whole ++ fraction) * 10 ^ zeros = n

namespace Spelling

variable {n k : Nat}

def text (sp : Spelling n k) : List Char := sp.whole ++ '.' :: sp.fraction

end Spelling

lemma contains_point_of_isDigit {s : List Char} (h : ∀ c ∈ s, c.isDigit = true) :
    s.contains '.' = false := by
  rw [List.contains_eq_mem, decide_eq_false_iff_not]
  exact fun hmem => absurd (h _ hmem) (by decide)

/-- A decimal that is written out is spelled, if a fraction of zero is put after a whole number. -/
lemma exists_spelling (n : Nat) {k : Nat} (hk : 0 < k) :
    ∃ sp : Spelling n k, sp.text =
      if (positional n k).contains '.' then positional n k
      else positional n k ++ ['.', '0'] := by
  have hmod : n % 10 ^ k < 10 ^ k := Nat.mod_lt n (Nat.pow_pos (by decide))
  have hdigits {c : Char} (hc : c ∈ Nat.toDigits 10 (n / 10 ^ k)) : c.isDigit = true :=
    Nat.isDigit_of_mem_toDigits (by decide) (by decide) hc
  obtain ⟨z, hz⟩ := dropTrailingZeros_append (padded k (n % 10 ^ k))
  have hlength := length_padded hk hmod
  have hvalue := ofDigits_padded k (n % 10 ^ k)
  have hn := Nat.div_add_mod n (10 ^ k)
  cases hfraction : dropTrailingZeros (padded k (n % 10 ^ k)) with
  | nil =>
    rw [hfraction, List.nil_append] at hz
    have hzero : n % 10 ^ k = 0 := by
      rw [← hvalue, hz, ← List.nil_append (List.replicate z '0'), ofDigits_append_zeros]
      exact Nat.zero_mul _
    have htext : positional n k = Nat.toDigits 10 (n / 10 ^ k) := by
      simp only [positional, Nat.pow_eq, hfraction]
    rw [htext, if_neg (by rw [contains_point_of_isDigit fun c hc => hdigits hc]; decide)]
    refine ⟨⟨Nat.toDigits 10 (n / 10 ^ k), ['0'], k - 1, fun c hc => hdigits hc, by simp,
      Nat.toDigits_ne_nil, by simp, toDigits_ne_zero_cons _, ?_, ?_⟩, rfl⟩
    · rw [List.length_singleton]
      omega
    · have hone : ['0'] = List.replicate 1 '0' := rfl
      rw [hone, ofDigits_append_zeros, ofDigits, Nat.ofDigitChars_ten_toDigits, Nat.mul_assoc,
        ← Nat.pow_add, Nat.add_sub_cancel' hk, Nat.mul_comm]
      omega
  | cons c fraction =>
    have htext : positional n k = Nat.toDigits 10 (n / 10 ^ k) ++ '.' :: c :: fraction := by
      simp only [positional, Nat.pow_eq, hfraction]
    rw [hfraction] at hz
    rw [htext, if_pos (by simp)]
    refine ⟨⟨Nat.toDigits 10 (n / 10 ^ k), c :: fraction, z, fun c hc => hdigits hc, ?_,
      Nat.toDigits_ne_nil, by simp, toDigits_ne_zero_cons _, ?_, ?_⟩, rfl⟩
    · intro d hd
      apply isDigit_of_mem_padded (k := k) (m := n % 10 ^ k)
      rw [hz]
      exact List.mem_append_left _ hd
    · rw [hz, List.length_append, List.length_replicate] at hlength
      exact hlength
    · rw [← ofDigits_append_zeros, List.append_assoc, ← hz, ofDigits, Nat.ofDigitChars_append,
        Nat.ofDigitChars_ten_toDigits, Nat.ofDigitChars_eq_ofDigitChars_zero, hlength]
      change 10 ^ k * (n / 10 ^ k) + ofDigits (padded k (n % 10 ^ k)) = n
      rw [hvalue, hn]

/-! ### Reading -/

lemma splitSign_of_isDigit {c : Char} (hc : c.isDigit = true) (s : List Char) :
    splitSign (c :: s) = (false, c :: s) := by
  unfold splitSign
  split
  · next heq => rw [(List.cons.inj heq).1] at hc; cases hc
  · next heq => rw [(List.cons.inj heq).1] at hc; cases hc
  · rfl

/-- No word begins as digits do. -/
lemma map_toLower_ne_of_isDigit {d : Char} (hd : d.isDigit = true) (s : List Char) {c : Char}
    (hc : c.isDigit = false) (word : List Char) : (d :: s).map Char.toLower ≠ c :: word := by
  have hlower : d.toLower = d := by
    have hle : d.val ≤ '9'.val := by simpa using (Bool.and_eq_true_iff.mp hd).2
    have hlt : '9'.val < 'A'.val := by decide
    rw [Char.toLower, dif_neg]
    intro h
    exact absurd (UInt32.lt_of_lt_of_le hlt h.1) (UInt32.not_lt.mpr hle)
  rw [List.map_cons, hlower]
  intro h
  rw [(List.cons.inj h).1, hc] at hd
  cases hd

/-- A decimal that begins with a digit is read, with or without a minus sign. -/
lemma read?_of_readScientific? {c : Char} (hc : c.isDigit = true) {s : List Char} {x : Scientific}
    (h : readScientific? (c :: s) = some x) (negative : Bool) :
    read? ((if negative then ['-'] else []) ++ c :: s) = some (ofRank negative x.rank) := by
  have hi : Char.isDigit 'i' = false := by decide
  have hn : Char.isDigit 'n' = false := by decide
  have hsign : splitSign ((if negative then ['-'] else []) ++ c :: s) = (negative, c :: s) := by
    cases negative with
    | true => rfl
    | false => exact splitSign_of_isDigit hc s
  simp only [read?, hsign, map_toLower_ne_of_isDigit hc s hi, map_toLower_ne_of_isDigit hc s hn,
    decide_false, Bool.or_false, if_false, h, Option.map_some]
  rfl

namespace Spelling

variable {n k : Nat} (sp : Spelling n k)

/-- The decimal that is read from the text. -/
def scientific : Scientific := ⟨ofDigits (sp.whole ++ sp.fraction), -sp.fraction.length⟩

lemma readScientific?_text : readScientific? sp.text = some sp.scientific := by
  have hwhole : (sp.whole ++ '.' :: sp.fraction).span Char.isDigit
      = (sp.whole, '.' :: sp.fraction) :=
    span_append sp.whole_isDigit fun c hc => by
      rw [← Option.some.inj hc]
      rfl
  have hfraction : sp.fraction.span Char.isDigit = (sp.fraction, []) := by
    have h := span_append (t := []) sp.fraction_isDigit fun c hc => nomatch hc
    rwa [List.append_nil] at h
  have hgiven : (sp.whole.isEmpty && sp.fraction.isEmpty) = false := by
    rw [List.isEmpty_eq_false_iff.mpr sp.whole_ne_nil]
    rfl
  simp only [readScientific?, text, hwhole, splitFraction, hfraction, readScale?, hgiven,
    Option.bind_eq_bind, Option.bind_some, scientific]
  simp

/-- The text begins with a digit. -/
lemma exists_text_eq_cons : ∃ c s, c.isDigit = true ∧ sp.text = c :: s := by
  obtain ⟨c, s, hwhole⟩ := List.exists_cons_of_ne_nil sp.whole_ne_nil
  refine ⟨c, s ++ '.' :: sp.fraction, ?_, ?_⟩
  · apply sp.whole_isDigit
    rw [hwhole]
    exact .head _
  · rw [text, hwhole, List.cons_append]

/-- The text with a minus sign in front if it stands for a negative number. -/
def signed (negative : Bool) : List Char := (if negative then ['-'] else []) ++ sp.text

lemma splitSign_signed (negative : Bool) :
    splitSign (sp.signed negative) = (negative, sp.text) := by
  cases negative with
  | true => rfl
  | false =>
    obtain ⟨c, s, hc, htext⟩ := sp.exists_text_eq_cons
    rw [signed, htext]
    exact splitSign_of_isDigit hc s

/-- A spelled decimal is read, with or without a minus sign. -/
theorem read?_signed (negative : Bool) :
    read? (sp.signed negative) = some (ofRank negative sp.scientific.rank) := by
  obtain ⟨c, s, hc, htext⟩ := sp.exists_text_eq_cons
  have hread := sp.readScientific?_text
  rw [signed, htext]
  rw [htext] at hread
  exact read?_of_readScientific? hc hread negative

end Spelling

/-! ### Nearest doubles -/

lemma Spelling.rank_scientific_zero {k : Nat} (sp : Spelling 0 k) : sp.scientific.rank = 0 := by
  have hzero : ofDigits (sp.whole ++ sp.fraction) = 0 := by
    rcases Nat.mul_eq_zero.mp sp.value with h | h
    · exact h
    · exact absurd h (Nat.pow_pos (by decide)).ne'
  rw [Scientific.rank, Spelling.scientific, hzero]
  rfl

/-- A decimal that rounds to a double is read as it. -/
lemma Spelling.rank_scientific {n r : Nat} (sp : Spelling n places) (hr : 0 < r)
    (hlt : r < infinityRank) (h : Rounds r n denominator) : sp.scientific.rank = r := by
  have hfraction := List.length_pos_iff.mpr sp.fraction_ne_nil
  have hlength : sp.fraction.length + sp.zeros = 400 := sp.length_fraction
  have hdenominator : 10 ^ sp.fraction.length * 10 ^ sp.zeros = denominator := by
    rw [← Nat.pow_add, hlength]
    decide +kernel
  have hreduced : Rounds r (ofDigits (sp.whole ++ sp.fraction)) (10 ^ sp.fraction.length) := by
    refine Rounds.cancel (Nat.pow_pos (n := sp.zeros) (by decide : 0 < 10)) ?_
    rwa [sp.value, hdenominator]
  have hdigits : ofDigits (sp.whole ++ sp.fraction) ≠ 0 := by
    intro hzero
    have hbelow := units_lt_succ (r - 1)
    rw [Nat.sub_add_cancel hr] at hbelow
    have hlower := hreduced.lower
    rw [hzero, Nat.mul_zero, Nat.zero_mul, Nat.le_zero, Nat.mul_eq_zero] at hlower
    rcases hlower with hlower | hlower
    · omega
    · exact absurd hlower (Nat.pow_pos (by decide)).ne'
  have hexponent : (-(-(sp.fraction.length : Int))).toNat = sp.fraction.length := by omega
  simp only [Scientific.rank, Spelling.scientific, hexponent]
  rw [if_neg hdigits, if_neg (by omega), if_neg (by omega), if_neg (by omega)]
  exact nearestRank_eq (Nat.pow_pos (by decide)) hr hlt hreduced

/-- The text of a finite rank is spelled, and is read as that rank. -/
theorem exists_spelling_textOfRank {r : Nat} (hlt : r < infinityRank) :
    ∃ n, ∃ sp : Spelling n places,
      sp.text = (if (textOfRank r).contains '.' then textOfRank r
        else textOfRank r ++ ['.', '0'])
      ∧ sp.scientific.rank = r := by
  by_cases hr : r = 0
  · subst hr
    have htext : textOfRank 0 = positional 0 places := by decide +kernel
    obtain ⟨sp, hsp⟩ := exists_spelling 0 (k := places) (by decide)
    exact ⟨0, sp, by rw [htext, hsp], sp.rank_scientific_zero⟩
  · have htext : textOfRank r = positional ((shortest r).1 * 10 ^ (shortest r).2) places := by
      rw [textOfRank, if_neg hr]
      rfl
    obtain ⟨sp, hsp⟩ :=
      exists_spelling ((shortest r).1 * 10 ^ (shortest r).2) (k := places) (by decide)
    have hpos := Nat.pos_of_ne_zero hr
    exact ⟨_, sp, by rw [htext, hsp], sp.rank_scientific hpos hlt (rounds_shortest hpos)⟩

end SpectroRemote.Decimal
