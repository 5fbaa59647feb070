import Mathlib
import SpectroRemote.Text.Lowercase

/-!
# Lower case in Unicode and in ASCII

Outside ASCII only the Kelvin sign becomes a small Latin letter, and this is the k. So a word of
other small letters is the lower-case form of the same texts in Unicode as in ASCII
(`lowercase_eq_iff`).
-/

namespace SpectroRemote

namespace Text

/-! ### Small and capital letters -/

/-- A character is a small letter or its capital if it becomes this letter. -/
lemma eq_or_eq_toUpper_iff {c d : Char} (hd : d.isLower = true) :
    c = d ∨ c = d.toUpper ↔ c.toLower = d := by
  have hsmall : d.toLower = d := Char.toLower_eq_of_not_isUpper (Char.not_isUpper_of_isLower hd)
  constructor
  · rintro (rfl | rfl)
    · exact hsmall
    · rw [Char.toLower_toUpper_eq_toLower, hsmall]
  · rintro rfl
    by_cases hc : c.isUpper = true
    · right
      rw [Char.toUpper_toLower_eq_toUpper, Char.toUpper_eq_of_not_isLower]
      exact Char.not_isLower_of_isUpper hc
    · left
      exact (Char.toLower_eq_of_not_isUpper hc).symm

lemma forall₂_eq_or_eq_toUpper_iff {s w : List Char} (hw : ∀ d ∈ w, d.isLower = true) :
    List.Forall₂ (fun c d => c = d ∨ c = d.toUpper) s w ↔ s.map Char.toLower = w := by
  induction w generalizing s with
  | nil => simp
  | cons d w ih =>
    rw [List.forall_mem_cons] at hw
    cases s with
    | nil => simp
    | cons c s =>
      rw [List.forall₂_cons, eq_or_eq_toUpper_iff hw.1, ih hw.2, List.map_cons, List.cons.injEq]

lemma toNat_of_isAlpha {c : Char} (h : c.isAlpha = true) : 65 ≤ c.toNat ∧ c.toNat ≤ 122 := by
  rw [Char.isAlpha, Bool.or_eq_true] at h
  rcases h with h | h
  · rw [Char.isUpper, decide_eq_true_eq] at h
    have hcodes : 'A'.toNat = 65 ∧ 'Z'.toNat = 90 := by decide
    have hlow : 'A'.toNat ≤ c.toNat := h.1
    have hhigh : c.toNat ≤ 'Z'.toNat := h.2
    omega
  · rw [Char.isLower, Bool.and_eq_true, decide_eq_true_eq, decide_eq_true_eq] at h
    have hcodes : 'a'.toNat = 97 ∧ 'z'.toNat = 122 := by decide
    have hlow : 'a'.toNat ≤ c.toNat := h.1
    have hhigh : c.toNat ≤ 'z'.toNat := h.2
    omega

lemma isLower_eq_false_of_le {c : Char} (h : 128 ≤ c.toNat) : c.isLower = false := by
  apply Bool.eq_false_iff.mpr
  intro hc
  have hrange := toNat_of_isAlpha (c := c) (by simp [Char.isAlpha, hc])
  omega

/-! ### Lower case in Unicode -/

lemma lowercaseChar_of_lt {c : Char} (h : c.toNat < 128) : lowercaseChar c = [c.toLower] := by
  have hall : ∀ n < 128, lowercaseChar (Char.ofNat n) = [(Char.ofNat n).toLower] := by
    decide +kernel
  have hc := hall c.toNat h
  rwa [Char.ofNat_toNat] at hc

lemma isLower_ofNat {n : Nat} (h : 128 ≤ n) : (Char.ofNat n).isLower = false := by
  by_cases hn : n.isValidChar
  · apply isLower_eq_false_of_le
    rwa [Char.toNat_ofNat, if_pos hn]
  · rw [Char.ofNat, dif_neg hn]
    rfl

/-- Outside ASCII only the Kelvin sign has a lower-case form of small Latin letters. -/
lemma lowercaseChar_of_le {c : Char} (h : 128 ≤ c.toNat) :
    lowercaseChar c = ['k'] ∨ ∃ d ∈ lowercaseChar c, d.isLower = false := by
  have hruns : ∀ r ∈ lowercaseRuns,
      r.2.1 < 128 ∨ r = (0x212A, 0x212A, 1, -8383) ∨ (128 : Int) ≤ r.1 + r.2.2.2 := by
    decide +kernel
  unfold lowercaseChar
  dsimp only
  split
  · exact .inr ⟨Char.ofNat 0x307, .tail _ (.head _), by decide⟩
  · split
    · next first last step shift hrun =>
      have hin := List.find?_some hrun
      have hcase := hruns _ (List.mem_of_find?_eq_some hrun)
      simp only [Bool.and_eq_true, decide_eq_true_eq] at hin
      dsimp only at hcase
      rcases hcase with hlast | hkelvin | hfar
      · omega
      · left
        cases hkelvin
        have hcode : c.toNat = 0x212A := by omega
        rw [hcode]
        decide
      · right
        exact ⟨_, .head _, isLower_ofNat (by omega)⟩
    · exact .inr ⟨c, .head _, isLower_eq_false_of_le h⟩

lemma lowercaseChar_eq_toLower {c : Char}
    (h : ∀ d ∈ lowercaseChar c, d.isLower = true ∧ d ≠ 'k') : lowercaseChar c = [c.toLower] := by
  by_cases hc : c.toNat < 128
  · exact lowercaseChar_of_lt hc
  · rcases lowercaseChar_of_le (Nat.le_of_not_lt hc) with hkelvin | ⟨d, hd, hforeign⟩
    · rw [hkelvin] at h
      exact absurd rfl (h 'k' (.head _)).2
    · rw [(h d hd).1] at hforeign
      cases hforeign

lemma lowercase_eq_map {s : List Char} (h : ∀ c ∈ s, lowercaseChar c = [c.toLower]) :
    lowercase s = s.map Char.toLower := by
  rw [lowercase, List.map_eq_flatMap]
  exact List.flatMap_congr h

/-- A word without a k is the lower-case form of the same texts in Unicode as in ASCII. -/
lemma lowercase_eq_iff {s w : List Char} (hw : ∀ d ∈ w, d.isLower = true ∧ d ≠ 'k') :
    lowercase s = w ↔ s.map Char.toLower = w := by
  constructor
  · rintro rfl
    symm
    apply lowercase_eq_map
    intro c hc
    apply lowercaseChar_eq_toLower
    intro d hd
    exact hw d (List.mem_flatMap.mpr ⟨c, hc, hd⟩)
  · rintro rfl
    apply lowercase_eq_map
    intro c hc
    apply lowercaseChar_of_lt
    have hsmall := (hw _ (List.mem_map_of_mem hc)).1
    rw [Char.isLower_toLower_eq_isAlpha] at hsmall
    have hrange := toNat_of_isAlpha hsmall
    omega

/-- The k of the Kelvin sign. -/
example : lowercase [Char.ofNat 0x212A] = ['k'] ∧ [Char.ofNat 0x212A].map Char.toLower ≠ ['k'] := by
  decide

end Text

end SpectroRemote
