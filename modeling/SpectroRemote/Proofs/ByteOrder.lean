import Mathlib
import SpectroRemote.Text.Utf8

/-!
# The order of encoded texts

Texts are ordered by the code points of their characters. This is also the order of their encodings
byte by byte (`encode_lt_encode_iff`), since no encoding of a character is the beginning of another
one.
-/

namespace SpectroRemote.Text

/-- The first of these byte sequences is less than the second one at the first place where they
differ, and there is such a place in both. -/
def Precedes : List UInt8 → List UInt8 → Prop
  | a :: s, b :: t => a < b ∨ a = b ∧ Precedes s t
  | _, _ => False

/-- Whatever comes after, the order is the same. -/
lemma Precedes.append_lt_append {s t : List UInt8} (h : Precedes s t) (u v : List UInt8) :
    s ++ u < t ++ v := by
  induction s generalizing t with
  | nil => exact h.elim
  | cons a s ih =>
    cases t with
    | nil => exact h.elim
    | cons b t =>
      rw [List.cons_append, List.cons_append, List.cons_lt_cons_iff]
      exact h.imp_right (And.imp_right ih)

/-- A character with a smaller code point has an encoding that comes first. -/
lemma precedes_utf8EncodeChar {c d : Char} (h : c < d) :
    Precedes (String.utf8EncodeChar c) (String.utf8EncodeChar d) := by
  have hlt : c.val.toNat < d.val.toNat := UInt32.lt_iff_toNat_lt.mp h
  have hd : d.val.toNat < 1114112 := by
    rcases d.valid with hsmall | ⟨-, hgreat⟩
    · exact hsmall.trans (by decide)
    · exact hgreat
  rw [String.utf8EncodeChar, String.utf8EncodeChar]
  generalize c.val.toNat = m at hlt ⊢
  generalize d.val.toNat = n at hlt hd ⊢
  -- between encodings of one length the first digit that differs decides, otherwise the first byte
  have hdigits : m / 262144 < n / 262144 ∨ m / 262144 = n / 262144 ∧
      (m / 4096 % 64 < n / 4096 % 64 ∨ m / 4096 % 64 = n / 4096 % 64 ∧
        (m / 64 % 64 < n / 64 % 64 ∨ m / 64 % 64 = n / 64 % 64 ∧ m % 64 < n % 64)) := by
    omega
  split_ifs <;>
    simp only [Precedes, UInt8.lt_iff_toNat_lt, ← UInt8.toNat_inj, UInt8.toNat_ofNat', and_false,
      or_false] <;>
    simp (disch := omega) only [Nat.mod_eq_of_lt] <;>
    omega

lemma utf8EncodeChar_ne_nil (c : Char) : String.utf8EncodeChar c ≠ [] := by
  rw [String.utf8EncodeChar]
  split_ifs <;> exact List.cons_ne_nil _ _

lemma encode_lt_encode {s t : List Char} (h : s < t) : encode s < encode t := by
  induction s generalizing t with
  | nil =>
    cases t with
    | nil => cases h
    | cons d t =>
      obtain ⟨b, rest, hd⟩ := List.exists_cons_of_ne_nil (utf8EncodeChar_ne_nil d)
      rw [encode, encode, List.flatMap_cons, hd, List.flatMap_nil]
      exact List.nil_lt_cons _ _
  | cons c s ih =>
    cases t with
    | nil => cases h
    | cons d t =>
      rw [encode, encode, List.flatMap_cons, List.flatMap_cons]
      rcases List.cons_lt_cons_iff.mp h with hlt | ⟨rfl, hrest⟩
      · exact (precedes_utf8EncodeChar hlt).append_lt_append _ _
      · exact List.Lex.append_left _ (ih hrest) _

/-- The order of texts is the order of their encodings. -/
theorem encode_lt_encode_iff {s t : List Char} : encode s < encode t ↔ s < t := by
  constructor
  · intro h
    rcases lt_trichotomy s t with hlt | rfl | hgt
    · exact hlt
    · exact absurd h (List.lt_irrefl _)
    · exact absurd (encode_lt_encode hgt) (List.lt_asymm h)
  · exact encode_lt_encode

end SpectroRemote.Text
