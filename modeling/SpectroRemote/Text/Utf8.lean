/-!
# UTF-8 that may be damaged

Bytes are read as characters, and each longest piece that could have begun a character but is no
whole one becomes a single replacement character U+FFFD.
-/

namespace SpectroRemote.Text

def encode (s : List Char) : List UInt8 := s.flatMap String.utf8EncodeChar

/-- What the first byte of a longer character announces: how many bytes follow, between which bounds
the first of them lies, and the bits that the byte itself contributes. -/
structure Lead where
  following : Nat
  low : UInt8
  high : UInt8
  bits : Nat
deriving Repr, DecidableEq

/-- Reads the first byte of a character of two to four bytes. Bytes that begin no character, or only
overlong forms, surrogates or numbers beyond U+10FFFF, are refused. -/
def lead? (b : UInt8) : Option Lead :=
  let n := b.toNat
  if b < 0xC2 then none
  else if b < 0xE0 then some ⟨1, 0x80, 0xBF, n - 0xC0⟩
  else if b < 0xF0 then
    some ⟨2, if b = 0xE0 then 0xA0 else 0x80, if b = 0xED then 0x9F else 0xBF, n - 0xE0⟩
  else if b < 0xF5 then
    some ⟨3, if b = 0xF0 then 0x90 else 0x80, if b = 0xF4 then 0x8F else 0xBF, n - 0xF0⟩
  else none

/-- Reads the `n` bytes that follow the first one, the next of them between `low` and `high`: the
code point, unless a byte is missing or out of bounds, and the bytes after those that fitted. -/
def follow : (n : Nat) → (low high : UInt8) → (bits : Nat) → List UInt8 → Option Nat × List UInt8
  | 0, _, _, bits, s => (some bits, s)
  | _ + 1, _, _, _, [] => (none, [])
  | n + 1, low, high, bits, b :: s =>
    if low ≤ b && b ≤ high then follow n 0x80 0xBF (bits * 64 + (b.toNat - 0x80)) s
    else (none, b :: s)

theorem follow_length_le (n : Nat) (low high : UInt8) (bits : Nat) (s : List UInt8) :
    (follow n low high bits s).2.length ≤ s.length := by
  induction n generalizing low high bits s with
  | zero => simp [follow]
  | succ n ih =>
    cases s with
    | nil => simp [follow]
    | cons b s =>
      simp only [follow]
      split
      · exact Nat.le_succ_of_le (ih ..)
      · simp

def replacement : Char := Char.ofNat 0xFFFD

/-- Reads one character, or the longest piece of one, off the front of the bytes `b :: s`. -/
def decodeFirst (b : UInt8) (s : List UInt8) : Char × List UInt8 :=
  if b < 0x80 then (Char.ofNat b.toNat, s)
  else match lead? b with
    | none => (replacement, s)
    | some l =>
      match follow l.following l.low l.high l.bits s with
      | (some n, rest) => (Char.ofNat n, rest)
      | (none, rest) => (replacement, rest)

theorem decodeFirst_length_le (b : UInt8) (s : List UInt8) :
    (decodeFirst b s).2.length ≤ s.length := by
  simp only [decodeFirst]
  split
  · exact Nat.le_refl _
  · split
    · exact Nat.le_refl _
    · next l _ =>
      have := follow_length_le l.following l.low l.high l.bits s
      split <;> simp_all

def decode : List UInt8 → List Char
  | [] => []
  | b :: s => (decodeFirst b s).1 :: decode (decodeFirst b s).2
termination_by s => s.length
decreasing_by exact Nat.lt_succ_of_le (decodeFirst_length_le b s)

end SpectroRemote.Text
