import SpectroRemote.Text.Reader

/-!
# Backslash escapes

In a quoted text a backslash and what follows it stand for one character: a letter for one of the
common control characters, a quote or a backslash for itself, `u` with four and `U` with eight
hexadecimal digits for the character of that code point.
-/

namespace SpectroRemote.Text.Escape

/-- The characters that one letter stands for. -/
def letters : List (Char × Char) :=
  [('b', '\x08'), ('t', '\t'), ('n', '\n'), ('f', '\x0c'), ('r', '\r'), ('"', '"'), ('\\', '\\')]

/-- The value of a hexadecimal digit in either letter case. -/
def hexDigit? (c : Char) : Option Nat :=
  if '0' ≤ c ∧ c ≤ '9' then some (c.toNat - '0'.toNat)
  else if 'a' ≤ c ∧ c ≤ 'f' then some (c.toNat - 'a'.toNat + 10)
  else if 'A' ≤ c ∧ c ≤ 'F' then some (c.toNat - 'A'.toNat + 10)
  else none

/-- Reads `count` hexadecimal digits, the number before them being `value`. -/
def readHex? : (count : Nat) → (value : Nat) → Reader Nat
  | 0, value, s => some (value, s)
  | _ + 1, _, [] => none
  | count + 1, value, c :: s =>
    (hexDigit? c).bind fun d => readHex? count (16 * value + d) s

def readCodePoint? (count : Nat) : Reader Char := fun s =>
  (readHex? count 0 s).bind fun (n, rest) =>
    if n.isValidChar then some (Char.ofNat n, rest) else none

/-- Reads what follows a backslash. -/
def read? : Reader Char
  | [] => none
  | 'u' :: s => readCodePoint? 4 s
  | 'U' :: s => readCodePoint? 8 s
  | c :: s => (letters.lookup c).map (·, s)

theorem readHex?_length {count value n : Nat} {s rest : List Char}
    (h : readHex? count value s = some (n, rest)) : rest.length ≤ s.length := by
  induction count generalizing value s with
  | zero => simp_all [readHex?]
  | succ count ih =>
    cases s with
    | nil => simp [readHex?] at h
    | cons c s =>
      obtain ⟨d, -, hd⟩ := Option.bind_eq_some_iff.1 h
      exact Nat.le_succ_of_le (ih hd)

/-- An escape takes at least one character. -/
theorem read?_length {s rest : List Char} {c : Char} (h : read? s = some (c, rest)) :
    rest.length < s.length := by
  have code {count : Nat} {s : List Char} (h : readCodePoint? count s = some (c, rest)) :
      rest.length ≤ s.length := by
    obtain ⟨⟨n, r⟩, hr, h⟩ := Option.bind_eq_some_iff.1 h
    by_cases hn : n.isValidChar
    · simp only [hn, if_true, Option.some.injEq, Prod.mk.injEq] at h
      exact h.2 ▸ readHex?_length hr
    · simp [hn] at h
  fun_cases read? s with
  | case1 => simp [read?] at h
  | case2 s => exact Nat.lt_succ_of_le (code h)
  | case3 s => exact Nat.lt_succ_of_le (code h)
  | case4 c' s h1 h2 =>
    rw [read?] at h
    · obtain ⟨d, -, hd⟩ := Option.map_eq_some_iff.1 h
      cases hd
      exact Nat.lt_succ_self _
    · exact h1
    · exact h2

end SpectroRemote.Text.Escape
