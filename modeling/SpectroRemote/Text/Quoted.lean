import SpectroRemote.Text.Unshown

/-!
# Quoted text in messages

Messages show a text in double quotes and a character in single ones. The quote itself, the
backslash and the common control characters are shown with a backslash in front, other characters
that cannot be shown by their code points.
-/

namespace SpectroRemote.Text

/-- The characters that are shown as a letter with a backslash in front. -/
def shownByLetter : List (Char × Char) :=
  [('\x00', '0'), ('\t', 't'), ('\r', 'r'), ('\n', 'n'), ('\\', '\\')]

def quotedChar (quote c : Char) : List Char :=
  if c = quote then ['\\', quote]
  else match shownByLetter.lookup c with
    | some letter => ['\\', letter]
    | none =>
      if isUnshown c then ['\\', 'u', '\x7b'] ++ Nat.toDigits 16 c.toNat ++ ['\x7d'] else [c]

def quoted (quote : Char) (s : List Char) : List Char :=
  quote :: s.flatMap (quotedChar quote) ++ [quote]

end SpectroRemote.Text
