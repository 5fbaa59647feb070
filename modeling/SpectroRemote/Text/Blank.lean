/-!
# Blank characters

The characters that Unicode calls white space, and the removal of them from both ends of a text.
Zero-width characters, the byte order mark and the separators U+001C to U+001F are not blank.
-/

namespace SpectroRemote.Text

/-- The blank characters, as ranges of code points. -/
def blankRanges : List (Nat × Nat) :=
  [(0x09, 0x0D), (0x20, 0x20), (0x85, 0x85), (0xA0, 0xA0), (0x1680, 0x1680), (0x2000, 0x200A),
    (0x2028, 0x2029), (0x202F, 0x202F), (0x205F, 0x205F), (0x3000, 0x3000)]

def isBlank (c : Char) : Bool :=
  blankRanges.any fun (first, last) => first ≤ c.toNat && c.toNat ≤ last

def trimFront (s : List Char) : List Char := s.dropWhile isBlank

def trimBack (s : List Char) : List Char := (s.reverse.dropWhile isBlank).reverse

def trim (s : List Char) : List Char := trimBack (trimFront s)

end SpectroRemote.Text

namespace SpectroRemote

def trimmed (s : String) : String := String.ofList (Text.trim s.toList)

end SpectroRemote
