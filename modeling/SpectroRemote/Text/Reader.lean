/-!
# Readers

A reader takes something off the front of a text and gives it together with the rest of the text, or
refuses the text.
-/

namespace SpectroRemote.Text

/-- Reads something at the front of a text and gives what follows it. -/
abbrev Reader (α : Type) := List Char → Option (α × List Char)

end SpectroRemote.Text
