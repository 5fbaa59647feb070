import SpectroRemote.Toml.Quoted

/-!
# Quoted texts in environment variables

A text in double quotes ends at the first quote that no backslash stands before, and escapes in it
stand for single characters.

Of the text before the first escape only as many bytes are kept as it has characters: nothing is
lost as long as these are ASCII. Where that cut would fall inside a character, loading is given up
altogether, while any other text that breaks the rules is no value and stands for itself.
-/

namespace SpectroRemote.Environment

inductive Stop
  | mismatch
  /-- A quoted text would be cut inside a character. -/
  | cutCharacter
deriving Repr, DecidableEq

/-- Reads a part of a value off the front of a text and gives what follows it. -/
abbrev PartReader (α : Type) := List Char → Except Stop (α × List Char)

namespace Quoted

/-- The text up to the quote that closes it, and what follows that quote. A backslash takes the
character after it along. -/
def split? : List Char → Option (List Char × List Char)
  | [] => none
  | '"' :: s => some ([], s)
  | '\\' :: c :: s => (split? s).map fun (inside, rest) => ('\\' :: c :: inside, rest)
  | c :: s => (split? s).map fun (inside, rest) => (c :: inside, rest)

/-- The characters that the first `count` bytes of a text hold. A text that is shorter, or has a
character across that limit, has none. -/
def firstBytes? : (count : Nat) → List Char → Option (List Char)
  | 0, _ => some []
  | _ + 1, [] => none
  | count + 1, c :: s =>
    if c.utf8Size ≤ count + 1 then (firstBytes? (count + 1 - c.utf8Size) s).map (c :: ·) else none

/-- A text with the characters that its escapes stand for. -/
def resolve? (s : List Char) : Option (List Char) :=
  match s with
  | [] => some []
  | '\\' :: s =>
    match _h : Text.Escape.read? s with
    | none => none
    | some (c, rest) => (resolve? rest).map (c :: ·)
  | c :: s => if Toml.isControl c then none else (resolve? s).map (c :: ·)
termination_by s.length
decreasing_by
  · exact Nat.lt_succ_of_lt (Text.Escape.read?_length _h)
  · exact Nat.lt_succ_self _

def isLiteral (c : Char) : Bool := !Toml.isControl c && c != '\\'

/-- What the inside of a quoted text stands for. -/
def contents (s : List Char) : Except Stop (List Char) :=
  match s.span isLiteral with
  | (plain, []) => .ok plain
  | (plain, c :: rest) =>
    if c = '\\' then
      match firstBytes? plain.length plain, resolve? (c :: rest) with
      | none, _ => .error .cutCharacter
      | some _, none => .error .mismatch
      | some kept, some resolved => .ok (kept ++ resolved)
    else .error .mismatch

/-- Reads a quoted text after its opening quote, up to and with the closing one. -/
def read : PartReader String := fun s =>
  match split? s with
  | none => .error .mismatch
  | some (inside, rest) => (contents inside).map fun t => (String.ofList t, rest)

end Quoted

end SpectroRemote.Environment
