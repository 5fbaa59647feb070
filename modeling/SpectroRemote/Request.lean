import SpectroRemote.Decimal.Reader
import SpectroRemote.Failure
import SpectroRemote.Text.Blank
import SpectroRemote.Text.Fields

/-!
# Requests

A request is one line: a verb, and after the first space an argument. Blanks around the line and
around the argument do not count.
-/

namespace SpectroRemote

structure Request where
  verb : Verb
  /-- The text after the verb; empty when there is none. -/
  argument : String
deriving Repr, DecidableEq

/-- Reads a finite number, with blanks around it allowed. -/
def readFinite (text : List Char) : Except Failure Float :=
  match Decimal.read? (Text.trim text) with
  | some v => if v.isFinite then .ok v else .error (.notANumber (String.ofList (Text.trim text)))
  | none => .error (.notANumber (String.ofList (Text.trim text)))

namespace Request

/-- Splits a line into verb and argument. -/
def parse (line : String) : Except Failure Request :=
  let (word, rest) := Text.cut ' ' (Text.trim line.toList)
  match Verb.ofName? (String.ofList word) with
  | some verb => .ok ⟨verb, String.ofList (Text.trim (rest.getD []))⟩
  | none => .error (.unknownVerb (String.ofList word))

/-- The argument, which must be there. -/
def givenArgument (r : Request) : Except Failure String :=
  if r.argument.isEmpty then .error (.missingArgument r.verb) else .ok r.argument

def number (r : Request) : Except Failure Float := do
  readFinite (← r.givenArgument).toList

/-- The argument as a name and a value with a comma between them. What follows a second comma does
not count. -/
def nameAndValue (r : Request) : Except Failure (String × Float) := do
  let (name, rest) := Text.cut ',' (← r.givenArgument).toList
  match rest with
  | none => .error (.missingArgument r.verb)
  | some rest =>
    if (Text.trim name).isEmpty then .error (.missingArgument r.verb)
    else return (String.ofList (Text.trim name), ← readFinite (Text.cut ',' rest).1)

end Request

end SpectroRemote
