import SpectroRemote.Failure
import SpectroRemote.Text.Fields

/-!
# Reports of failure

A program that fails says why on the error stream: what it could not do, and below that the causes,
each the cause of the one before it. The lines of a cause are indented; several causes are numbered.
-/

namespace SpectroRemote

/-- What a failure says, followed by what caused it. -/
def Failure.chain (e : Failure) : List String :=
  match e with
  | .transport reason | .unreadableSettings reason => [e.message, reason]
  | _ => [e.message]

namespace CommandLine

/-- What could not be done, and the chain of its causes. -/
structure Report where
  headline : String
  causes : List String := []
  code : UInt32 := 1
deriving Repr, DecidableEq

namespace Report

def ofFailure (e : Failure) : Report := { headline := e.chain.headD "", causes := e.chain.tail }

/-- The report of a failure to do something greater. -/
def within (headline : String) (e : Failure) : Report := { headline, causes := e.chain }

/-- A text with its first line after `first` and every other one after `next`. -/
def indented (first next text : String) : String :=
  first ++ ("\n" ++ next).intercalate ((Text.fields '\n' text.toList).map String.ofList)

def numbered (texts : List String) : List String :=
  texts.zipIdx.map fun (text, n) =>
    let number := toString n
    let margin := String.ofList (List.replicate (5 - number.length) ' ')
    indented (margin ++ number ++ ": ") "       " text

def causeLines : List String → List String
  | [] => []
  | [cause] => ["", "Caused by:", indented "    " "    " cause]
  | causes => ["", "Caused by:"] ++ numbered causes

def text (r : Report) : String :=
  "\n".intercalate (("Error: " ++ r.headline) :: causeLines r.causes) ++ "\n"

end Report

end CommandLine

end SpectroRemote
