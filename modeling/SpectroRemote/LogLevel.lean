import SpectroRemote.Decimal.Whole
import SpectroRemote.Text.Blank

/-!
# Log levels

How serious an event is, and the texts that name a level: one of five words, in any letter case, or
a number from 1, for errors, to 5.
-/

namespace SpectroRemote

inductive LogLevel
  | trace
  | debug
  | info
  | warn
  | error
deriving Repr, DecidableEq, Inhabited

namespace LogLevel

/-- The name of a level in log lines. -/
def label : LogLevel → String
  | trace => "TRACE"
  | debug => "DEBUG"
  | info => "INFO"
  | warn => "WARN"
  | error => "ERROR"

/-- The word that chooses a level. -/
def word : LogLevel → String
  | trace => "trace"
  | debug => "debug"
  | info => "info"
  | warn => "warn"
  | error => "error"

/-- The number that chooses a level. -/
def number : LogLevel → Nat
  | trace => 5
  | debug => 4
  | info => 3
  | warn => 2
  | error => 1

/-- Every level, from the least to the most serious. -/
def all : List LogLevel := [trace, debug, info, warn, error]

def words : String := ", ".intercalate (all.map word)

/-- Reads a level, without blanks around it. -/
def read? (s : List Char) : Option LogLevel :=
  match all.find? fun l => l.word.toList = s.map Char.toLower with
  | some l => some l
  | none => (Decimal.readNatural? UInt64.size s).bind fun n => all.find? fun l => l.number = n

/-- Reads a level; blanks around it do not count. -/
def parse (text : String) : Except String LogLevel :=
  match read? (Text.trim text.toList) with
  | some l => .ok l
  | none => .error ("Invalid log level '" ++ text ++ "'. Must be one of: " ++ words)

end LogLevel

structure Event where
  level : LogLevel
  message : String
deriving Repr, DecidableEq, Inhabited

def Event.line (e : Event) : String := e.level.label ++ " " ++ e.message

end SpectroRemote
