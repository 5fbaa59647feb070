import SpectroRemote.Decimal.Positional
import SpectroRemote.Verb

/-!
# Failures

What can go wrong while a request is served or the server is set up, with the text that describes it
and the reply that a client gets.
-/

namespace SpectroRemote

inductive LookupFailure
  /-- The instrument did not list its cup configurations. -/
  | listUnavailable (reason : String)
  | unknownCup (name : String)
  | unknownSubCup (name cup : String)
  /-- The instrument did not tell which cup configuration is active. -/
  | noActiveCup (reason : String)
  | activationRefused (reason : String)
deriving Repr, DecidableEq

def LookupFailure.message : LookupFailure → String
  | listUnavailable reason => "could not list cup configurations: " ++ reason
  | unknownCup name => "could not find cup configuration " ++ name
  | unknownSubCup name cup => "could not find sub cup configuration " ++ name ++ " in " ++ cup
  | noActiveCup reason => "no active cup configuration: " ++ reason
  | activationRefused reason => reason

inductive Failure
  | unknownVerb (word : String)
  | missingArgument (verb : Verb)
  /-- The argument is not a finite number. -/
  | notANumber (text : String)
  | writeRefused (parameter : String) (value : Float)
  | unreadable (parameter : String)
  | lookup (cause : LookupFailure)
  | cupChangeRefused
  | tune (reason : String)
  | transport (reason : String)
  | unreadableSettings (reason : String)
  /-- The settings were read but cannot be used. -/
  | invalidSettings (reason : String)
deriving Repr, DecidableEq

namespace Failure

def message : Failure → String
  | unknownVerb word => "Unknown command verb '" ++ word ++ "'"
  | missingArgument verb => "Command '" ++ verb.name ++ "' requires an argument"
  | notANumber text => "Could not parse '" ++ text ++ "' as a number"
  | writeRefused parameter value =>
    "Instrument rejected write of " ++ valueText value ++ " to '" ++ parameter ++ "'"
  | unreadable parameter => "Could not read parameter '" ++ parameter ++ "'"
  | lookup cause => "Configuration lookup failed: " ++ cause.message
  | cupChangeRefused => "Instrument rejected the cup configuration change request"
  | tune reason => "Tune settings error: " ++ reason
  | transport reason => "Transport error: " ++ reason
  | unreadableSettings reason => "Configuration error: " ++ reason
  | invalidSettings reason => "Configuration validation error: " ++ reason

/-- The reply to a request that is not understood or asks for what cannot be read. -/
def rejectionReply : String := "Error: Invalid Command"

def reply : Failure → String
  | unknownVerb _ | missingArgument _ | notANumber _ | unreadable _ => rejectionReply
  | writeRefused parameter value =>
    "Error: could not set " ++ parameter ++ " to " ++ valueText value
  | lookup cause => "Error: " ++ cause.message
  | cupChangeRefused => "Error: could not request cup configuration change"
  | tune reason | transport reason | unreadableSettings reason | invalidSettings reason =>
    "Error: " ++ reason

/-- Whether the text of the request is at fault, and not the instrument. -/
def isRequestFault : Failure → Bool
  | unknownVerb _ | missingArgument _ | notANumber _ => true
  | _ => false

end Failure

end SpectroRemote
