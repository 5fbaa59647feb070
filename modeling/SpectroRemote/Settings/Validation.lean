import SpectroRemote.Decimal.Positional
import SpectroRemote.Failure
import SpectroRemote.LogLevel
import SpectroRemote.Settings
import SpectroRemote.Text.Lowercase

/-!
# Settings that can be used

The rules that settings have to keep. Of several broken rules the first one, in the order of the
sections, is reported.
-/

namespace SpectroRemote

inductive BrokenRule
  | logLevel (text : String)
  | bufferSize
  | steps
  | moveThreshold (v : Float)
  | noDetectors
  | channelCapacity
  | duplicateTag (tag : String)
  | noCupConfiguration
deriving Repr, DecidableEq

def BrokenRule.message : BrokenRule → String
  | logLevel text => "Invalid log_level '" ++ text ++ "'. Must be one of: " ++ LogLevel.words
  | bufferSize => "transport.buffer_size must be greater than 0"
  | steps => "magnet.steps must be at least 1"
  | moveThreshold v =>
    "Invalid magnet.move_threshold " ++ valueText v ++ ". Must be a non-negative number"
  | noDetectors => "scan.detectors must name at least one detector"
  | channelCapacity => "scan.channel_capacity must be greater than 0"
  | duplicateTag tag => "Duplicate detector tag: " ++ tag
  | noCupConfiguration => "cups.cup_configuration must not be empty"

/-- The first element of a list that stands in it a second time. -/
def firstRepeated? : List String → (seen : List String) → Option String
  | [], _ => none
  | a :: l, seen => if seen.contains a then some a else firstRepeated? l (a :: seen)

/-- Whether a text is the name of a log level, in any letter case. -/
def namesLogLevel (text : String) : Bool :=
  LogLevel.all.any fun l => l.word.toList = Text.lowercase text.toList

namespace Settings

def brokenRule? (s : Settings) : Option BrokenRule :=
  if !namesLogLevel s.application.logLevel then some (.logLevel s.application.logLevel)
  else if s.transport.bufferSize = 0 then some .bufferSize
  else if s.magnet.steps = 0 then some .steps
  else if !s.magnet.moveThreshold.isFinite || s.magnet.moveThreshold < 0 then
    some (.moveThreshold s.magnet.moveThreshold)
  else if s.scan.detectors.isEmpty then some .noDetectors
  else if s.scan.channelCapacity = 0 then some .channelCapacity
  else match firstRepeated? s.scan.detectors.values [] with
    | some tag => some (.duplicateTag tag)
    | none =>
      if (Text.trim s.cups.cupConfiguration.toList).isEmpty then some .noCupConfiguration else none

def validate (s : Settings) : Except BrokenRule Unit :=
  match s.brokenRule? with
  | some rule => .error rule
  | none => .ok ()

end Settings

end SpectroRemote
