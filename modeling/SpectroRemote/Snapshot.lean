import SpectroRemote.Cup
import SpectroRemote.Decimal.Positional
import SpectroRemote.Settings
import SpectroRemote.Spectrum

/-!
# Scan snapshots

The readings of one spectrum on one line. A reading belongs to the first collector at its mass and
carries the tag of that collector; readings at no collector's mass are left out. The last reading
comes first, except that the ion counter always stands at the end:

```text
readings   H2=1.1  H1=2.2  CDD=9  AX=3.3
snapshot   AX,3.3,H1,2.2,H2,1.1,CDD,9
```

To this end the fields are put down one by one, each value before its tag, and then turned round.
-/

namespace SpectroRemote

/-- The tag of a collector; empty when it has none. -/
def ScanSettings.tagOf (settings : ScanSettings) (c : Collector) : String :=
  (settings.detectors.get? c.identifier).getD ""

namespace Snapshot

/-- A snapshot under construction. -/
structure Assembly where
  /-- The fields so far, in the order in which they were put down. -/
  fields : Array String := #[]
  /-- The latest reading of the ion counter. -/
  ionCounter : Option Float := none

def Assembly.add (settings : ScanSettings) (cup : Cup) (a : Assembly) (p : ScanPoint) :
    Assembly :=
  match cup.collectorAt? p.mass with
  | none => a
  | some c =>
    let tag := settings.tagOf c
    if tag = settings.ionCounterTag then { a with ionCounter := some p.analog }
    else
      let fields := a.fields.push (valueText p.analog)
      { a with fields := if settings.tagData then fields.push tag else fields }

/-- All fields, turned round, and after them those of the ion counter. -/
def Assembly.allFields (settings : ScanSettings) (a : Assembly) : List String :=
  let fields := a.fields.toList.reverse
  match a.ionCounter with
  | none => fields
  | some reading =>
    let fields := if settings.tagData then fields ++ [settings.ionCounterTag] else fields
    fields ++ [valueText reading]

end Snapshot

def ScanSettings.snapshot (settings : ScanSettings) (cup : Cup) (s : Spectrum) : String :=
  ",".intercalate
    ((s.points.foldl (Snapshot.Assembly.add settings cup) {}).allFields settings)

end SpectroRemote
