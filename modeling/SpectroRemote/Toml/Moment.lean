import SpectroRemote.Decimal.Digits
import SpectroRemote.Text.Reader

/-!
# Dates and times

A moment is a date, a time of day, or a date and a time, which may then have an offset from
universal time. Fractions of a second are kept to nine places; what is beyond them is cut off.
-/

namespace SpectroRemote.Toml

structure Date where
  year : Nat
  month : Nat
  day : Nat
deriving Repr, DecidableEq

structure Time where
  hour : Nat
  minute : Nat
  second : Nat
  nanosecond : Nat
deriving Repr, DecidableEq

/-- The distance of a local time from universal time. -/
inductive Offset
  | universal
  | minutes (n : Int)
deriving Repr, DecidableEq

/-- A date, a time of day, or both. -/
structure Moment where
  date : Option Date := none
  time : Option Time := none
  offset : Option Offset := none
deriving Repr, DecidableEq

/-! ### Reading -/

namespace Moment

open Text (Reader)

/-- Reads a number of exactly `width` digits. -/
def readNumber? (width : Nat) : Reader Nat := fun s =>
  let digits := s.take width
  if digits.length = width && digits.all Char.isDigit then
    some (Nat.ofDigitChars 10 digits 0, s.drop width)
  else none

/-- Reads a number of two digits between two bounds. -/
def readField? (first last : Nat) : Reader Nat := fun s => do
  let (n, rest) ← readNumber? 2 s
  if first ≤ n && n ≤ last then some (n, rest) else none

def after? (c : Char) : List Char → Option (List Char)
  | [] => none
  | x :: s => if x = c then some s else none

def daysIn (year month : Nat) : Nat :=
  if month = 2 then if year % 4 = 0 && (year % 100 != 0 || year % 400 = 0) then 29 else 28
  else if [4, 6, 9, 11].contains month then 30
  else 31

/-- Reads a date, such as `2024-02-29`. -/
def readDate? : Reader Date := fun s => do
  let (year, s) ← readNumber? 4 s
  let (month, s) ← readField? 1 12 (← after? '-' s)
  let (day, s) ← readField? 1 (daysIn year month) (← after? '-' s)
  return (⟨year, month, day⟩, s)

/-- Reads the fraction of a second, in nanoseconds. -/
def readFraction? : Reader Nat
  | '.' :: s =>
    let (digits, rest) := s.span Char.isDigit
    let kept := digits.take 9
    if digits.isEmpty then none
    else some (Nat.ofDigitChars 10 kept 0 * Nat.pow 10 (9 - kept.length), rest)
  | s => some (0, s)

/-- Reads a time of day, such as `07:32:00.5`. -/
def readTime? : Reader Time := fun s => do
  let (hour, s) ← readField? 0 23 s
  let (minute, s) ← readField? 0 59 (← after? ':' s)
  let (second, s) ← readField? 0 60 (← after? ':' s)
  let (nanosecond, s) ← readFraction? s
  return (⟨hour, minute, second, nanosecond⟩, s)

/-- Reads an offset, such as `Z` or `-08:00`, as hours and minutes with a sign. -/
def readOffset? : List Char → Option Offset
  | ['Z'] | ['z'] => some .universal
  | sign :: s => do
    let (hours, s) ← readField? 0 23 s
    let (minutes, s) ← readField? 0 59 (← after? ':' s)
    let n : Int := hours * 60 + minutes
    if !s.isEmpty then none
    else if sign = '+' then some (.minutes n)
    else if sign = '-' then some (.minutes (-n))
    else none
  | [] => none

/-- Whether a character can stand between a date and a time. -/
def separatesTime (c : Char) : Bool := c == 'T' || c == 't' || c == ' '

/-- Reads a moment that is the whole of a text. -/
def read? (s : List Char) : Option Moment :=
  match readDate? s with
  | some (date, []) => some { date }
  | some (date, c :: s) =>
    if !separatesTime c then none
    else match readTime? s with
      | some (time, []) => some { date, time }
      | some (time, s) => (readOffset? s).map fun offset => { date, time, offset }
      | none => none
  | none =>
    match readTime? s with
    | some (time, []) => some { time }
    | _ => none

/-! ### Writing -/

def dateText (d : Date) : List Char :=
  Decimal.padded 4 d.year ++ '-' :: Decimal.padded 2 d.month ++ '-' :: Decimal.padded 2 d.day

/-- The text of a time of day; the fraction has no zeros at its end. -/
def timeText (t : Time) : List Char :=
  let fraction := Decimal.dropTrailingZeros (Decimal.padded 9 t.nanosecond)
  Decimal.padded 2 t.hour ++ ':' :: Decimal.padded 2 t.minute ++ ':' :: Decimal.padded 2 t.second ++
    if fraction.isEmpty then [] else '.' :: fraction

def offsetText : Offset → List Char
  | .universal => ['Z']
  | .minutes n =>
    let sign := if n < 0 then '-' else '+'
    sign :: Decimal.padded 2 (n.natAbs / 60) ++ ':' :: Decimal.padded 2 (n.natAbs % 60)

def text (m : Moment) : List Char :=
  let date := (m.date.map dateText).getD []
  let time := (m.time.map timeText).getD []
  let between := if m.date.isSome && m.time.isSome then ['T'] else []
  date ++ between ++ time ++ (m.offset.map offsetText).getD []

end Moment

end SpectroRemote.Toml
