import TraceText.Decimal.Basic
import TraceText.Text.Blank
import TraceText.Text.Quoted

/-!
# Durations

A duration is written as numbers with units, such as `1h 30min` or `1.5d`.  It is exact: what is
not a whole number of nanoseconds, or does not fit the range, is refused.

## Main definitions

* `Duration` — a length of time in nanoseconds
* `TimeUnit` — the units and their names
* `DurationError` — why a text is no duration
* `Duration.read` — the duration that a text denotes
-/

namespace TraceText

/-- A length of time. -/
structure Duration where
  nanos : Nat
  deriving DecidableEq, Repr, Inhabited

/-- Why a text is no duration.  Places are counted in bytes of UTF-8. -/
inductive DurationError where
  | empty
  | numberExpected (place : Nat)
  | invalidCharacter (place : Nat)
  /-- The number `n` has no unit. -/
  | unitNeeded (n : Nat)
  | unknownUnit (name : Text)
  /-- A number is too large, or its fraction is finer than the units can tell. -/
  | inexact
  deriving DecidableEq, Repr

/-- The wording of a refusal. -/
def DurationError.message : DurationError → Text
  | .empty => "value was empty"
  | .numberExpected place => "expected number at " ++ Decimal.digits place
  | .invalidCharacter place => "invalid character at " ++ Decimal.digits place
  | .unitNeeded n =>
    "time unit needed, for example " ++ Decimal.digits n ++ "sec or " ++ Decimal.digits n ++ "ms"
  | .unknownUnit name =>
    "unknown time unit " ++ Text.quoted name ++ ", supported units: ns, us/µs, ms, sec, min, " ++
      "hours, days, weeks, months, years (and few variations)"
  | .inexact =>
    "number is too large or cannot be represented without a lack of precision " ++
      "(values below 1ns are not supported)"

/-- The units of time. -/
inductive TimeUnit where
  | nanosecond
  | microsecond
  | millisecond
  | second
  | minute
  | hour
  | day
  | week
  | month
  | year
  deriving DecidableEq, Repr

namespace TimeUnit

/-- The names of a unit. -/
def names : TimeUnit → List String
  | nanosecond => ["nanos", "nsec", "ns"]
  | microsecond => ["usec", "us", "µs"]
  | millisecond => ["millis", "msec", "ms"]
  | second => ["seconds", "second", "secs", "sec", "s"]
  | minute => ["minutes", "minute", "min", "mins", "m"]
  | hour => ["hours", "hour", "hr", "hrs", "h"]
  | day => ["days", "day", "d"]
  | week => ["weeks", "week", "wk", "wks", "w"]
  | month => ["months", "month"]
  | year => ["years", "year", "yr", "yrs", "y"]

/-- All units. -/
def all : List TimeUnit :=
  [nanosecond, microsecond, millisecond, second, minute, hour, day, week, month, year]

/-- The unit with a given name. -/
def ofName? (name : Text) : Option TimeUnit :=
  all.find? fun unit => unit.names.any fun known => decide (known.toList = name)

/-- The length of a unit as a number of grains, and the length of a grain in nanoseconds.  Units up
to the minute are counted in nanoseconds, longer ones in seconds; a month is 30.44 days and a year
365.25 days. -/
def grains : TimeUnit → Nat × Nat
  | nanosecond => (1, 1)
  | microsecond => (1000, 1)
  | millisecond => (1000000, 1)
  | second => (1, 1000000000)
  | minute => (60, 1000000000)
  | hour => (3600, 1000000000)
  | day => (86400, 1000000000)
  | week => (604800, 1000000000)
  | month => (2630016, 1000000000)
  | year => (31557600, 1000000000)

/-- As `grains`, for the part of a number behind its decimal point.  Nanoseconds have no parts. -/
def fractionGrains : TimeUnit → Option (Nat × Nat)
  | nanosecond => none
  | second => some (1000000000, 1)
  | minute => some (60000000000, 1)
  | unit => some unit.grains

end TimeUnit

namespace Duration

/-- Numbers that are counted have to stay below this bound. -/
def wordLimit : Nat := Nat.pow 2 64

/-- A number that stays below the bound. -/
def checked (n : Nat) : Except DurationError Nat :=
  if n < wordLimit then .ok n else .error .inexact

/-- A duration lengthened by `count` grains of `grain` nanoseconds. -/
def plus (d : Duration) (count grain : Nat) : Except DurationError Duration := do
  let sub ← checked (d.nanos % 1000000000 + if grain = 1 then count else 0)
  let total := d.nanos / 1000000000 * 1000000000 + sub + if grain = 1 then 0 else count * grain
  let _ ← checked (total / 1000000000)
  return ⟨total⟩

/-- A duration lengthened by `n` units and the fraction `part` of a unit. -/
def plusUnits (d : Duration) (unit : TimeUnit) (n : Nat) (part : Option (Nat × Nat)) :
    Except DurationError Duration := do
  let (count, grain) := unit.grains
  let d ← d.plus (← checked (n * count)) grain
  match part, unit.fractionGrains with
  | none, _ => return d
  | some _, none => throw .inexact
  | some (numerator, denominator), some (count, grain) =>
    let scaled ← checked (numerator * count)
    if scaled % denominator = 0 then d.plus (scaled / denominator) grain else throw .inexact

/-- Characters with the place of each, counted in bytes. -/
abbrev Located := List (Nat × Char)

/-- The characters of a text with their places, the first at `place`. -/
def locate (place : Nat) : Text → Located
  | [] => []
  | c :: rest => (place, c) :: locate (place + c.utf8Size) rest

/-- The place of what is left of a text of `size` bytes. -/
def placeOf (size : Nat) : Located → Nat
  | [] => size
  | (place, _) :: _ => place

/-- The value of a digit. -/
def digitValue (c : Char) : Nat := c.toNat - '0'.toNat

/-- The letters of which names of units consist. -/
def isUnitLetter (c : Char) : Bool := c.isAlpha || c == 'µ'

/-- The digit that begins the next number, if anything but blanks is left.  What is not a digit is
reported at the place where the search began. -/
def nextNumber (start : Nat) : Located → Except DurationError (Option (Nat × Located))
  | [] => .ok none
  | (_, c) :: rest =>
    if c.isDigit then .ok (some (digitValue c, rest))
    else if Text.isBlank c then nextNumber start rest
    else .error (.numberExpected start)

/-- The whole part of a number that began with `n`, with blanks between its digits, up to a unit or
a decimal point. -/
def wholePart (n : Nat) : Located → Except DurationError (Nat × Located)
  | [] => .ok (n, [])
  | (place, c) :: rest =>
    if c.isDigit then
      let m := n * 10 + digitValue c
      if m < wordLimit then wholePart m rest else .error .inexact
    else if Text.isBlank c then wholePart n rest
    else if isUnitLetter c || c == '.' then .ok (n, (place, c) :: rest)
    else .error (.invalidCharacter place)

/-- The digits behind a decimal point as a fraction, up to a unit.  A character that does not
belong there is reported at `place`, the end of what was read. -/
def fractionPart (size numerator denominator place : Nat) :
    Located → Except DurationError ((Nat × Nat) × Located)
  | [] =>
    if denominator = 1 then .error (.invalidCharacter place) else .ok ((numerator, denominator), [])
  | (here, c) :: rest =>
    if c.isDigit then
      let numerator := numerator * 10 + digitValue c
      let denominator := denominator * 10
      if numerator < wordLimit ∧ denominator < wordLimit then
        fractionPart size numerator denominator (placeOf size rest) rest
      else .error .inexact
    else if Text.isBlank c then
      fractionPart size numerator denominator (placeOf size rest) rest
    else if isUnitLetter c && denominator != 1 then
      .ok ((numerator, denominator), (here, c) :: rest)
    else .error (.invalidCharacter place)

/-- The name of a unit, up to a blank, a digit or the end. -/
def unitName : Located → Except DurationError (Text × Located)
  | [] => .ok ([], [])
  | (place, c) :: rest =>
    if c.isDigit || Text.isBlank c then .ok ([], (place, c) :: rest)
    else if isUnitLetter c then (unitName rest).map fun (name, rest) => (c :: name, rest)
    else .error (.invalidCharacter place)

/-- A number that began with `n`, and its unit, added to a duration. -/
def readPart (size : Nat) (d : Duration) (n : Nat) (t : Located) :
    Except DurationError (Duration × Located) := do
  let (n, t) ← wholePart n t
  let (part, t) ← match t with
    | (place, '.') :: rest => do
      let (part, t) ← fractionPart size 0 1 place rest
      pure (some part, t)
    | t => pure (none, t)
  let (name, t) ← unitName t
  match TimeUnit.ofName? name with
  | some unit => return (← d.plusUnits unit n part, t)
  | none => throw (if name = [] then .unitNeeded n else .unknownUnit name)

/-- All numbers with their units added up.  Every part takes at least one character, so the number
of characters bounds the number of parts. -/
def readParts (size : Nat) : Nat → Duration → Nat → Located → Except DurationError Duration
  | 0, _, _, _ => .error .empty
  | fuel + 1, d, n, t => do
    let (d, t) ← readPart size d n t
    match ← nextNumber (placeOf size t.tail) t with
    | some (n, t) => readParts size fuel d n t
    | none => return d

/-- The duration that a text denotes.  A bare `0` needs no unit. -/
def read (t : Text) : Except DurationError Duration :=
  if t = ['0'] then .ok ⟨0⟩
  else do
    let located := locate 0 t
    let size := (t.map Char.utf8Size).foldr (· + ·) 0
    match ← nextNumber 0 located with
    | some (n, rest) => readParts size (t.length + 1) ⟨0⟩ n rest
    | none => throw .empty

end Duration

end TraceText
