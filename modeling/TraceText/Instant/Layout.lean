import TraceText.DatePattern.Field
import TraceText.Text.Blank

/-!
# Layouts of points in time

A layout lists the parts of a point in time in the order in which they are written.  Reading along
a layout is lenient about blanks before numbers and about the number of digits.

## Main definitions

* `LayoutItem`, `Layout` — a part of a point in time, and their order
* `Reading` — the parts that have been read
* `Layout.read` — the parts of a text that is written along a layout
* `Reading.localTime?` — what calendar and clock show, if the parts tell it
* `Layout.localTime?`, `Layout.instant?` — both steps together
-/

namespace TraceText

/-- A part of a point in time as it is written. -/
inductive LayoutItem where
  | mark (c : Char)
  /-- Any number of blanks. -/
  | blanks
  | year
  | yearOfCentury
  | month
  /-- The name of a month, or its first three letters. -/
  | monthName
  | day
  | hour
  | halfDayHour
  | minute
  | second
  /-- A fraction of a second, which may be missing. -/
  | fraction
  | halfDay
  /-- A name of a zone, which means nothing by itself. -/
  | zoneName
  | offset
  deriving DecidableEq, Repr

/-- The order of parts. -/
abbrev Layout := List LayoutItem

/-- Parts that have been read. -/
structure Reading where
  year : Option Int
  month : Nat
  day : Nat
  hour : Nat
  /-- The hour on a clock with twelve hours. -/
  halfDayHour : Option Nat
  afternoon : Bool
  minute : Nat
  second : Nat
  nanos : Nat
  offset : Int
  deriving Inhabited

namespace Reading

/-- Nothing has been read. -/
def empty : Reading := ⟨none, 0, 0, 0, none, false, 0, 0, 0, 0⟩

/-- The hour of the day, which a clock with twelve hours tells by the half of the day. -/
def hour? (r : Reading) : Option Nat :=
  match r.halfDayHour with
  | none => some r.hour
  | some h => if 1 ≤ h ∧ h ≤ 12 then some (h % 12 + if r.afternoon then 12 else 0) else none

/-- What calendar and clock show. -/
def localTime? (r : Reading) : Option LocalTime := do
  let l := Rfc3339.withSeconds ⟨← r.year, r.month, r.day⟩ (← r.hour?) r.minute r.second r.nanos
  if l.isValid then some l else none

end Reading

/-- Two texts that differ in the case of ASCII letters only. -/
def sameLetters (t u : Text) : Bool := t.map Char.toLower == u.map Char.toLower

/-- The text behind a given word, in either case. -/
def stripWord (word t : Text) : Option Text :=
  if sameLetters word (t.take word.length) ∧ word.length ≤ t.length then some (t.drop word.length)
  else none

/-- A month by the first three letters of its name. -/
def readMonthShort (t : Text) : Option (Nat × Text) :=
  (List.range 12).findSome? fun i =>
    (stripWord ((TimeField.nameAt TimeField.monthNames i).take 3) t).map fun rest => (i + 1, rest)

/-- A month by its name or the first three letters of it. -/
def readMonthName (t : Text) : Option (Nat × Text) :=
  (readMonthShort t).map fun (month, rest) =>
    let remainder := (TimeField.nameAt TimeField.monthNames (month - 1)).drop 3
    (month, (stripWord remainder rest).getD rest)

/-- A year with a sign and any number of digits, or without a sign and at most four. -/
def readYear (t : Text) : Option (Int × Text) :=
  match t with
  | '-' :: rest => (Decimal.readDigits 1 rest.length rest).map fun (n, rest) => (-(n : Int), rest)
  | '+' :: rest => (Decimal.readDigits 1 rest.length rest).map fun (n, rest) => ((n : Int), rest)
  | t => (Decimal.readDigits 1 4 t).map fun (n, rest) => ((n : Int), rest)

/-- The year that two digits mean: from 1970 to 2069. -/
def ofCentury (n : Nat) : Int := if n < 70 then 2000 + n else 1900 + n

/-- Which half of the day is meant. -/
def readHalfDay (t : Text) : Option (Bool × Text) :=
  ((stripWord "am" t).map fun rest => (false, rest)).or
    ((stripWord "pm" t).map fun rest => (true, rest))

/-- A distance to universal time: `Z`, or a sign and hours, with minutes behind colons or blanks,
which may be missing. -/
def readLooseOffset (t : Text) : Option (Int × Text) :=
  match t with
  | 'Z' :: rest => some (0, rest)
  | 'z' :: rest => some (0, rest)
  | t => do
    let (sign, t) ← Rfc3339.readSign t
    let (hours, t) ← Decimal.readDigits 2 2 t
    let t := t.dropWhile fun c => c == ':' || Text.isBlank c
    match t with
    | [] => some (sign * (hours * 3600 : Nat), [])
    | t => do
      let (minutes, t) ← Decimal.readDigits 2 2 t
      if minutes < 60 then some (sign * (hours * 3600 + minutes * 60 : Nat), t) else none

namespace LayoutItem

/-- One part of a point in time, read from the start of a text. -/
def read (item : LayoutItem) (r : Reading) (t : Text) : Option (Reading × Text) :=
  let number (most : Nat) (store : Nat → Reading) : Option (Reading × Text) :=
    (Decimal.readDigits 1 most (Text.trimStart t)).map fun (n, rest) => (store n, rest)
  match item with
  | mark c => (Rfc3339.expect c t).map fun rest => (r, rest)
  | blanks => some (r, Text.trimStart t)
  | year => (readYear (Text.trimStart t)).map fun (n, rest) => ({ r with year := some n }, rest)
  | yearOfCentury => number 2 fun n => { r with year := some (ofCentury n) }
  | month => number 2 fun n => { r with month := n }
  | monthName => (readMonthName t).map fun (n, rest) => ({ r with month := n }, rest)
  | day => number 2 fun n => { r with day := n }
  | hour => number 2 fun n => { r with hour := n }
  | halfDayHour => number 2 fun n => { r with halfDayHour := some n }
  | minute => number 2 fun n => { r with minute := n }
  | second => number 2 fun n => { r with second := n }
  | fraction => (Rfc3339.readFraction t).map fun (n, rest) => ({ r with nanos := n }, rest)
  | halfDay => (readHalfDay t).map fun (b, rest) => ({ r with afternoon := b }, rest)
  | zoneName => some (r, t.dropWhile fun c => !Text.isBlank c)
  | offset =>
    (readLooseOffset (Text.trimStart t)).map fun (n, rest) => ({ r with offset := n }, rest)

end LayoutItem

namespace Layout

/-- The parts of a text that is written along a layout to its end. -/
def read : Layout → Reading → Text → Option Reading
  | [], r, t => if t = [] then some r else none
  | item :: rest, r, t => do
    let (r, t) ← item.read r t
    read rest r t

/-- What calendar and clock show according to a text. -/
def localTime? (layout : Layout) (t : Text) : Option (LocalTime × Int) := do
  let r ← layout.read .empty t
  return (← r.localTime?, r.offset)

/-- The instant that a text tells, with the distance to universal time that is in the text. -/
def instant? (layout : Layout) (t : Text) : Option Instant := do
  let (l, offset) ← layout.localTime? t
  if offset.natAbs < 86400 then l.toInstant? offset else none

/-- The instant that a text tells at a given distance to universal time, by the first of several
layouts along which it is written. -/
def firstInstant? (layouts : List Layout) (offset : Int) (t : Text) : Option Instant := do
  let (l, _) ← layouts.findSome? fun layout => layout.localTime? t
  l.toInstant? offset

end Layout

end TraceText
