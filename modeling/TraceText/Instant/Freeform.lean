import TraceText.Instant.Rfc2822
import TraceText.Text.Shape

/-!
# Instants in many notations

Besides RFC 3339, an instant may be given as a count of seconds, milliseconds or nanoseconds, or in
one of the notations in common use.  A notation whose shape fits a text but whose parts make no
point in time gives way to the next; a zone that cannot be read ends the search.

There are notations without a date, a year or a time of day, which are completed from the present
time.  They are left out here, so that an instant depends on its text alone: nothing is said about
what such a text denotes.

## Main definitions

* `TimestampError` — why a text denotes no instant
* `Freeform.readZone` — a zone at the end of a text
* `Freeform.readers` — the ways to read a text, in the order in which they are tried
* `Instant.parse` — the instant that a text denotes
-/

namespace TraceText

/-- Why a text denotes no zone. -/
inductive ZoneError where
  | tooShort
  | invalidCharacter
  | outOfRange
  deriving DecidableEq, Repr

/-- The wording of a refused zone. -/
def ZoneError.message : ZoneError → Text
  | tooShort => "premature end of input"
  | invalidCharacter => "input contains invalid characters"
  | outOfRange => "input is out of range"

/-- Why a text denotes no instant. -/
inductive TimestampError where
  | unrecognized (text : Text)
  /-- The text fits a notation whose zone cannot be read. -/
  | zone (text : Text) (e : ZoneError)
  deriving DecidableEq, Repr

/-- The wording of a refused timestamp. -/
def TimestampError.message : TimestampError → Text
  | unrecognized text =>
    "invalid timestamp '" ++ text ++ "': " ++ text ++ " did not match any formats."
  | zone text e => "invalid timestamp '" ++ text ++ "': " ++ e.message

namespace Freeform

open Shape (word maybe oneOf run digits letters gap anyBlanks rests isWhole occursIn)
open LayoutItem

/-- Two digits at the start of what remains of a zone. -/
def twoDigits (t : Text) : Except ZoneError (Nat × Text) :=
  match t with
  | a :: b :: rest =>
    if a.isDigit ∧ b.isDigit then .ok (Decimal.value [a, b], rest)
    else .error .invalidCharacter
  | _ => .error .tooShort

/-- A zone as a sign, hours and minutes, with the given separators between them. -/
def readNumericZone (isSeparator : Char → Bool) (t : Text) : Except ZoneError Int := do
  let (negative, t) ← match t with
    | '+' :: rest => pure (false, rest)
    | '-' :: rest => pure (true, rest)
    | [] => throw .tooShort
    | _ => throw .invalidCharacter
  let (hours, t) ← twoDigits t
  let (minutes, _) ← twoDigits (t.dropWhile isSeparator)
  let offset : Int := (hours * 3600 + minutes * 60 : Nat)
  if minutes < 60 ∧ hours < 24 then return if negative then -offset else offset
  else throw .outOfRange

/-- The distance of a zone to universal time in seconds.  Names that are not known mean universal
time. -/
def readZone (t : Text) : Except ZoneError Int :=
  if ':' ∈ t then readNumericZone (fun c => c == ':' || Text.isBlank c) t
  else
    match t.takeWhile Char.isAlpha with
    | [] => readNumericZone (fun _ => false) t
    | name =>
      match Rfc2822.namedZones.find? fun (known, _) => sameLetters known.toList name with
      | some (_, hours) => .ok (hours * 3600)
      | none => .ok 0

/-- A way to write an instant. -/
structure Style where
  shape : List Shape
  /-- The zone at the end of the text, where there has to be one. -/
  zone : Option (List Shape)
  /-- What is changed before the text is read along the layouts. -/
  prepare : Text → Text
  layouts : List Layout

/-- A character of a zone: a letter, a digit, or one of the marks from plus to colon. -/
def isZoneChar (c : Char) : Bool := c.isAlpha || ('+' ≤ c && c ≤ ':')

/-- The zone of a text behind parts of a given shape, without the blanks around it. -/
def zoneOf (shape zone : List Shape) (t : Text) : Option Text :=
  ((rests shape t).find? (isWhole zone)).map Text.trim

/-- The instant that a text denotes in a notation: none if it does not fit, a refusal if it fits but
for its zone. -/
def Style.read (n : Style) (t : Text) : Option (Except ZoneError Instant) :=
  match n.zone with
  | none =>
    if isWhole n.shape t then (Layout.firstInstant? n.layouts 0 (n.prepare t)).map .ok else none
  | some zone =>
    match zoneOf n.shape zone t with
    | none => none
    | some name =>
      match readZone name with
      | .error e => some (.error e)
      | .ok east => (Layout.firstInstant? n.layouts east (n.prepare t)).map .ok

/-! ## Parts of shapes and layouts -/

/-- A year, month and day in figures. -/
def isoDateShape : List Shape := [digits 4 4, word ['-'], digits 2 2, word ['-'], digits 2 2]

/-- Hours, minutes, and possibly seconds. -/
def clockShape (least : Nat) : List Shape :=
  [digits least 2, word [':'], digits 2 2, maybe [word [':'], digits 2 2]]

/-- A fraction of a second of at most `most` digits, which may be missing. -/
def fractionShape (most : Nat) : Shape := maybe [word ['.'], digits 1 most]

/-- The half of the day, which may be missing. -/
def halfDayShape : List Shape :=
  [anyBlanks, maybe [oneOf ["am".toList, "pm".toList, "AM".toList, "PM".toList]]]

/-- A zone behind any number of blanks. -/
def zoneShape : List Shape := [anyBlanks, run isZoneChar 3 (some 6)]

/-- A zone behind a gap. -/
def gapZoneShape : List Shape := [gap, run isZoneChar 3 (some 6)]

/-- A year, month and day in figures. -/
def isoDate : Layout := [year, mark '-', month, mark '-', day]

/-- Hours and minutes. -/
def hourMinute : Layout := [hour, mark ':', minute]

/-- Hours, minutes and seconds. -/
def clock : Layout := hourMinute ++ [mark ':', second]

/-- Hours and minutes on a clock with twelve hours. -/
def halfDayClock : Layout := [halfDayHour, mark ':', minute, blanks, halfDay]

/-- Hours, minutes and seconds on a clock with twelve hours. -/
def halfDaySeconds : Layout :=
  [halfDayHour, mark ':', minute, mark ':', second, blanks, halfDay]

/-- The clocks that follow a date. -/
def clocks : List Layout :=
  [clock, hourMinute, clock ++ [fraction], halfDaySeconds, halfDayClock]

/-- The clocks that follow a date, in notations without fractions. -/
def plainClocks : List Layout := [clock, hourMinute, halfDaySeconds, halfDayClock]

/-- A date before each of several clocks. -/
def before (date : Layout) (clocks : List Layout) : List Layout :=
  clocks.map fun clock => date ++ blanks :: clock

/-! ## The notations -/

/-- A notation without a zone. -/
def plain (shape : List Shape) (layouts : List Layout) : Style := ⟨shape, none, id, layouts⟩

/-- `2024-03-05 10:00:00`, also with a fraction or a half of the day. -/
def isoStyle : Style :=
  plain (isoDateShape ++ [gap] ++ clockShape 2 ++ [fractionShape 9] ++ halfDayShape)
    (before isoDate clocks)

/-- `2024-03-05 10:00:00 PST`. -/
def isoZoneStyle : Style where
  shape := isoDateShape ++ [gap] ++ clockShape 2 ++ [fractionShape 9]
  zone := some zoneShape
  prepare := id
  layouts := (before isoDate [clock, hourMinute, clock ++ [fraction]]).map (· ++ [blanks, zoneName])

/-- `2024-03-05 PST`, which lacks a time of day. -/
def isoDateZoneStyle : Style where
  shape := isoDateShape
  zone := some zoneShape
  prepare := id
  layouts := []

/-- `10:00:00 PST`, which lacks a date. -/
def clockZoneStyle : Style where
  shape := clockShape 1 ++ halfDayShape
  zone := some gapZoneShape
  prepare := id
  layouts := []

/-- `May 8, 2009 5:57:51 PM`.  A year of fewer digits is one of the first centuries. -/
def monthFirstStyle : Style where
  shape := [letters 3 9, maybe [word ['.']], gap, digits 1 2, word [','], gap, digits 2 4,
    maybe [word [',']], gap] ++ clockShape 1 ++ halfDayShape
  zone := none
  prepare := fun t => Text.replace ". " " " (Text.replace ", " " " t)
  layouts := before [monthName, blanks, day, blanks, year] plainClocks

/-- `May 26, 2021, 12:49 AM PDT`. -/
def monthFirstZoneStyle : Style where
  shape := [letters 3 9, gap, digits 1 2, maybe [word [',']], gap, digits 4 4, anyBlanks,
    maybe [word [',']], maybe [word ['a', 't']], gap] ++ clockShape 2 ++ halfDayShape
  zone := some gapZoneShape
  prepare := fun t => Text.replace "at" "" (Text.replace "," "" t)
  layouts := (before [monthName, blanks, day, blanks, year] plainClocks).map
    (· ++ [blanks, zoneName])

/-- `14 May 2019 19:11:40.164`.  A year of fewer digits is one of the first centuries. -/
def dayFirstStyle : Style where
  shape := [digits 1 2, gap, letters 3 9, gap, digits 2 4, maybe [word [',']], gap] ++
    clockShape 1 ++ [fractionShape 9]
  zone := none
  prepare := Text.replace ", " " "
  layouts := before [day, blanks, monthName, blanks, year] clocks

/-- `4/8/2014 22:05`, the month first and the year with two or four digits. -/
def slashMonthStyle : Style :=
  plain ([digits 1 2, word ['/'], digits 1 2, word ['/'], digits 2 4, gap] ++ clockShape 1 ++
      [fractionShape 9] ++ halfDayShape)
    (before [month, mark '/', day, mark '/', yearOfCentury] clocks ++
      before [month, mark '/', day, mark '/', year] clocks)

/-- `2014/4/8 22:05`. -/
def slashYearStyle : Style :=
  plain ([digits 4 4, word ['/'], digits 1 2, word ['/'], digits 1 2, gap] ++ clockShape 1 ++
      [fractionShape 9] ++ halfDayShape)
    (before [year, mark '/', month, mark '/', day] clocks)

/-- `2014年04月08日11时25分18秒`. -/
def chineseStyle : Style :=
  plain [digits 4 4, word ['年'], digits 2 2, word ['月'], digits 2 2, word ['日'],
      digits 2 2, word ['时'], digits 2 2, word ['分'], digits 2 2, word ['秒']]
    [[year, mark '年', month, mark '月', day, mark '日', hour, mark '时', minute, mark '分',
      second, mark '秒']]

/-- A count since 1970: of seconds with ten digits, of milliseconds with 13, of nanoseconds with
19. -/
def readCount (t : Text) : Option Instant :=
  if t.all Char.isDigit then
    let n := Decimal.value t
    match t.length with
    | 10 => Instant.ofNanos? (n * 1000000000)
    | 13 => Instant.ofNanos? (n * 1000000)
    | 19 => if n < Nat.pow 2 63 then Instant.ofNanos? n else none
    | _ => none
  else none

/-- `2019-11-29 08:08:05-08`, as databases write it. -/
def readDatabase (t : Text) : Option Instant :=
  let shape := isoDateShape ++ [gap] ++ clockShape 2 ++
    [fractionShape 9, run (fun c => '+' ≤ c && c ≤ ':') 3 (some 6)]
  let layouts := (before isoDate [clock, clock ++ [fraction], hourMinute]).map (· ++ [offset])
  if isWhole shape t then layouts.findSome? fun layout => Layout.instant? layout t else none

/-- `171113 14:14:20`, as databases write it into logs. -/
def readLog (t : Text) : Option Instant :=
  let shape := [digits 6 6, gap, digits 2 2, word [':'], digits 2 2, word [':'], digits 2 2]
  if occursIn shape t then
    Layout.firstInstant? [[yearOfCentury, month, day, blanks] ++ clock] 0 t
  else none

/-- The ways to read a text, in the order in which they are tried. -/
def readers : List (Text → Option (Except ZoneError Instant)) :=
  [fun t => (readCount t).map .ok,
   fun t => (Rfc2822.read t).map .ok,
   fun t => (Rfc3339.read t).map .ok,
   fun t => (readDatabase t).map .ok,
   isoStyle.read,
   isoZoneStyle.read,
   isoDateZoneStyle.read,
   clockZoneStyle.read,
   monthFirstStyle.read,
   monthFirstZoneStyle.read,
   dayFirstStyle.read,
   slashMonthStyle.read,
   slashYearStyle.read,
   fun t => (readLog t).map .ok,
   chineseStyle.read]

/-- The instant that a text denotes in one of the notations. -/
def read (t : Text) : Except TimestampError Instant :=
  match readers.findSome? fun reader => reader t with
  | some result => result.mapError (.zone t)
  | none => .error (.unrecognized t)

end Freeform

/-- The instant that a text denotes: in RFC 3339 if possible, else in the first notation that
fits.  Notations that need the present time to be completed are left out; a text in one of them is
not recognized here, which says nothing about what it denotes. -/
def Instant.parse (t : Text) : Except TimestampError Instant :=
  match Rfc3339.read t with
  | some instant => .ok instant
  | none => Freeform.read t

end TraceText
