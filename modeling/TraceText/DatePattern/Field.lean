import TraceText.Instant.Rfc3339

/-!
# Fields of a point in time

A format is a text in which each field is named by a percent sign and a specifier; a percent sign
that stands for itself is written twice.

## Main definitions

* `TimeField` — what a format can show of a point in time
* `TimeField.specifier` — how a field is named in a format
* `TimeField.text` — how a field reads in a given zone
* `FormatItem.parse` — the fields and literal characters of a format
-/

namespace TraceText

/-- What can be shown of a point in time.  Names with a number have at least so many digits. -/
inductive TimeField where
  | year
  | yearOfCentury
  | month
  | month2
  | monthShort
  | monthLong
  | day
  | day2
  | ordinal
  | ordinal3
  | hour
  | hour2
  | halfDayHour
  | halfDayHour2
  | minute
  | minute2
  | second
  | second2
  | millis
  | micros
  | nanos
  | halfDay
  | weekdayShort
  | weekdayLong
  | offset
  | offsetColon
  | zoneName
  deriving DecidableEq, Repr

namespace TimeField

/-- The characters that name a field behind the percent sign. -/
def specifier : TimeField → Text
  | year => ['Y']
  | yearOfCentury => ['y']
  | month => ['-', 'm']
  | month2 => ['m']
  | monthShort => ['b']
  | monthLong => ['B']
  | day => ['-', 'd']
  | day2 => ['d']
  | ordinal => ['-', 'j']
  | ordinal3 => ['j']
  | hour => ['-', 'H']
  | hour2 => ['H']
  | halfDayHour => ['-', 'I']
  | halfDayHour2 => ['I']
  | minute => ['-', 'M']
  | minute2 => ['M']
  | second => ['-', 'S']
  | second2 => ['S']
  | millis => ['3', 'f']
  | micros => ['6', 'f']
  | nanos => ['9', 'f']
  | halfDay => ['p']
  | weekdayShort => ['a']
  | weekdayLong => ['A']
  | offset => ['z']
  | offsetColon => [':', 'z']
  | zoneName => ['Z']

/-- The field that a specifier of one character names. -/
def ofLetter? : Char → Option TimeField
  | 'Y' => some year
  | 'y' => some yearOfCentury
  | 'm' => some month2
  | 'b' => some monthShort
  | 'B' => some monthLong
  | 'd' => some day2
  | 'j' => some ordinal3
  | 'H' => some hour2
  | 'I' => some halfDayHour2
  | 'M' => some minute2
  | 'S' => some second2
  | 'p' => some halfDay
  | 'a' => some weekdayShort
  | 'A' => some weekdayLong
  | 'z' => some offset
  | 'Z' => some zoneName
  | _ => none

/-- The field that a specifier of two characters names. -/
def ofLetters? : Char → Char → Option TimeField
  | '-', 'm' => some month
  | '-', 'd' => some day
  | '-', 'j' => some ordinal
  | '-', 'H' => some hour
  | '-', 'I' => some halfDayHour
  | '-', 'M' => some minute
  | '-', 'S' => some second
  | '3', 'f' => some millis
  | '6', 'f' => some micros
  | '9', 'f' => some nanos
  | ':', 'z' => some offsetColon
  | _, _ => none

/-- The English names of the months. -/
def monthNames : List String :=
  ["January", "February", "March", "April", "May", "June", "July", "August", "September",
    "October", "November", "December"]

/-- The English names of the days of a week, from Monday. -/
def weekdayNames : List String :=
  ["Monday", "Tuesday", "Wednesday", "Thursday", "Friday", "Saturday", "Sunday"]

/-- The name at a place of a list of names. -/
def nameAt (names : List String) (i : Nat) : Text := (names.getD i "").toList

/-- The hour on a clock with twelve hours. -/
def onHalfDay (hour : Nat) : Nat := if hour % 12 = 0 then 12 else hour % 12

/-- The distance of a zone to universal time, rounded to the nearest minute. -/
def offsetText (colon : Bool) (offset : Int) : Text :=
  let minutes := (offset.natAbs + 30) / 60
  (if offset < 0 then '-' else '+') :: Decimal.padded 2 (minutes / 60) ++
    (if colon then [':'] else []) ++ Decimal.padded 2 (minutes % 60)

/-- The name of a zone; one without a name is called by its distance to universal time. -/
def zoneText : Zone → Text
  | .utc => "UTC"
  | zone =>
    let offset := zone.offset.natAbs
    (if zone.offset < 0 then '-' else '+') :: Decimal.padded 2 (offset / 3600) ++
      ':' :: Decimal.padded 2 (offset / 60 % 60) ++
      (if offset % 60 = 0 then [] else ':' :: Decimal.padded 2 (offset % 60))

/-- How a field reads, when a zone's calendar and clock show `l`. -/
def text (zone : Zone) (l : LocalTime) : TimeField → Text
  | year => Rfc3339.yearText l.date.year
  | yearOfCentury => Decimal.padded 2 (l.date.year % 100).toNat
  | month => Decimal.digits l.date.month
  | month2 => Decimal.padded 2 l.date.month
  | monthShort => (nameAt monthNames (l.date.month - 1)).take 3
  | monthLong => nameAt monthNames (l.date.month - 1)
  | day => Decimal.digits l.date.day
  | day2 => Decimal.padded 2 l.date.day
  | ordinal => Decimal.digits l.date.ordinal
  | ordinal3 => Decimal.padded 3 l.date.ordinal
  | hour => Decimal.digits l.hour
  | hour2 => Decimal.padded 2 l.hour
  | halfDayHour => Decimal.digits (onHalfDay l.hour)
  | halfDayHour2 => Decimal.padded 2 (onHalfDay l.hour)
  | minute => Decimal.digits l.minute
  | minute2 => Decimal.padded 2 l.minute
  | second => Decimal.digits (l.second + l.nanos / nanosPerSecond)
  | second2 => Decimal.padded 2 (l.second + l.nanos / nanosPerSecond)
  | millis => Decimal.padded 3 (l.nanos % nanosPerSecond / 1000000)
  | micros => Decimal.padded 6 (l.nanos % nanosPerSecond / 1000)
  | nanos => Decimal.padded 9 (l.nanos % nanosPerSecond)
  | halfDay => if l.hour < 12 then "AM" else "PM"
  | weekdayShort => (nameAt weekdayNames l.date.weekday).take 3
  | weekdayLong => nameAt weekdayNames l.date.weekday
  | offset => offsetText false zone.offset
  | offsetColon => offsetText true zone.offset
  | zoneName => zoneText zone

end TimeField

/-- A part of a format. -/
inductive FormatItem where
  | literal (c : Char)
  | field (f : TimeField)
  deriving DecidableEq, Repr

namespace FormatItem

/-- A part as it stands in a format. -/
def write : FormatItem → Text
  | literal c => if c = '%' then ['%', '%'] else [c]
  | field f => '%' :: f.specifier

/-- The parts of a format; none if a percent sign introduces nothing that is known. -/
def parse : Text → Option (List FormatItem)
  | [] => some []
  | '%' :: '%' :: rest => (parse rest).map (literal '%' :: ·)
  | '%' :: c :: rest =>
    match TimeField.ofLetter? c with
    | some f => (parse rest).map (field f :: ·)
    | none =>
      match rest with
      | d :: rest => do
        let f ← TimeField.ofLetters? c d
        let items ← parse rest
        return field f :: items
      | [] => none
  | c :: rest => if c = '%' then none else (parse rest).map (literal c :: ·)

/-- How a part reads, when a zone's calendar and clock show `l`. -/
def text (zone : Zone) (l : LocalTime) : FormatItem → Text
  | literal c => [c]
  | field f => f.text zone l

end FormatItem

/-- An instant in a format, as calendar and clock of a zone show it. -/
def Zone.format (zone : Zone) (format : Text) (t : Instant) : Text :=
  let l := t.toLocal zone.offset
  ((FormatItem.parse format).getD []).flatMap (FormatItem.text zone l)

end TraceText
