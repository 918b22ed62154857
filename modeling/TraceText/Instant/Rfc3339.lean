import TraceText.Decimal.Basic
import TraceText.Instant.Basic

/-!
# Instants in the notation of RFC 3339

An instant is written in universal time, with the fewest of 0, 3, 6 or 9 fraction digits that lose
nothing, and with the second 60 if it lies in a leap second.  The reader accepts every distance
from universal time in hours and minutes, and fractions of any length.

## Main definitions

* `Rfc3339.yearText` — four digits, with a sign and possibly more outside the years 0 to 9999
* `Instant.rfc3339` — the text of an instant
* `Rfc3339.read` — the instant that a text denotes
-/

namespace TraceText

namespace Rfc3339

/-- A year: four digits from 0 to 9999, else a sign and at least four digits. -/
def yearText (year : Int) : Text :=
  if 0 ≤ year ∧ year ≤ 9999 then Decimal.padded 4 year.toNat
  else (if year < 0 then '-' else '+') :: Decimal.padded 4 year.natAbs

/-- A calendar date. -/
def dateText (d : Date) : Text :=
  yearText d.year ++ '-' :: Decimal.padded 2 d.month ++ '-' :: Decimal.padded 2 d.day

/-- A fraction of a second, with the fewest of 0, 3, 6 or 9 digits that lose nothing. -/
def fractionText (nanos : Nat) : Text :=
  if nanos = 0 then []
  else if nanos % 1000000 = 0 then '.' :: Decimal.padded 3 (nanos / 1000000)
  else if nanos % 1000 = 0 then '.' :: Decimal.padded 6 (nanos / 1000)
  else '.' :: Decimal.padded 9 nanos

/-- A time of day; the leap second is the second 60. -/
def timeText (l : LocalTime) : Text :=
  Decimal.padded 2 l.hour ++ ':' :: Decimal.padded 2 l.minute ++ ':' ::
    Decimal.padded 2 (l.second + l.nanos / nanosPerSecond) ++
    fractionText (l.nanos % nanosPerSecond)

end Rfc3339

/-- The text of an instant: date, `T`, time of day, `Z`. -/
def Instant.rfc3339 (t : Instant) : Text :=
  let l := t.toLocal 0
  Rfc3339.dateText l.date ++ 'T' :: Rfc3339.timeText l ++ ['Z']

namespace Rfc3339

/-- A given character at the start of a text. -/
def expect (c : Char) : Text → Option Text
  | [] => none
  | d :: rest => if d = c then some rest else none

/-- Fraction digits in nanoseconds; digits beyond the ninth are dropped. -/
def nanosOfDigits (ds : Text) : Nat := Decimal.value ds * Nat.pow 10 (9 - ds.length)

/-- The fraction of a second, if a point follows; then at least one digit must follow the point. -/
def readFraction : Text → Option (Nat × Text)
  | '.' :: rest =>
    let (ds, rest) := Decimal.spanDigits rest
    if ds = [] then none else some (nanosOfDigits (ds.take 9), rest)
  | t => some (0, t)

/-- The sign of a distance from universal time; the minus may be the one of typography. -/
def readSign : Text → Option (Int × Text)
  | c :: rest =>
    if c = '+' then some (1, rest) else if c = '-' ∨ c = '−' then some (-1, rest) else none
  | [] => none

/-- The distance from universal time in seconds: `Z`, or a sign, hours below 24, and minutes. -/
def readOffset (t : Text) : Option (Int × Text) :=
  match t with
  | 'Z' :: rest => some (0, rest)
  | 'z' :: rest => some (0, rest)
  | t => do
    let (sign, t) ← readSign t
    let (hours, t) ← Decimal.readDigits 2 2 t
    let t ← expect ':' t
    let (minutes, t) ← Decimal.readDigits 2 2 t
    if hours < 24 ∧ minutes < 60 then some (sign * (hours * 3600 + minutes * 60 : Nat), t) else none

/-- What clock and calendar show, when the seconds are given as 0 to 60. -/
def withSeconds (date : Date) (hour minute second nanos : Nat) : LocalTime :=
  if second = 60 then ⟨date, hour, minute, 59, nanosPerSecond + nanos⟩
  else ⟨date, hour, minute, second, nanos⟩

/-- The instant that a text denotes.  Date and time are separated by `T`, `t` or a space. -/
def read (t : Text) : Option Instant := do
  let (year, t) ← Decimal.readDigits 4 4 t
  let t ← expect '-' t
  let (month, t) ← Decimal.readDigits 2 2 t
  let t ← expect '-' t
  let (day, t) ← Decimal.readDigits 2 2 t
  let t ← (expect 'T' t).or <| (expect 't' t).or <| expect ' ' t
  let (hour, t) ← Decimal.readDigits 2 2 t
  let t ← expect ':' t
  let (minute, t) ← Decimal.readDigits 2 2 t
  let t ← expect ':' t
  let (second, t) ← Decimal.readDigits 2 2 t
  let (nanos, t) ← readFraction t
  let (offset, t) ← readOffset t
  if t = [] then (withSeconds ⟨year, month, day⟩ hour minute second nanos).toInstant? offset
  else none

end Rfc3339

end TraceText
