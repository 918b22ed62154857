import TraceText.Calendar

/-!
# Instants

An instant is a second of universal time and a fraction of it in nanoseconds.  A leap second is
told as a fraction beyond the last second of its minute, so it keeps its place between two minutes.

## Main definitions

* `Instant` — the instants of the years -262143 to 262142
* `Instant.ofParts?`, `Instant.ofNanos?` — an instant from its parts, or from all its nanoseconds
* `Instant.add` — an instant moved by a number of nanoseconds
* `LocalTime` — what calendar and clock show; `Instant.toLocal`, `LocalTime.toInstant?` convert
* `Zone` — where calendar and clock are read
-/

namespace TraceText

/-- The number of nanoseconds in a second. -/
def nanosPerSecond : Nat := 1000000000

/-- The number of seconds in a day without a leap second. -/
def secondsPerDay : Int := 86400

/-- The first year of the calendar. -/
def earliestYear : Int := -262143

/-- The last year of the calendar. -/
def latestYear : Int := 262142

/-- The first second of the first year. -/
def earliestSecond : Int := (daysBeforeYear earliestYear - Date.epoch) * secondsPerDay

/-- The last second of the last year. -/
def latestSecond : Int := (daysBeforeYear (latestYear + 1) - Date.epoch) * secondsPerDay - 1

/-- A point in universal time.  Fractions from `10 ^ 9` on lie in the leap second that follows the
last second of a minute. -/
structure Instant where
  /-- Seconds since the beginning of 1970. -/
  seconds : Int
  /-- The fraction, in nanoseconds. -/
  nanos : Nat
  earliest_le : earliestSecond ≤ seconds
  le_latest : seconds ≤ latestSecond
  nanos_lt : nanos < 2 * nanosPerSecond
  leap_ends_minute : nanosPerSecond ≤ nanos → seconds % 60 = 59
  deriving DecidableEq

namespace Instant

@[ext] theorem ext {t u : Instant} (hs : t.seconds = u.seconds) (hn : t.nanos = u.nanos) :
    t = u := by
  cases t; cases u; simp_all

/-- The instant with these seconds and nanoseconds, if there is one. -/
def ofParts? (seconds : Int) (nanos : Nat) : Option Instant :=
  if h : earliestSecond ≤ seconds ∧ seconds ≤ latestSecond ∧ nanos < 2 * nanosPerSecond ∧
      (nanosPerSecond ≤ nanos → seconds % 60 = 59) then
    some ⟨seconds, nanos, h.1, h.2.1, h.2.2.1, h.2.2.2⟩
  else none

theorem ofParts?_eq_some_iff {seconds : Int} {nanos : Nat} {t : Instant} :
    ofParts? seconds nanos = some t ↔ t.seconds = seconds ∧ t.nanos = nanos := by
  unfold ofParts?
  constructor
  · intro h
    split at h
    · cases h; exact ⟨rfl, rfl⟩
    · cases h
  · rintro ⟨rfl, rfl⟩
    rw [dif_pos ⟨t.earliest_le, t.le_latest, t.nanos_lt, t.leap_ends_minute⟩]

/-- The instant that lies this many nanoseconds after the beginning of 1970, leap seconds not
counted, if it is in range. -/
def ofNanos? (total : Int) : Option Instant :=
  ofParts? (total / nanosPerSecond) (total % nanosPerSecond).toNat

/-- Whether an instant lies in a leap second. -/
def isLeap (t : Instant) : Bool := nanosPerSecond ≤ t.nanos

/-- Order in time; a leap second lies between its minute and the next. -/
protected def le (t u : Instant) : Prop :=
  t.seconds < u.seconds ∨ t.seconds = u.seconds ∧ t.nanos ≤ u.nanos

instance : LE Instant := ⟨Instant.le⟩

theorem le_iff {t u : Instant} :
    t ≤ u ↔ t.seconds < u.seconds ∨ t.seconds = u.seconds ∧ t.nanos ≤ u.nanos := Iff.rfl

instance (t u : Instant) : Decidable (t ≤ u) :=
  inferInstanceAs (Decidable (t.seconds < u.seconds ∨ t.seconds = u.seconds ∧ t.nanos ≤ u.nanos))

/-- An instant moved by `delta` nanoseconds, if the result is in range.  A move that leaves a leap
second passes its remaining part first; one that stays within it, or goes back by less than a
second, only changes the fraction. -/
def add (t : Instant) (delta : Int) : Option Instant :=
  let whole := delta.tdiv nanosPerSecond
  let part := delta.tmod nanosPerSecond
  if t.isLeap then
    if 0 < whole ∨ 2 * nanosPerSecond ≤ t.nanos + part then
      ofNanos? ((t.seconds - 1) * nanosPerSecond + t.nanos + delta)
    else if whole < 0 then
      ofNanos? (t.seconds * nanosPerSecond + t.nanos + delta)
    else ofParts? t.seconds (t.nanos + part).toNat
  else ofNanos? (t.seconds * nanosPerSecond + t.nanos + delta)

/-- The beginning of 1970. -/
def epoch : Instant :=
  ⟨0, 0, by decide, by decide, by decide, by decide⟩

instance : Inhabited Instant := ⟨epoch⟩

end Instant

/-- What a calendar and a clock show.  A leap second is told by nanoseconds from `10 ^ 9` on. -/
structure LocalTime where
  date : Date
  hour : Nat
  minute : Nat
  second : Nat
  nanos : Nat
  deriving DecidableEq, Repr, Inhabited

/-- What calendar and clock show at an instant, `offset` seconds east of universal time. -/
def Instant.toLocal (t : Instant) (offset : Int) : LocalTime :=
  let seconds := t.seconds + offset
  let ofDay := (seconds % secondsPerDay).toNat
  { date := Date.ofNumber (seconds / secondsPerDay + Date.epoch)
    hour := ofDay / 3600
    minute := ofDay / 60 % 60
    second := ofDay % 60
    nanos := t.nanos }

/-- Whether a calendar of the years that are known and a clock can show this. -/
def LocalTime.isValid (l : LocalTime) : Bool :=
  earliestYear ≤ l.date.year && l.date.year ≤ latestYear && l.date.isValid && l.hour < 24 &&
    l.minute < 60 && l.second < 60

/-- The instant at which calendar and clock show this, `offset` seconds east of universal time. -/
def LocalTime.toInstant? (l : LocalTime) (offset : Int) : Option Instant :=
  if l.isValid then
    Instant.ofParts? ((l.date.number - Date.epoch) * secondsPerDay +
      (l.hour * 3600 + l.minute * 60 + l.second : Nat) - offset) l.nanos
  else none

/-- Where calendar and clock are read.  The zone of the system keeps universal time but not its
name. -/
inductive Zone where
  | system
  | utc
  /-- A fixed number of seconds east of universal time. -/
  | fixed (offset : Int)
  deriving DecidableEq, Repr, Inhabited

/-- The distance of a zone from universal time, in seconds to the east. -/
def Zone.offset : Zone → Int
  | .system => 0
  | .utc => 0
  | .fixed offset => offset

end TraceText
