import TraceText.Instant.Layout

/-!
# Instants in the notation of RFC 2822

The notation of mail headers, such as `Wed, 02 Jun 2021 06:31:39 GMT`.

## Main definitions

* `Rfc2822.readZone` — a zone by one of the old names or by its distance to universal time
* `Rfc2822.read` — the instant that a text denotes
-/

namespace TraceText.Rfc2822

/-- At least one blank. -/
def gap (t : Text) : Option Text :=
  match t with
  | c :: rest => if Text.isBlank c then some (Text.trimStart rest) else none
  | [] => none

/-- A day of the week by the first three letters of its name, counted from Monday. -/
def readWeekday (t : Text) : Option (Nat × Text) :=
  (List.range 7).findSome? fun i =>
    (stripWord ((TimeField.nameAt TimeField.weekdayNames i).take 3) t).map fun rest => (i, rest)

/-- The weekday with its comma, which may be missing. -/
def readWeekdayComma (t : Text) : Option (Option Nat × Text) :=
  match readWeekday t with
  | some (i, ',' :: rest) => some (some i, rest)
  | some _ => none
  | none => some (none, t)

/-- A year; one of two or three digits is completed. -/
def readYear (t : Text) : Option (Int × Text) := do
  let (n, rest) ← Decimal.readDigits 2 t.length t
  let length := t.length - rest.length
  let year : Int :=
    if length = 2 then (if n < 50 then 2000 + n else 1900 + n)
    else if length = 3 then 1900 + n
    else n
  return (year, rest)

/-- The seconds, which may be missing. -/
def readSecond (t : Text) : Option (Nat × Text) :=
  match Text.trimStart t with
  | ':' :: rest => Decimal.readDigits 2 2 rest
  | _ => some (0, t)

/-- The zones with a name of their own and their distance to universal time in hours. -/
def namedZones : List (String × Int) :=
  [("gmt", 0), ("ut", 0), ("z", 0), ("edt", -4), ("est", -5), ("cdt", -5), ("cst", -6),
    ("mdt", -6), ("mst", -7), ("pdt", -7), ("pst", -8)]

/-- The distance of a named zone in seconds, in either case.  The one-letter names of the military
other than `J` mean universal time. -/
def zoneOfName (name : Text) : Option Int :=
  match namedZones.find? fun (known, _) => sameLetters known.toList name with
  | some (_, hours) => some (hours * 3600)
  | none => if name.length = 1 ∧ ¬ sameLetters name ['j'] then some 0 else none

/-- A zone by its name, or by a sign, two digits for hours and two for minutes. -/
def readZone (t : Text) : Option (Int × Text) :=
  match t.takeWhile Char.isAlpha with
  | [] => do
    let (negative, t) ← match t with
      | '+' :: rest => some (false, rest)
      | '-' :: rest => some (true, rest)
      | _ => none
    let (hours, t) ← Decimal.readDigits 2 2 t
    let (minutes, t) ← Decimal.readDigits 2 2 t
    if minutes < 60 then
      let offset : Int := (hours * 3600 + minutes * 60 : Nat)
      some (if negative then -offset else offset, t)
    else none
  | name => (zoneOfName name).map fun offset => (offset, t.dropWhile Char.isAlpha)

/-- The text behind a comment whose opening parenthesis is read, `depth` more being open. -/
def skipComment : Nat → Text → Option Text
  | _, [] => none
  | depth, '\\' :: rest =>
    match rest with
    | _ :: rest => skipComment depth rest
    | [] => none
  | depth, '(' :: rest => skipComment (depth + 1) rest
  | 0, ')' :: rest => some rest
  | depth + 1, ')' :: rest => skipComment depth rest
  | depth, _ :: rest => skipComment depth rest

/-- Whether nothing but comments follows. -/
def onlyComments : Nat → Text → Bool
  | _, [] => true
  | 0, _ => false
  | fuel + 1, t =>
    match Text.trimStart t with
    | '(' :: rest => ((skipComment 0 rest).map (onlyComments fuel)).getD false
    | _ => false

/-- The instant that a text denotes.  A weekday that is given has to be the right one. -/
def read (t : Text) : Option Instant := do
  let (weekday, t) ← readWeekdayComma (Text.trimStart t)
  let (day, t) ← Decimal.readDigits 1 2 (Text.trimStart t)
  let (month, t) ← readMonthShort (← gap t)
  let (year, t) ← readYear (← gap t)
  let (hour, t) ← Decimal.readDigits 2 2 (← gap t)
  let t ← Rfc3339.expect ':' (Text.trimStart t)
  let (minute, t) ← Decimal.readDigits 2 2 (Text.trimStart t)
  let (second, t) ← readSecond t
  let (offset, t) ← readZone (← gap t)
  let date : Date := ⟨year, month, day⟩
  if onlyComments t.length t ∧ (weekday.all fun i => i = date.weekday) ∧ offset.natAbs < 86400 then
    (Rfc3339.withSeconds date hour minute second 0).toInstant? offset
  else none

end TraceText.Rfc2822
