import TraceText.DatePattern.Field

/-!
# Date patterns

A pattern such as `yyyy-MM-dd HH:mm:ss.SSS` describes a format by runs of letters.  A run of one
ASCII letter is a field, text between single quotes stands for itself, and two quotes stand for a
quote.  Everything else stands for itself as well.

## Main definitions

* `PatternError` — why a text is no pattern
* `DatePattern.fieldOfRun` — the field that a run of letters names
* `DatePattern.items` — the fields and literal characters of a pattern
* `DatePattern.toFormat` — the format that a pattern describes
-/

namespace TraceText

/-- Why a text is no date pattern. -/
inductive PatternError where
  | unterminatedQuote
  | optionalSection
  /-- A fraction of a second has this many digits. -/
  | fractionDigits (count : Nat)
  | unsupportedField (run : Text)
  | invalidFormat (pattern : Text)
  deriving DecidableEq, Repr

/-- The wording of a refusal. -/
def PatternError.message : PatternError → Text
  | .unterminatedQuote => "unterminated quoted text"
  | .optionalSection => "optional sections are not supported"
  | .fractionDigits count =>
    "fraction of second must be 3, 6 or 9 digits, got " ++ Decimal.digits count
  | .unsupportedField run => "unsupported pattern field '" ++ run ++ "'"
  | .invalidFormat pattern => "'" ++ pattern ++ "' is not a valid format"

namespace DatePattern

open TimeField in
/-- The field that a run of a letter names, if there is one. -/
def knownField (letter : Char) (count : Nat) : Option TimeField :=
  match letter, count with
  | 'y', 2 | 'u', 2 => some yearOfCentury
  | 'y', _ | 'u', _ => some year
  | 'M', 1 | 'L', 1 => some month
  | 'M', 2 | 'L', 2 => some month2
  | 'M', 3 | 'L', 3 => some monthShort
  | 'M', 4 | 'L', 4 => some monthLong
  | 'd', 1 => some day
  | 'd', 2 => some day2
  | 'D', 1 => some ordinal
  | 'D', 3 => some ordinal3
  | 'H', 1 => some hour
  | 'H', 2 => some hour2
  | 'h', 1 => some halfDayHour
  | 'h', 2 => some halfDayHour2
  | 'm', 1 => some minute
  | 'm', 2 => some minute2
  | 's', 1 => some second
  | 's', 2 => some second2
  | 'S', 3 => some millis
  | 'S', 6 => some micros
  | 'S', 9 => some nanos
  | 'a', 1 => some halfDay
  | 'E', 1 | 'E', 2 | 'E', 3 => some weekdayShort
  | 'E', 4 => some weekdayLong
  | 'Z', 1 | 'Z', 2 | 'Z', 3 => some offset
  | 'Z', 5 => some offsetColon
  | 'X', 1 | 'X', 2 | 'x', 1 | 'x', 2 => some offset
  | 'X', 3 | 'x', 3 => some offsetColon
  | 'z', 1 | 'z', 2 | 'z', 3 => some zoneName
  | _, _ => none

/-- The field that a run of a letter names, or why it names none. -/
def fieldOfRun (letter : Char) (count : Nat) : Except PatternError TimeField :=
  match knownField letter count with
  | some f => .ok f
  | none =>
    if letter = 'S' then .error (.fractionDigits count)
    else .error (.unsupportedField (List.replicate count letter))

/-- The parts that the rest of a pattern describes, inside or outside of quotes. -/
def itemsFrom : Bool → Text → Except PatternError (List FormatItem)
  | true, [] => .error .unterminatedQuote
  | true, '\'' :: '\'' :: rest => (itemsFrom true rest).map (.literal '\'' :: ·)
  | true, '\'' :: rest => itemsFrom false rest
  | true, c :: rest => (itemsFrom true rest).map (.literal c :: ·)
  | false, [] => .ok []
  | false, '\'' :: '\'' :: rest => (itemsFrom false rest).map (.literal '\'' :: ·)
  | false, '\'' :: rest => itemsFrom true rest
  | false, c :: rest =>
    if c = '[' ∨ c = ']' then .error .optionalSection
    else if c.isAlpha then
      have : (rest.dropWhile (· = c)).length ≤ rest.length :=
        (List.dropWhile_suffix _).length_le
      do
        let f ← fieldOfRun c ((rest.takeWhile (· = c)).length + 1)
        let items ← itemsFrom false (rest.dropWhile (· = c))
        return .field f :: items
    else (itemsFrom false rest).map (.literal c :: ·)
termination_by _ t => t.length

/-- The parts that a pattern describes. -/
def items (pattern : Text) : Except PatternError (List FormatItem) := itemsFrom false pattern

/-- The format that a pattern describes.  A format whose parts cannot be told is refused. -/
def toFormat (pattern : Text) : Except PatternError Text := do
  let format := (← items pattern).flatMap FormatItem.write
  if (FormatItem.parse format).isNone then throw (.invalidFormat pattern)
  return format

end DatePattern

end TraceText
