import TraceText.DatePattern.Basic
import TraceText.Text.Case

/-!
# Parameters of placeholders

A parameter transforms the text of a placeholder.  It is written as one letter, as digits followed
by `d`, or as `dt:` followed by a date pattern.

## Main definitions

* `TimestampFormat` — a date pattern bound to a zone
* `Parameter` — a transformation; `Parameter.apply`
* `TemplateError` — why a text is no template
* `Parameter.parse` — the parameter that a token denotes
* `lastSegments` — the end of a dotted name
-/

namespace TraceText

/-- A date pattern with the format that it describes, bound to a zone. -/
structure TimestampFormat where
  pattern : Text
  format : Text
  zone : Zone
  deriving DecidableEq, Inhabited

/-- An instant as a date pattern shows it. -/
def TimestampFormat.write (f : TimestampFormat) (t : Instant) : Text := f.zone.format f.format t

/-- A transformation of the text of a placeholder. -/
inductive Parameter where
  /-- Begin a new line. -/
  | newLine
  | lowerCase
  | upperCase
  /-- Show nothing where there is no value. -/
  | optional
  /-- Drop all but the last `n + 1` segments of a dotted name. -/
  | lastSegments (n : Nat)
  | timestamp (f : TimestampFormat)
  deriving DecidableEq, Inhabited

/-- Why a text is no template. -/
inductive TemplateError where
  | invalidParameter (token : Text)
  | invalidDatePattern (token : Text) (reason : PatternError)
  /-- A date pattern is not the first parameter of its placeholder. -/
  | misplacedTimestamp (token : Text)
  | emptyFieldPath (placeholder : Text)
  deriving DecidableEq, Repr

/-- The wording of a refused template. -/
def TemplateError.message : TemplateError → Text
  | .invalidParameter token => "unknown parameter: '" ++ token ++ "'"
  | .invalidDatePattern token reason =>
    "invalid date pattern in parameter '" ++ token ++ "': " ++ reason.message
  | .misplacedTimestamp token =>
    "parameter '" ++ token ++ "' must be the first parameter of its placeholder"
  | .emptyFieldPath placeholder => "placeholder '\x7b" ++ placeholder ++ "\x7d' has no field name"

/-- The last `n + 1` segments of a dotted name, or all if there are fewer. -/
def lastSegments (n : Nat) (t : Text) : Text :=
  let segments := Text.splitOn '.' t
  Text.join "." (segments.drop (segments.length - (n + 1)))

namespace Parameter

/-- The largest number of segments that can be asked for. -/
def maxSegments : Nat := Nat.pow 2 64 - 1

/-- Whether nothing is shown where there is no value. -/
def isOptional : Parameter → Bool
  | optional => true
  | _ => false

/-- Whether a parameter is a date pattern. -/
def isTimestamp : Parameter → Bool
  | timestamp _ => true
  | _ => false

/-- The number of segments that digits followed by `d` ask for. -/
def segmentCount? (token : Text) : Option Nat := do
  let ds ← Text.stripEnd 'd' token
  if ds ≠ [] ∧ ds.all Char.isDigit ∧ Decimal.value ds ≤ maxSegments then some (Decimal.value ds)
  else none

/-- The parameter that a token denotes; date patterns are bound to the zone. -/
def parse (zone : Zone) (token : Text) : Except TemplateError Parameter :=
  if token = ['n'] then .ok newLine
  else if token = ['o'] then .ok optional
  else if token = ['c'] then .ok lowerCase
  else if token = ['C'] then .ok upperCase
  else match Text.stripStart "dt:" token with
    | some pattern =>
      match DatePattern.toFormat pattern with
      | .ok format => .ok (timestamp ⟨pattern, format, zone⟩)
      | .error reason => .error (.invalidDatePattern token reason)
    | none =>
      match segmentCount? token with
      | some n => .ok (lastSegments n)
      | none => .error (.invalidParameter token)

/-- A text transformed.  A date pattern leaves text as it is. -/
def apply : Parameter → Text → Text
  | newLine, t => '\n' :: t
  | lowerCase, t => Text.lower t
  | upperCase, t => Text.upper t
  | optional, t => t
  | lastSegments n, t => TraceText.lastSegments n t
  | timestamp _, t => t

end Parameter

end TraceText
