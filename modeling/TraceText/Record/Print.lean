import TraceText.Decimal.Shortest
import TraceText.Instant.Rfc3339
import TraceText.Record.Basic

/-!
# The default text of records

Without a template a record is written over several lines: its type, its times and its fields, each
level of nesting indented by two more spaces.

## Main definitions

* `Value.plain` — a value as bare text
* `Value.entry` — a value behind its name, at a given depth
* `Value.objectText` — an object by itself
* `Record.text` — a record
* `Value.shortName?` — the short name of an object
-/

namespace TraceText

/-- A number as records show it: positional, always with a fraction. -/
def Binary64.text (x : Binary64) : Text := Decimal.positional.write x

/-- A truth value. -/
def boolText (b : Bool) : Text := if b then "true" else "false"

/-- An entry of a stack trace. -/
def Frame.text (f : Frame) : Text :=
  f.typeName ++ "." ++ f.method ++ "(Line:" ++ Decimal.ofInt f.line ++ ")"

/-- What is shown where there is no value. -/
def missingText : Text := "N/A"

/-- The indentation of a depth. -/
def indent (depth : Nat) : Text := Text.times depth "  "

/-- A stack trace behind its name. -/
def framesEntry (depth : Nat) (entries : List Frame) : Text :=
  let line (f : Frame) : Text := indent depth ++ "  " ++ f.text ++ "\n"
  "[\n" ++ entries.flatMap line ++ indent depth ++ "]"

mutual

/-- A value behind its name: a timestamp as the instant that it encodes, a string in quotes, an
object over several lines that close at this depth. -/
def Value.entry (depth : Nat) : Value → Text
  | .null => missingText
  | .bool b => boolText b
  | .int i declared =>
    match (Value.int i declared).decoded? with
    | some t => t.rfc3339
    | none => Decimal.ofInt i
  | .natural n => Decimal.digits n
  | .float x => x.text
  | .str t => ['"'] ++ t ++ ['"']
  | .instant t => t.rfc3339
  | .object typeName _ fields =>
    typeName ++ " \x7b\n" ++ fieldsText (depth + 1) fields ++ indent depth ++ "\x7d"
  | .frames entries => framesEntry depth entries

/-- A line, or several, for each field. -/
def fieldsText (depth : Nat) : List (Text × Value) → Text
  | [] => []
  | (name, value) :: rest =>
    indent depth ++ name ++ " = " ++ value.entry depth ++ "\n" ++ fieldsText depth rest

end

/-- An object by itself. -/
def Value.objectText (typeName : Text) (fields : Fields) : Text :=
  typeName ++ " \x7b\n" ++ fieldsText 1 fields ++ "\x7d"

/-- A value as bare text.  An integer is shown as it is, whatever it is declared to be. -/
def Value.plain : Value → Text
  | .null => missingText
  | .bool b => boolText b
  | .int i _ => Decimal.ofInt i
  | .natural n => Decimal.digits n
  | .float x => x.text
  | .str t => t
  | .instant t => t.rfc3339
  | .object typeName _ fields => Value.objectText typeName fields
  | .frames entries => Text.join ", " (entries.map Frame.text)

/-- The short name of an object with these fields.  There is none for generic objects, and none if
the field that holds it is missing or null. -/
def ObjectKind.shortName? (kind : ObjectKind) (fields : Fields) : Option Text := do
  match ← fields.get? (← kind.nameField) with
  | .null => none
  | value => some value.plain

/-- The default text of a record. -/
def Record.text (r : Record) : Text :=
  r.eventType ++ " \x7b\n  startTime = " ++ r.startTime.rfc3339 ++
    "\n  endTime = " ++ r.endTime.rfc3339 ++ "\n" ++ fieldsText 1 r.fields ++ "\x7d"

end TraceText
