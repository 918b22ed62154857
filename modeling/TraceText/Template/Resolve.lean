import TraceText.Record.Print
import TraceText.Template.Basic

/-!
# Values of fields in templates

A path leads through nested objects to a field, whose value is shown over several lines or in one.
A field that is missing, null, or behind something that is no object has no value.

## Main definitions

* `Resolved` — a value that is present
* `Value.render`, `compactFields` — the value of a field, the fields of an object in one line
* `Fields.resolve?` — the field at the end of a path
-/

namespace TraceText

/-- A value that is present.  Instants are kept, so that a date pattern can show them. -/
inductive Resolved where
  | text (t : Text)
  | instant (t : Instant)
  | bool (b : Bool)
  | int (i : Int)
  | natural (n : Nat)
  | float (x : Binary64)
  deriving DecidableEq, Inhabited

/-- The text of a value. -/
def Resolved.plain : Resolved → Text
  | text t => t
  | instant t => t.rfc3339
  | bool b => boolText b
  | int i => Decimal.ofInt i
  | natural n => Decimal.digits n
  | float x => x.text

/-- A stack trace, over indented lines or in one line between brackets. -/
def framesText (oneLine : Bool) (entries : List Frame) : Text :=
  let texts := entries.map Frame.text
  if oneLine then "[" ++ Text.join ", " texts ++ "]"
  else if texts.isEmpty then ""
  else "    " ++ Text.join "\n    " texts

/-- A field in one line, a missing value shown as `null`. -/
def compactField (name : Text) (value : Option Resolved) : Text :=
  match value with
  | some v => name ++ ":" ++ v.plain
  | none => name ++ ":null"

mutual

/-- The value of a field, in one line or not.  In one line a generic object lists its fields, and
any other shows its short name. -/
def Value.render (oneLine : Bool) : Value → Option Resolved
  | .null => none
  | .str t => some (.text (if oneLine then t.map fun c => if c = '\n' then ' ' else c else t))
  | .bool b => some (.bool b)
  | .int i declared =>
    match (Value.int i declared).decoded? with
    | some t => some (.instant t)
    | none => some (.int i)
  | .natural n => some (.natural n)
  | .float x => some (.float x)
  | .instant t => some (.instant t)
  | .frames entries => some (.text (framesText oneLine entries))
  | .object typeName kind fields =>
    if !oneLine then some (.text (Value.objectText typeName fields))
    else if kind = .generic then some (.text ("[" ++ Text.join ", " (compactEntries fields) ++ "]"))
    else (kind.shortName? fields).map .text

/-- All fields, each in one line. -/
def compactEntries : List (Text × Value) → List Text
  | [] => []
  | (name, value) :: rest => compactField name (value.render true) :: compactEntries rest

end

/-- The fields whose names are included, in their order, separated by commas. -/
def compactFields (isIncluded : Text → Bool) (fields : Fields) : Text :=
  Text.join ", " (compactEntries (fields.filter fun field => isIncluded field.1))

/-- The field at the end of a path, if every step but the last leads to an object. -/
def Fields.find? (fields : Fields) (first : Text) : List Text → Option Value
  | [] => fields.get? first
  | next :: rest =>
    match fields.get? first with
    | some (.object _ _ inner) => Fields.find? inner next rest
    | _ => none

/-- The value at the end of a path, in one line or not. -/
def Fields.resolve? (fields : Fields) (path : FieldPath) (oneLine : Bool) : Option Resolved :=
  (fields.find? path.first path.rest).bind (Value.render oneLine)

end TraceText
