import TraceText.Template.Resolve

/-!
# Records through templates

Every placeholder of a template is replaced by the text of what it shows, transformed by its
parameters from left to right.  What is put in place of a placeholder is not looked at again.

## Main definitions

* `RenderError` — a date pattern meets something that is no instant
* `Template.valueOf` — what a placeholder shows of a record
* `Placeholder.substitute` — the text that takes the place of a placeholder
* `Template.render` — the text of a record
-/

namespace TraceText

/-- A date pattern is applied to a value that is no instant. -/
structure RenderError where
  placeholder : Text
  found : Text
  deriving DecidableEq, Repr

/-- The wording of a misapplied date pattern. -/
def RenderError.message (e : RenderError) : Text :=
  "placeholder '" ++ e.placeholder ++ "' applies a date pattern to a non-timestamp value: "
    ++ e.found

/-- A time of the record itself, which a path names if it has one step. -/
def Record.ownTime? (r : Record) (path : FieldPath) : Option Resolved :=
  if path.rest ≠ [] then none
  else if path.first = "startTime".toList then some (.instant r.startTime)
  else if path.first = "endTime".toList then some (.instant r.endTime)
  else none

/-- What a placeholder of a template shows of a record.  The times of the record stand in for
fields of their names only where there are none. -/
def Template.valueOf (t : Template) (r : Record) : Reference → Option Resolved
  | .eventName => some (.text r.eventType)
  | .remaining => some (.text (compactFields (fun name => !t.references name) r.fields))
  | .field path =>
    if (r.fields.get? path.first).isNone then r.ownTime? path
    else r.fields.resolve? path false

/-- The text that takes the place of a placeholder for a given value.  A date pattern comes first
and needs an instant; a value that is missing is never transformed. -/
def Placeholder.substitute (p : Placeholder) : Option Resolved → Except RenderError Text
  | none => .ok (if p.isOptional then [] else missingText)
  | some value =>
    let finish (t : Text) (parameters : List Parameter) : Text :=
      parameters.foldl (fun t parameter => parameter.apply t) t
    match p.parameters with
    | .timestamp f :: rest =>
      match value with
      | .instant t => .ok (finish (f.write t) rest)
      | _ => .error ⟨p.source, value.plain⟩
    | parameters => .ok (finish value.plain parameters)

/-- The text of segments of a template, followed by a tail.  The leftmost fault is reported. -/
def Template.renderSegments (t : Template) (r : Record) (tail : Text) :
    List (Text × Placeholder) → Except RenderError Text
  | [] => .ok tail
  | (literal, placeholder) :: rest => do
    let text ← placeholder.substitute (t.valueOf r placeholder.reference)
    return literal ++ text ++ (← renderSegments t r tail rest)

/-- The text of a record through a template. -/
def Template.render (t : Template) (r : Record) : Except RenderError Text :=
  t.renderSegments r t.tail t.segments

end TraceText
