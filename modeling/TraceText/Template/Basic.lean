import TraceText.Template.Marker
import TraceText.Template.Parameter
import TraceText.Text.Blank

/-!
# Templates

A template is literal text with placeholders.  A placeholder names what it shows, and then lists
the parameters that transform it, separated by commas.

## Main definitions

* `FieldPath` — a dotted path to a field
* `Reference`, `Placeholder`, `Template` — the parts of a template
* `Template.compile` — the template that a text denotes, its date patterns bound to a zone
* `Template.references` — whether a placeholder begins at a given field
-/

namespace TraceText

/-- A dotted path to a field, through nested objects. -/
structure FieldPath where
  /-- The field of the record at which the path begins. -/
  first : Text
  /-- The fields of nested objects through which it leads. -/
  rest : List Text
  deriving DecidableEq, Repr, Inhabited

namespace FieldPath

/-- All steps of a path. -/
def segments (p : FieldPath) : List Text := p.first :: p.rest

/-- The path as it is written. -/
def text (p : FieldPath) : Text := Text.join "." p.segments

/-- The path that a text denotes, blanks around it ignored; a blank text denotes none. -/
def parse (t : Text) : Option FieldPath :=
  let trimmed := Text.trim t
  if trimmed = [] then none
  else match Text.splitOn '.' trimmed with
    | first :: rest => some ⟨first, rest⟩
    | [] => none

end FieldPath

/-- What a placeholder shows. -/
inductive Reference where
  /-- The type of the event. -/
  | eventName
  /-- All fields that no placeholder of the template names. -/
  | remaining
  | field (path : FieldPath)
  deriving DecidableEq, Repr, Inhabited

/-- A reference with the parameters that transform its text. -/
structure Placeholder where
  /-- The placeholder as it is written. -/
  source : Text
  reference : Reference
  parameters : List Parameter
  deriving DecidableEq, Inhabited

/-- Whether a placeholder shows nothing where there is no value. -/
def Placeholder.isOptional (p : Placeholder) : Bool := p.parameters.any Parameter.isOptional

/-- Literal text with placeholders. -/
structure Template where
  /-- The template as it is written. -/
  source : Text
  /-- Literals, each with the placeholder behind it. -/
  segments : List (Text × Placeholder)
  /-- The literal behind the last placeholder. -/
  tail : Text
  deriving DecidableEq, Inhabited

namespace Reference

/-- The reference that a name denotes; a blank name denotes none. -/
def parse (name : Text) : Option Reference :=
  if name = "eventName".toList then some eventName
  else if name = "...".toList ∨ name = "remaining".toList then some remaining
  else (FieldPath.parse name).map field

/-- The field of the record at which a reference begins. -/
def fieldName? : Reference → Option Text
  | field path => some path.first
  | _ => none

end Reference

namespace Placeholder

/-- The parameters that tokens denote.  Only the first of all may be a date pattern. -/
def parseParameters (zone : Zone) (isFirst : Bool) :
    List Text → Except TemplateError (List Parameter)
  | [] => .ok []
  | part :: rest => do
    let token := Text.trim part
    let parameter ← Parameter.parse zone token
    if !isFirst && parameter.isTimestamp then throw (.misplacedTimestamp token)
    return parameter :: (← parseParameters zone false rest)

/-- The placeholder that the body of a marker denotes. -/
def parse (zone : Zone) (body : Text) : Except TemplateError Placeholder := do
  let parts := Text.splitOn ',' body
  match Reference.parse (Text.trim (parts.headD [])) with
  | none => throw (.emptyFieldPath body)
  | some reference => return ⟨body, reference, ← parseParameters zone true parts.tail⟩

end Placeholder

namespace Template

/-- The segments of a template, from literals with the bodies of the markers behind them. -/
def parseSegments (zone : Zone) :
    List (Text × Text) → Except TemplateError (List (Text × Placeholder))
  | [] => .ok []
  | (literal, body) :: rest => do
    let placeholder ← Placeholder.parse zone body
    return (literal, placeholder) :: (← parseSegments zone rest)

/-- The template that a text denotes, its date patterns bound to a zone.  The leftmost fault is
reported. -/
def compile (zone : Zone) (source : Text) : Except TemplateError Template := do
  let (segments, tail) := Marker.split source
  return ⟨source, ← parseSegments zone segments, tail⟩

/-- The placeholders of a template, in order. -/
def placeholders (t : Template) : List Placeholder := t.segments.map (·.2)

/-- Whether some placeholder of the template begins at a field of this name. -/
def references (t : Template) (name : Text) : Bool :=
  t.placeholders.any fun p => decide (p.reference.fieldName? = some name)

end Template

end TraceText
