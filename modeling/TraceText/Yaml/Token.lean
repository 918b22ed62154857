import TraceText.Decimal.Basic
import TraceText.Text.Utf8
import TraceText.Yaml.Scalar

/-!
# Tokens of YAML

A token is an indicator, a name, a tag, a directive or a scalar.  Indentation counts as brackets
around block collections.

## Main definitions

* `Yaml.Token` — the tokens
* `Yaml.readName`, `Yaml.readTag`, `Yaml.readDirective` — readers of the longer ones
-/

namespace TraceText.Yaml

/-- The tag of a node: a suffix, and a handle that stands for what precedes it. -/
structure Tag where
  /-- Without a handle the suffix is the whole tag. -/
  handle : Text
  suffix : Text
  deriving DecidableEq, Repr, Inhabited

/-- A directive before a document. -/
inductive Directive where
  | version (major minor : Nat)
  /-- What a handle of tags stands for. -/
  | handle (handle start : Text)
  deriving DecidableEq, Repr, Inhabited

/-- The parts of a YAML text. -/
inductive Token where
  | directive (d : Directive)
  | documentStart
  | documentEnd
  /-- A block collection begins, as deep as its first entry. -/
  | blockSequenceStart
  | blockMappingStart
  | blockEnd
  | flowSequenceStart
  | flowSequenceEnd
  | flowMappingStart
  | flowMappingEnd
  | blockEntry
  | flowEntry
  | key
  | value
  /-- A name that stands for the node anchored by a number. -/
  | link (number : Nat)
  | anchor (number : Nat)
  | tag (t : Tag)
  | scalar (style : Style) (text : Text)
  deriving DecidableEq, Repr, Inhabited

/-- Whether a character can stand in a name. -/
def isNameChar (c : Char) : Bool := c.isAlphanum || c == '_' || c == '-'

/-- Whether a character can stand behind the name of an anchor or alias. -/
def endsName : Text → Bool
  | [] => true
  | c :: _ => isGap c || ['?', ':', ',', ']', '\x7d', '%', '@', '\x60'].contains c

/-- The name of an anchor or alias behind its indicator. -/
def readName (c : Cursor) : Option (Text × Cursor) :=
  let (name, c) := c.step.span isNameChar
  if name ≠ [] ∧ endsName c.rest then some (name, c) else none

/-! ## Tags -/

/-- Whether a character stands for itself in a tag. -/
def isTagChar (verbatim : Bool) (c : Char) : Bool :=
  isNameChar c ||
    [';', '/', '?', ':', '@', '&', '=', '+', '$', '.', '!', '~', '*', '\'', '(', ')'].contains c ||
    verbatim && [',', '[', ']'].contains c

/-- A byte written as a percent sign and two hexadecimal digits. -/
def percentByte : Text → Option (UInt8 × Text)
  | '%' :: a :: b :: rest => do return ((← hexDigit? a) * 16 + (← hexDigit? b) |>.toUInt8, rest)
  | _ => none

/-- The number of bytes of a character, by its first one. -/
def encodedSize (b : UInt8) : Option Nat :=
  if b < 0x80 then some 1
  else if 0xC0 ≤ b ∧ b < 0xE0 then some 2
  else if 0xE0 ≤ b ∧ b < 0xF0 then some 3
  else if 0xF0 ≤ b ∧ b < 0xF8 then some 4
  else none

/-- So many bytes, each written with a percent sign. -/
def percentBytes : Nat → Text → Option (List UInt8 × Text)
  | 0, t => some ([], t)
  | n + 1, t => do
    let (b, t) ← percentByte t
    let (bytes, t) ← percentBytes n t
    return (b :: bytes, t)

/-- A character of which each byte is written with a percent sign.  Bytes that denote no character
are accepted if they are as many as the first one announces. -/
def percentChar (t : Text) : Option (Text × Text) := do
  let (first, _) ← percentByte t
  let (bytes, t) ← percentBytes (← encodedSize first) t
  if bytes.tail.all fun b => 0x80 ≤ b && b < 0xC0 then
    return ((Utf8.decode? bytes).getD ['\uFFFD'], t)
  else none

/-- The characters of a tag, and what follows them. -/
def tagChars (verbatim : Bool) : Nat → Text → Option (Text × Text)
  | 0, t => some ([], t)
  | _ + 1, [] => some ([], [])
  | fuel + 1, c :: rest =>
    if c = '%' then do
      let (decoded, rest) ← percentChar (c :: rest)
      let (more, rest) ← tagChars verbatim fuel rest
      return (decoded ++ more, rest)
    else if isTagChar verbatim c then do
      let (more, rest) ← tagChars verbatim fuel rest
      return (c :: more, rest)
    else some ([], c :: rest)

/-- The characters of a tag from here on. -/
def readTagChars (verbatim : Bool) (c : Cursor) : Option (Text × Cursor) := do
  let (chars, rest) ← tagChars verbatim c.rest.length c.rest
  return (chars, c.steps (c.rest.length - rest.length))

/-- Exclamation mark, name, and possibly a second exclamation mark. -/
def readHandle (c : Cursor) : Option (Text × Cursor) :=
  match c.rest with
  | '!' :: _ =>
    let (name, c) := c.step.span isNameChar
    match c.rest with
    | '!' :: _ => some ('!' :: name ++ ['!'], c.step)
    | _ => some ('!' :: name, c)
  | _ => none

/-- Whether a tag ends here. -/
def endsTag (inFlow : Bool) (t : Text) : Bool := endsWord t || inFlow && t.head? == some ','

/-- A tag: one between angle brackets, one with a handle, or one with the mark `!` only. -/
def readTag (inFlow : Bool) (c : Cursor) : Option (Tag × Cursor) := do
  let (tag, c) ← match c.rest with
    | '!' :: '<' :: _ => do
      let (suffix, c) ← readTagChars true (c.steps 2)
      if suffix = [] ∨ c.rest.head? ≠ some '>' then none
      pure (Tag.mk [] suffix, c.step)
    | _ => do
      let (handle, c) ← readHandle c
      let (suffix, c) ← readTagChars false c
      if 1 < handle.length ∧ handle.getLast? = some '!' then
        if suffix = [] then none
        pure (Tag.mk handle suffix, c)
      else
        let suffix := handle.tail ++ suffix
        pure (if suffix = [] then Tag.mk [] ['!'] else Tag.mk ['!'] suffix, c)
  if endsTag inFlow c.rest then return (tag, c) else none

/-! ## Directives -/

/-- A number of a version, of at most nine digits. -/
def readVersionNumber (c : Cursor) : Option (Nat × Cursor) :=
  let (digits, c) := c.span Char.isDigit
  if digits ≠ [] ∧ digits.length ≤ 9 then some (Decimal.value digits, c)
  else none

/-- The version that a directive names. -/
def readVersion (c : Cursor) : Option (Directive × Cursor) := do
  let (major, c) ← readVersionNumber (c.skip isBlank)
  if c.rest.head? ≠ some '.' then none
  let (minor, c) ← readVersionNumber c.step
  return (.version major minor, c)

/-- The handle that a directive declares. -/
def readHandleDirective (c : Cursor) : Option (Directive × Cursor) := do
  let (handle, c) ← readHandle (c.skip isBlank)
  if handle.getLast? ≠ some '!' then none
  if !c.rest.head?.any isBlank then none
  let (start, c) ← readTagChars true (c.skip isBlank)
  if start = [] ∨ !endsWord c.rest then none
  return (.handle handle start, c)

/-- A directive, with the line that it ends. -/
def readDirective (c : Cursor) : Option (Directive × Cursor) := do
  let (name, c) := c.step.span isNameChar
  if !endsWord c.rest then none
  let (d, c) ←
    if name = "YAML".toList then readVersion c
    else if name = "TAG".toList then readHandleDirective c
    else none
  let c := (c.skip isBlank).skipComment
  if endsLine c.rest then return (d, c.step) else none

end TraceText.Yaml
