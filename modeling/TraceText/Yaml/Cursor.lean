import TraceText.Text.Basic

/-!
# Places in a YAML text

Reading YAML depends on columns and lines, so what remains of a text is kept together with the
place at which it begins.

## Main definitions

* `Yaml.isBlank`, `Yaml.isBreak` — the characters between words
* `Yaml.unifyBreaks` — a text with one character for each end of a line
* `Yaml.Cursor` — what remains of a text, and where it begins
* `Yaml.foldBreaks` — the line breaks between words, folded
-/

namespace TraceText.Yaml

/-- Whether a character is a space or a tab. -/
def isBlank (c : Char) : Bool := c == ' ' || c == '\t'

/-- Whether a character ends a line, once line ends are unified. -/
def isBreak (c : Char) : Bool := c == '\n' || c == '\u2028' || c == '\u2029'

/-- Whether a character lies between words. -/
def isGap (c : Char) : Bool := isBlank c || isBreak c

/-- Whether no word begins here: at a blank, at the end of a line or of the text. -/
def endsWord : Text → Bool
  | [] => true
  | c :: _ => isGap c

/-- Whether nothing more stands in this line. -/
def endsLine : Text → Bool
  | [] => true
  | c :: _ => isBreak c

/-- A text with a line feed for every carriage return, next line, and pair of carriage return and
line feed. -/
def unifyBreaks : Text → Text
  | '\r' :: '\n' :: rest => '\n' :: unifyBreaks rest
  | c :: rest => (if c = '\r' ∨ c = '\u0085' then '\n' else c) :: unifyBreaks rest
  | [] => []

/-- What remains of a text, and the place at which it begins. -/
structure Cursor where
  rest : Text
  /-- The number of characters before. -/
  index : Nat
  /-- The number of lines before. -/
  line : Nat
  /-- The number of characters before in the same line. -/
  column : Nat
  deriving DecidableEq, Repr, Inhabited

namespace Cursor

/-- The beginning of a text. -/
def start (t : Text) : Cursor := ⟨t, 0, 0, 0⟩

/-- The place behind the next character. -/
def step (c : Cursor) : Cursor :=
  match c.rest with
  | [] => c
  | x :: rest =>
    if isBreak x then ⟨rest, c.index + 1, c.line + 1, 0⟩
    else ⟨rest, c.index + 1, c.line, c.column + 1⟩

/-- The place behind the next `n` characters. -/
def steps : Nat → Cursor → Cursor
  | 0, c => c
  | n + 1, c => steps n c.step

/-- The longest piece from here on whose characters satisfy `p`, and the place behind it. -/
def span (p : Char → Bool) (c : Cursor) : Text × Cursor :=
  let piece := c.rest.takeWhile p
  (piece, steps piece.length c)

/-- The place behind all characters that satisfy `p`. -/
def skip (p : Char → Bool) (c : Cursor) : Cursor := (c.span p).2

/-- The place behind a comment, if one begins here. -/
def skipComment (c : Cursor) : Cursor :=
  match c.rest with
  | '#' :: _ => c.skip fun x => !isBreak x
  | _ => c

/-- The place behind a given text, if it stands here as a word at the beginning of a line. -/
def stripLineStart (word : Text) (c : Cursor) : Option Cursor :=
  match Text.stripStart word c.rest with
  | some after =>
    if c.column = 0 ∧ endsWord after then some (steps word.length c) else none
  | none => none

/-- The mark at which a document starts. -/
def documentStart : Text := "---"

/-- The mark at which a document ends. -/
def documentEnd : Text := "..."

/-- Whether a document starts or ends here. -/
def atDocumentMark (c : Cursor) : Bool :=
  (c.stripLineStart documentStart).isSome || (c.stripLineStart documentEnd).isSome

end Cursor

/-- Line breaks between words, folded: a single one to a space, more to all but the first.  Breaks
other than a line feed are kept. -/
def foldBreaks : Text → Text
  | [] => []
  | ['\n'] => [' ']
  | '\n' :: rest => rest
  | breaks => breaks

/-- Blanks and line breaks between words, as they count for the text: blanks at the end and at the
beginning of lines are dropped, and the line breaks folded. -/
def foldGap (gap : Text) : Text :=
  let breaks := gap.filter isBreak
  if breaks = [] then gap else foldBreaks breaks

end TraceText.Yaml
