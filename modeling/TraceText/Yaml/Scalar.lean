import TraceText.Yaml.Cursor

/-!
# YAML scalars

Text is written plainly, between single or double quotes, or as a block of indented lines that are
kept or folded.  A reader begins at the first character of the scalar and ends behind its last.

## Main definitions

* `Yaml.Style` — how a scalar is written
* `Yaml.readPlain`, `Yaml.readQuoted`, `Yaml.readBlock` — the readers
-/

namespace TraceText.Yaml

/-- How a scalar is written. -/
inductive Style where
  | plain
  | singleQuoted
  | doubleQuoted
  /-- A block of lines that are kept. -/
  | literal
  /-- A block of lines that are folded. -/
  | folded
  deriving DecidableEq, Repr, Inhabited

/-! ## Plain scalars -/

/-- Whether a character separates the parts of a collection in brackets or braces. -/
def isFlowIndicator (c : Char) : Bool := [',', '[', ']', '{', '}'].contains c

/-- Whether a colon must not stand before this text in brackets or braces. -/
def forbidsColon : Text → Bool
  | [] => false
  | c :: _ => isFlowIndicator c || c == '?'

/-- The characters of a plain scalar up to a blank, a line break or an indicator. -/
def plainWord (inFlow : Bool) : Text → Option Text
  | [] => some []
  | c :: rest =>
    if isGap c then some []
    else if inFlow && c == ':' && forbidsColon rest then none
    else if c == ':' && endsWord rest || inFlow && isFlowIndicator c then some []
    else (plainWord inFlow rest).map (c :: ·)

/-- Whether a line of a gap is indented by a tab: a line after the first has a tab before the
column `indent`.  The first argument is the column in such a line. -/
def hasTabIndent (indent : Int) : Option Nat → Text → Bool
  | _, [] => false
  | column, c :: rest =>
    if isBreak c then hasTabIndent indent (some 0) rest
    else (c == '\t' && column.any fun n => decide ((n : Int) < indent)) ||
      hasTabIndent indent (column.map (· + 1)) rest

/-- A scalar that has been read. -/
structure ScalarReading where
  text : Text
  /-- Whether a line break follows the last word that was read. -/
  endsInBreak : Bool
  cursor : Cursor

/-- The rest of a plain scalar: words, with gaps between them.  A line that is indented less than
`indent` ends it, except in brackets or braces. -/
def plainFrom (inFlow : Bool) (indent : Int) :
    Nat → Text → Text → Bool → Cursor → Option ScalarReading
  | 0, _, _, _, _ => none
  | fuel + 1, text, gap, broken, c => do
    if c.atDocumentMark || c.rest.head? == some '#' then return ⟨text, broken, c⟩
    let word ← plainWord inFlow c.rest
    let c := c.steps word.length
    let text := if word = [] then text else text ++ gap ++ word
    let broken := broken && word == []
    match c.span isGap with
    | ([], c) => return ⟨text, broken, c⟩
    | (gap, c) =>
      if hasTabIndent indent none gap then none
      let broken := gap.any isBreak
      if !inFlow && (c.column : Int) < indent then return ⟨text, broken, c⟩
      plainFrom inFlow indent fuel text (foldGap gap) broken c

/-- A plain scalar. -/
def readPlain (inFlow : Bool) (indent : Int) (c : Cursor) : Option ScalarReading :=
  plainFrom inFlow indent (c.rest.length + 1) [] [] false c

/-! ## Quoted scalars -/

/-- Characters between single quotes up to a blank, a line break or the closing quote, and how many
characters they take. -/
def singleWord : Text → Text × Nat
  | [] => ([], 0)
  | '\'' :: '\'' :: rest =>
    let (word, size) := singleWord rest
    ('\'' :: word, size + 2)
  | c :: rest =>
    if c = '\'' ∨ isGap c then ([], 0)
    else
      let (word, size) := singleWord rest
      (c :: word, size + 1)

/-- The value of a hexadecimal digit. -/
def hexDigit? (c : Char) : Option Nat :=
  if c.isDigit then some (c.toNat - '0'.toNat)
  else if 'a' ≤ c ∧ c ≤ 'f' then some (c.toNat - 'a'.toNat + 10)
  else if 'A' ≤ c ∧ c ≤ 'F' then some (c.toNat - 'A'.toNat + 10)
  else none

/-- The character whose number is written in `size` hexadecimal digits. -/
def hexChar? (size : Nat) (t : Text) : Option Char := do
  let digits ← (t.take size).mapM hexDigit?
  let n := digits.foldl (fun n d => n * 16 + d) 0
  if digits.length = size ∧ n.isValidChar then some (Char.ofNat n) else none

/-- The characters that an escape sequence of one letter stands for. -/
def escapedChar? : Char → Option Char
  | '0' => some '\x00'
  | 'a' => some '\x07'
  | 'b' => some '\x08'
  | 't' | '\t' => some '\t'
  | 'n' => some '\n'
  | 'v' => some '\x0b'
  | 'f' => some '\x0c'
  | 'r' => some '\r'
  | 'e' => some '\x1b'
  | ' ' => some ' '
  | '"' => some '"'
  | '/' => some '/'
  | '\\' => some '\\'
  | 'N' => some '\u0085'
  | '_' => some '\u00a0'
  | 'L' => some '\u2028'
  | 'P' => some '\u2029'
  | _ => none

/-- How many hexadecimal digits follow the letter of an escape sequence, if any do. -/
def hexSize? : Char → Option Nat
  | 'x' => some 2
  | 'u' => some 4
  | 'U' => some 8
  | _ => none

/-- The character that an escape sequence stands for, given what follows the backslash, and how many
characters that takes. -/
def escape? : Text → Option (Char × Nat)
  | [] => none
  | c :: rest =>
    match hexSize? c with
    | some size => (hexChar? size rest).map (·, size + 1)
    | none => (escapedChar? c).map (·, 1)

/-- Characters between double quotes up to a blank, a line break or the closing quote, how many
characters they take, and whether they end with an escaped line break. -/
def doubleWord : Nat → Text → Option (Text × Nat × Bool)
  | 0, _ => none
  | _ + 1, [] => some ([], 0, false)
  | fuel + 1, c :: rest =>
    if c = '"' ∨ isGap c then some ([], 0, false)
    else if c = '\\' then
      if rest.head?.any isBreak then some ([], 2, true)
      else do
        let (escaped, taken) ← escape? rest
        let (word, size, broken) ← doubleWord fuel (rest.drop taken)
        return (escaped :: word, taken + 1 + size, broken)
    else do
      let (word, size, broken) ← doubleWord fuel rest
      return (c :: word, size + 1, broken)

/-- Characters between quotes, by the kind of quotes. -/
def quotedWord (double : Bool) (t : Text) : Option (Text × Nat × Bool) :=
  if double then doubleWord (t.length + 1) t
  else
    let (word, size) := singleWord t
    some (word, size, false)

/-- The rest of a quoted scalar: words, with gaps between them, up to the closing quote.  Behind an
escaped line break the blanks are dropped and further line breaks kept. -/
def quotedFrom (double : Bool) : Nat → Text → Cursor → Option ScalarReading
  | 0, _, _ => none
  | fuel + 1, text, c => do
    if c.atDocumentMark || c.rest == [] then none
    let (word, size, broken) ← quotedWord double c.rest
    let c := c.steps size
    if c.rest.head? = some (if double then '"' else '\'') then
      return ⟨text ++ word, false, c.step⟩
    let (gap, c) := c.span isGap
    let gap := if broken then gap.filter isBreak else foldGap gap
    quotedFrom double fuel (text ++ word ++ gap) c

/-- A quoted scalar. -/
def readQuoted (double : Bool) (c : Cursor) : Option ScalarReading :=
  quotedFrom double (c.rest.length + 1) [] c.step

/-! ## Blocks of lines -/

/-- What happens to the line breaks at the end of a block. -/
inductive Chomping where
  /-- None is kept. -/
  | strip
  /-- One is kept. -/
  | clip
  /-- All are kept. -/
  | keep
  deriving DecidableEq, Repr

/-- How the line breaks at the end of a block are treated, if it is told. -/
def readChomping (c : Cursor) : Option (Chomping × Cursor) :=
  match c.rest with
  | '+' :: _ => some (.keep, c.step)
  | '-' :: _ => some (.strip, c.step)
  | _ => none

/-- The indentation of a block against what encloses it, if it is told; it must not be zero. -/
def readIncrement (c : Cursor) : Option (Option Nat × Cursor) :=
  match c.rest with
  | d :: _ =>
    if d = '0' then none
    else if d.isDigit then some (some (d.toNat - '0'.toNat), c.step)
    else some (none, c)
  | [] => some (none, c)

/-- What stands before the lines of a block: treatment of line breaks and indentation in any
order. -/
def readBlockHeader (c : Cursor) : Option (Chomping × Option Nat × Cursor) :=
  match readChomping c with
  | some (chomping, c) => do
    let (increment, c) ← readIncrement c
    return (chomping, increment, c)
  | none => do
    let (increment, c) ← readIncrement c
    match increment, readChomping c with
    | some n, some (chomping, c) => return (chomping, some n, c)
    | increment, _ => return (.clip, increment, c)

/-- Indentation and empty lines of a block: the line breaks, the largest column that was reached,
and the place behind.  As long as the indentation is not known, all spaces belong to it; a tab never
does. -/
def blockGap (indent : Option Nat) : Nat → Text → Nat → Cursor → Option (Text × Nat × Cursor)
  | 0, _, _, _ => none
  | fuel + 1, breaks, widest, c =>
    let spaces := (c.rest.takeWhile (· == ' ')).length
    let c := c.steps <| match indent with
      | some n => min spaces (n - c.column)
      | none => spaces
    let widest := max widest c.column
    match c.rest with
    | [] => some (breaks, widest, c)
    | x :: _ =>
      -- a tab can stand where the text of a line may, but it does not indent
      if x = '\t' && (indent.all fun n => decide (c.column < n)) then none
      else if isBreak x then blockGap indent fuel (breaks ++ [x]) widest c.step
      else some (breaks, widest, c)

/-- The line breaks between two lines of a block: `first`, those of empty lines, and whether the
lines may be folded. -/
def blockJoint (first empty : Text) (folds : Bool) : Text :=
  if folds && first == ['\n'] then (if empty = [] then [' '] else empty) else first ++ empty

/-- The lines of a block from here on.  `first` and `empty` are the line breaks since the last line,
which began with a blank or not. -/
def blockLines (literal : Bool) (chomping : Chomping) (indent : Nat) :
    Nat → Text → Text → Text → Bool → Cursor → Option ScalarReading
  | 0, _, _, _, _, _ => none
  | fuel + 1, text, first, empty, blankBefore, c =>
    if c.column = indent ∧ c.rest ≠ [] then do
      let blank := c.rest.head?.any isBlank
      let joint := blockJoint first empty (!literal && !blankBefore && !blank)
      let (line, c) := c.span fun x => !isBreak x
      let first := c.rest.take 1
      let (empty, _, c) ← blockGap (some indent) (c.rest.length + 1) [] 0 c.step
      blockLines literal chomping indent fuel (text ++ joint ++ line) first empty blank c
    else
      let ending := match chomping with
        | .strip => []
        | .clip => first
        | .keep => first ++ empty
      some ⟨text ++ ending, true, c⟩

/-- A block of lines inside of what is indented to the column `parent`, which is negative at the
outermost level.  The indentation that is not told is that of the first line that is not empty. -/
def readBlock (literal : Bool) (parent : Int) (c : Cursor) : Option ScalarReading := do
  let (chomping, increment, c) ← readBlockHeader c.step
  let c := (c.skip isBlank).skipComment
  if !endsLine c.rest then none
  let c := c.step
  let told := increment.map fun n => (max parent 0).toNat + n
  let (empty, widest, c) ← blockGap told (c.rest.length + 1) [] 0 c
  let indent := told.getD (max widest (max (parent + 1).toNat 1))
  blockLines literal chomping indent (c.rest.length + 1) [] [] empty false c

end TraceText.Yaml
