import TraceText.Yaml.Token

/-!
# The tokens of a YAML text

In block collections a colon makes a key of the scalar, alias or collection before it in the same
line, so where a key may begin is remembered until the colon is seen or ruled out.

## Main definitions

* `Yaml.KeyStart` — where a key may have begun
* `Yaml.TokenStream` — the tokens so far, and what decides about the next one
* `Yaml.tokens` — all tokens of a text
-/

namespace TraceText.Yaml

/-- Where a key may have begun. -/
structure KeyStart where
  /-- Whether a key has to begin there, as nothing else can stand at that column. -/
  isRequired : Bool
  /-- The number of tokens before. -/
  place : Nat
  cursor : Cursor

/-- The greatest distance from the beginning of a key to its colon. -/
def KeyStart.reach : Nat := 1024

/-- Whether a colon at a cursor is too far away to belong to the key: in a later line, or beyond
reach. -/
def KeyStart.isStale (k : KeyStart) (c : Cursor) : Bool :=
  k.cursor.line < c.line || k.cursor.index + reach < c.index

/-- The tokens so far, and what decides about the next one. -/
structure TokenStream where
  cursor : Cursor
  tokens : Array Token
  /-- The columns of the enclosing block collections, innermost first. -/
  indents : List Nat
  /-- Whether a key may begin at the next token. -/
  keyAllowed : Bool
  /-- Where a key may have begun, at the current level of brackets and braces. -/
  key : Option KeyStart
  /-- The same for each of the levels around it, innermost first. -/
  outerKeys : List (Option KeyStart)
  /-- The names of anchors, each with the number of the last anchor of this name. -/
  names : List (Text × Nat)

namespace TokenStream

/-- The stream at the beginning of a text. -/
def start (t : Text) : TokenStream := ⟨.start t, #[], [], true, none, [], []⟩

/-- Whether the stream is inside of brackets or braces. -/
def inFlow (s : TokenStream) : Bool := !s.outerKeys.isEmpty

/-- The column of the innermost block collection; it is negative outside of all. -/
def indent (s : TokenStream) : Int :=
  match s.indents with
  | [] => -1
  | column :: _ => column

/-- A token added. -/
def push (s : TokenStream) (t : Token) : TokenStream := { s with tokens := s.tokens.push t }

/-- A token added that takes the next `n` characters. -/
def pushIndicator (s : TokenStream) (n : Nat) (t : Token) : TokenStream :=
  { s.push t with cursor := s.cursor.steps n }

/-- A token put before those from `place` on. -/
def insert (s : TokenStream) (place : Nat) (t : Token) : TokenStream :=
  { s with tokens := (s.tokens.take place).push t ++ s.tokens.drop place }

/-! ## Keys -/

/-- A possible key dropped, unless one has to begin there. -/
def dropKey (s : TokenStream) : Option TokenStream :=
  if s.key.any KeyStart.isRequired then none else some { s with key := none }

/-- The place remembered as one where a key may begin, if it may. -/
def markKey (s : TokenStream) : Option TokenStream :=
  if s.keyAllowed then do
    let s ← s.dropKey
    let isRequired := !s.inFlow && s.indent == s.cursor.column
    return { s with key := some ⟨isRequired, s.tokens.size, s.cursor⟩ }
  else some s

/-- A possible key without those that are stale; a required key must not be. -/
def freshKey (c : Cursor) : Option KeyStart → Option (Option KeyStart)
  | none => some none
  | some k => if k.isStale c then (if k.isRequired then none else some none) else some (some k)

/-- All stale keys dropped. -/
def dropStaleKeys (s : TokenStream) : Option TokenStream := do
  return { s with
    key := ← freshKey s.cursor s.key
    outerKeys := ← s.outerKeys.mapM (freshKey s.cursor) }

/-! ## Indentation -/

/-- A block collection begun at a column that is deeper than the enclosing one; its token is put at
`place`. -/
def openBlock (s : TokenStream) (column place : Nat) (t : Token) : TokenStream :=
  if !s.inFlow && s.indent < column then
    { s.insert place t with indents := column :: s.indents }
  else s

/-- The number of block collections deeper than a column. -/
def countDeeper (column : Int) (indents : List Nat) : Nat :=
  (indents.takeWhile fun (indent : Nat) => decide (column < indent)).length

/-- All block collections ended that are deeper than a column. -/
def closeBlocks (s : TokenStream) (column : Int) : TokenStream :=
  if s.inFlow then s
  else
    let n := countDeeper column s.indents
    { s with
      indents := s.indents.drop n
      tokens := s.tokens ++ List.replicate n Token.blockEnd }

/-! ## Steps between and at tokens -/

/-- The mark that may begin a line. -/
def byteOrderMark : Char := '\uFEFF'

/-- Blanks, comments and line ends passed.  A tab is no blank where a key may begin in a block
collection. -/
def skipGapFrom : Nat → TokenStream → TokenStream
  | 0, s => s
  | fuel + 1, s =>
    let c := if s.cursor.column = 0 ∧ s.cursor.rest.head? = some byteOrderMark then s.cursor.step
      else s.cursor
    let c := c.skip fun x => x == ' ' || (s.inFlow || !s.keyAllowed) && x == '\t'
    let c := c.skipComment
    -- in a block collection every new line may begin with a key
    if c.rest.head?.any isBreak then
      skipGapFrom fuel { s with cursor := c.step, keyAllowed := s.keyAllowed || !s.inFlow }
    else { s with cursor := c }

/-- Everything before the next token passed, with the ends of block collections. -/
def skipGap (s : TokenStream) : Option TokenStream := do
  let s ← (skipGapFrom (s.cursor.rest.length + 1) s).dropStaleKeys
  return s.closeBlocks s.cursor.column

/-- A document mark or a directive, which ends all block collections. -/
def atDocumentLevel (s : TokenStream) : Option TokenStream := do
  let s ← (s.closeBlocks (-1)).dropKey
  return { s with keyAllowed := false }

/-- A directive. -/
def pushDirective (s : TokenStream) : Option TokenStream := do
  let s ← s.atDocumentLevel
  let (d, c) ← readDirective s.cursor
  return { s.push (.directive d) with cursor := c }

/-- A bracket or brace that opens. -/
def pushOpening (s : TokenStream) (t : Token) : Option TokenStream := do
  let s ← s.markKey
  return { s.pushIndicator 1 t with
    key := none, outerKeys := s.key :: s.outerKeys, keyAllowed := true }

/-- A bracket or brace that closes. -/
def pushClosing (s : TokenStream) (t : Token) : Option TokenStream := do
  let s ← s.dropKey
  let s := { s.pushIndicator 1 t with keyAllowed := false }
  match s.outerKeys with
  | [] => return s
  | key :: outerKeys => return { s with key := key, outerKeys := outerKeys }

/-- A comma. -/
def pushFlowEntry (s : TokenStream) : Option TokenStream := do
  let s ← s.dropKey
  return { s.pushIndicator 1 .flowEntry with keyAllowed := true }

/-- An indicator that may begin a block collection; it can stand only where a key may begin. -/
def pushBlockIndicator (s : TokenStream) (collection t : Token) (keyAllowed : Bool) :
    Option TokenStream := do
  if !s.inFlow && !s.keyAllowed then none
  let s ← (s.openBlock s.cursor.column s.tokens.size collection).dropKey
  return { s.pushIndicator 1 t with keyAllowed := keyAllowed }

/-- A colon: it makes a key of what stands before it, or belongs to a key with its own indicator. -/
def pushValue (s : TokenStream) : Option TokenStream :=
  match s.key with
  | some k =>
    -- the key indicator goes where the key began, and the start of a new mapping before it
    let s := (s.insert k.place .key).openBlock k.cursor.column k.place .blockMappingStart
    some { s.pushIndicator 1 .value with key := none, keyAllowed := false }
  | none => s.pushBlockIndicator .blockMappingStart .value (!s.inFlow)

/-- An anchor.  Its number is that of the names that are known before it. -/
def pushAnchor (s : TokenStream) : Option TokenStream := do
  let s ← s.markKey
  let (name, c) ← readName s.cursor
  let number := s.names.length
  let others := s.names.filter fun known => decide (known.1 ≠ name)
  return { s.push (.anchor number) with
    cursor := c, keyAllowed := false, names := (name, number) :: others }

/-- An alias, whose name must be known. -/
def pushAlias (s : TokenStream) : Option TokenStream := do
  let s ← s.markKey
  let (name, c) ← readName s.cursor
  return { s.push (.link (← s.names.lookup name)) with cursor := c, keyAllowed := false }

/-- A tag. -/
def pushTag (s : TokenStream) : Option TokenStream := do
  let s ← s.markKey
  let (tag, c) ← readTag s.inFlow s.cursor
  return { s.push (.tag tag) with cursor := c, keyAllowed := false }

/-- A block of lines. -/
def pushBlock (s : TokenStream) (style : Style) : Option TokenStream := do
  let s ← s.dropKey
  let r ← readBlock (style == .literal) s.indent s.cursor
  return { s.push (.scalar style r.text) with cursor := r.cursor, keyAllowed := true }

/-- A scalar that can be a key.  After a plain one that is followed by a line break, a key may
begin. -/
def pushScalar (s : TokenStream) (style : Style) (read : Cursor → Option ScalarReading) :
    Option TokenStream := do
  let s ← s.markKey
  let r ← read s.cursor
  return { s.push (.scalar style r.text) with cursor := r.cursor, keyAllowed := r.endsInBreak }

/-- Characters that cannot begin a plain scalar, whatever follows them. -/
def indicators : List Char :=
  [',', '[', ']', '\x7b', '\x7d', '#', '&', '*', '!', '|', '>', '\'', '"', '%', '@', '\x60']

/-- Whether a plain scalar begins with a character that is followed by `rest`. -/
def startsPlain (inFlow : Bool) (c : Char) (rest : Text) : Bool :=
  if c = '-' then !rest.head?.any isBlank
  else if c = '?' ∨ c = ':' then !inFlow && !endsWord rest
  else !isGap c && !indicators.contains c

/-- The next token added, which begins with a character that is followed by `rest`. -/
def pushNext (s : TokenStream) (c : Char) (rest : Text) : Option TokenStream :=
  if s.cursor.column = 0 ∧ c = '%' then s.pushDirective
  else if (s.cursor.stripLineStart Cursor.documentStart).isSome then do
    return (← s.atDocumentLevel).pushIndicator 3 .documentStart
  else if (s.cursor.stripLineStart Cursor.documentEnd).isSome then do
    return (← s.atDocumentLevel).pushIndicator 3 .documentEnd
  else if c = '[' then s.pushOpening .flowSequenceStart
  else if c = '\x7b' then s.pushOpening .flowMappingStart
  else if c = ']' then s.pushClosing .flowSequenceEnd
  else if c = '\x7d' then s.pushClosing .flowMappingEnd
  else if c = ',' then s.pushFlowEntry
  else if c = '-' && endsWord rest then
    s.pushBlockIndicator .blockSequenceStart .blockEntry true
  else if c = '?' && (s.inFlow || endsWord rest) then
    s.pushBlockIndicator .blockMappingStart .key (!s.inFlow)
  else if c = ':' && (s.inFlow || endsWord rest) then s.pushValue
  else if c = '*' then s.pushAlias
  else if c = '&' then s.pushAnchor
  else if c = '!' then s.pushTag
  else if c = '|' && !s.inFlow then s.pushBlock .literal
  else if c = '>' && !s.inFlow then s.pushBlock .folded
  else if c = '\'' then s.pushScalar .singleQuoted (readQuoted false)
  else if c = '"' then s.pushScalar .doubleQuoted (readQuoted true)
  else if startsPlain s.inFlow c rest then
    s.pushScalar .plain (readPlain s.inFlow (s.indent + 1))
  else none

/-- All tokens.  Every token but the ends of block collections takes a character at least, so the
number of characters bounds their number. -/
def readFrom : Nat → TokenStream → Option (Array Token)
  | 0, _ => none
  | fuel + 1, s => do
    let s ← s.skipGap
    match s.cursor.rest with
    | [] => return (← (s.closeBlocks (-1)).dropKey).tokens
    | c :: rest => readFrom fuel (← s.pushNext c rest)

end TokenStream

/-- Whether a character can occur in a YAML text. -/
def isAllowed (c : Char) : Bool :=
  [0x09, 0x0A, 0x0D, 0x85].contains c.toNat || 0x20 ≤ c.toNat && c.toNat ≤ 0x7E ||
    0xA0 ≤ c.toNat && c.toNat ≤ 0xD7FF || 0xE000 ≤ c.toNat && c.toNat ≤ 0xFFFD ||
    0x10000 ≤ c.toNat

/-- All tokens of a text. -/
def tokens (t : Text) : Option (List Token) :=
  if t.all isAllowed then
    ((TokenStream.start (unifyBreaks t)).readFrom (t.length + 1)).map Array.toList
  else none

end TraceText.Yaml
