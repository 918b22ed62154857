import TraceText.Json.Value

/-!
# Reading JSON

Texts are read from the left, and the first fault is reported.  A reader takes what it needs from
the start of a text and leaves the rest, so that readers for a given shape can be put together.

## Main definitions

* `Json.Reader` — takes something from the start of a text
* `Json.readString`, `Json.readNumeral`, `Json.readElements`, `Json.readMembers` — building blocks
* `Json.readValue` — any value, of bounded depth
* `Json.skipValue` — any value of any depth, dropped
* `Json.mismatch` — the fault when a value of another shape stands here
-/

namespace TraceText.Json

/-- Takes something from the start of a text. -/
abbrev Reader (α : Type) := Text → Except JsonError (α × Text)

/-- A text without the white space of JSON at its start. -/
def skipSpace (t : Text) : Text :=
  t.dropWhile fun c => c == ' ' || c == '\t' || c == '\n' || c == '\r'

/-- The text behind a given word. -/
def readWord (word : Text) (t : Text) : Except JsonError Text :=
  match Text.stripStart word t with
  | some rest => .ok rest
  | none => .error .malformed

/-- The text behind a given character, blanks before it skipped. -/
def readMark (mark : Char) (t : Text) : Except JsonError Text := readWord [mark] (skipSpace t)

/-- The value of a hexadecimal digit. -/
def hexValue? (c : Char) : Option Nat :=
  if c.isDigit then some (c.toNat - '0'.toNat)
  else if 'a' ≤ c ∧ c ≤ 'f' then some (c.toNat - 'a'.toNat + 10)
  else if 'A' ≤ c ∧ c ≤ 'F' then some (c.toNat - 'A'.toNat + 10)
  else none

/-- The code unit that four hexadecimal digits denote. -/
def codeUnit? (a b c d : Char) : Option Nat := do
  return (((← hexValue? a) * 16 + (← hexValue? b)) * 16 + (← hexValue? c)) * 16 + (← hexValue? d)

/-- The character of an escape with one letter. -/
def escaped? : Char → Option Char
  | '"' => some '"'
  | '\\' => some '\\'
  | '/' => some '/'
  | 'b' => some '\x08'
  | 'f' => some '\x0c'
  | 'n' => some '\n'
  | 'r' => some '\r'
  | 't' => some '\t'
  | _ => none

/-- Two surrogates put together. -/
def joinSurrogates (high low : Nat) : Char :=
  Char.ofNat (0x10000 + (high - 0xD800) * 0x400 + (low - 0xDC00))

/-- A string behind its opening quote.  A high surrogate needs a low one behind it. -/
def readString : Reader Text
  | [] => .error .malformed
  | '"' :: rest => .ok ([], rest)
  | '\\' :: 'u' :: a :: b :: c :: d :: rest =>
    match codeUnit? a b c d with
    | none => .error .malformed
    | some unit =>
      if 0xD800 ≤ unit ∧ unit < 0xDC00 then
        match rest with
        | '\\' :: 'u' :: a :: b :: c :: d :: rest =>
          match codeUnit? a b c d with
          | none => .error .malformed
          | some low =>
            if 0xDC00 ≤ low ∧ low < 0xE000 then
              (readString rest).map fun (t, rest) => (joinSurrogates unit low :: t, rest)
            else .error .malformed
        | _ => .error .malformed
      else if 0xDC00 ≤ unit ∧ unit < 0xE000 then .error .malformed
      else (readString rest).map fun (t, rest) => (Char.ofNat unit :: t, rest)
  | '\\' :: c :: rest =>
    match escaped? c with
    | some e => (readString rest).map fun (t, rest) => (e :: t, rest)
    | none => .error .malformed
  | c :: rest =>
    if c.toNat < 0x20 ∨ c = '\\' then .error .malformed
    else (readString rest).map fun (t, rest) => (c :: t, rest)

/-- The text behind a string whose opening quote is read.  Any code unit may be escaped. -/
def skipString : Text → Except JsonError Text
  | [] => .error .malformed
  | '"' :: rest => .ok rest
  | '\\' :: 'u' :: a :: b :: c :: d :: rest =>
    if (codeUnit? a b c d).isSome then skipString rest else .error .malformed
  | '\\' :: c :: rest => if (escaped? c).isSome then skipString rest else .error .malformed
  | c :: rest => if c.toNat < 0x20 ∨ c = '\\' then .error .malformed else skipString rest

/-- At least one digit. -/
def readDigits (t : Text) : Except JsonError (Text × Text) :=
  let (ds, rest) := Decimal.spanDigits t
  if ds = [] then .error .malformed else .ok (ds, rest)

/-- The part of a number behind its decimal point, if there is a point. -/
def readFraction : Reader (Option Text)
  | '.' :: rest => (readDigits rest).map fun (ds, rest) => (some ds, rest)
  | t => .ok (none, t)

/-- The exponent of a number, if there is one. -/
def readExponent : Reader (Option Int)
  | c :: rest =>
    if c = 'e' ∨ c = 'E' then
      let (negative, rest) := match rest with
        | '-' :: rest => (true, rest)
        | '+' :: rest => (false, rest)
        | rest => (false, rest)
      (readDigits rest).map fun (ds, rest) =>
        (some (if negative then -(Decimal.value ds : Int) else Decimal.value ds), rest)
    else .ok (none, c :: rest)
  | [] => .ok (none, [])

/-- A number as it is written.  No digit may follow a zero at its start. -/
def readNumeral (t : Text) : Except JsonError (Numeral × Text) := do
  let (negative, t) := match t with
    | '-' :: rest => (true, rest)
    | t => (false, t)
  let (whole, t) ← readDigits t
  if whole.length ≠ 1 ∧ whole.head? = some '0' then throw .malformed
  let (fraction, t) ← readFraction t
  let (exponent, t) ← readExponent t
  return (⟨negative, whole, fraction, exponent⟩, t)

/-- A number. -/
def readNumber (t : Text) : Except JsonError (Json × Text) := do
  let (numeral, t) ← readNumeral t
  match ofNumeral numeral with
  | some value => return (value, t)
  | none => throw .malformed

/-- The text behind the separator before the next element of a list that ends with `close`; none
at its end, which is left to be read.  Elements other than the first follow a comma. -/
def nextElement (close : Char) (first : Bool) (t : Text) : Except JsonError (Option Text) :=
  match skipSpace t with
  | [] => .error .malformed
  | c :: rest =>
    if c = close then .ok none
    else if first then .ok (some (c :: rest))
    else if c = ',' then
      match skipSpace rest with
      | [] => .error .malformed
      | d :: rest => if d = close then .error .malformed else .ok (some (d :: rest))
    else .error .malformed

/-- What remains of a list of elements, up to and with its closing character. -/
def readElements (close : Char) (read : Reader α) :
    Nat → Bool → Text → Except JsonError (List α × Text)
  | 0, _, _ => .error .malformed
  | fuel + 1, first, t => do
    match ← nextElement close first t with
    | none => return ([], ← readMark close t)
    | some t =>
      let (x, t) ← read t
      let (xs, t) ← readElements close read fuel false t
      return (x :: xs, t)

/-- A name and the value behind its colon. -/
def readMember (read : Reader α) (t : Text) : Except JsonError ((Text × α) × Text) := do
  let t ← readMark '"' t
  let (name, t) ← readString t
  let t ← readMark ':' t
  let (x, t) ← read t
  return ((name, x), t)

/-- Members in the order in which they stand; a repeated name keeps its first place and its last
value. -/
def ofMembers (members : List (Text × Json)) : List (Text × Json) :=
  members.foldl (fun known (name, value) => insert known name value) []

/-- Any value.  Lists and objects may be nested less than `depth` deep.  Every element takes at
least one character, so the length of the text bounds the number of elements. -/
def readValue : Nat → Reader Json
  | 0, _ => .error .malformed
  | depth + 1, t =>
    match skipSpace t with
    | 'n' :: rest => do return (null, ← readWord "ull" rest)
    | 't' :: rest => do return (bool true, ← readWord "rue" rest)
    | 'f' :: rest => do return (bool false, ← readWord "alse" rest)
    | '"' :: rest => do
      let (s, rest) ← readString rest
      return (str s, rest)
    | '[' :: rest =>
      if depth = 0 then .error .malformed
      else do
        let (items, rest) ← readElements ']' (readValue depth) (t.length + 1) true rest
        return (array items, rest)
    | '{' :: rest =>
      if depth = 0 then .error .malformed
      else do
        let (members, rest) ←
          readElements '}' (readMember (readValue depth)) (t.length + 1) true rest
        return (object (ofMembers members), rest)
    | t => readNumber t

/-- The text behind any value.  Every nesting takes at least one character, so the length of the
text bounds the depth. -/
def skipNested : Nat → Reader Unit
  | 0, _ => .error .malformed
  | fuel + 1, t =>
    match skipSpace t with
    | 'n' :: rest => do return ((), ← readWord "ull" rest)
    | 't' :: rest => do return ((), ← readWord "rue" rest)
    | 'f' :: rest => do return ((), ← readWord "alse" rest)
    | '"' :: rest => do return ((), ← skipString rest)
    | '[' :: rest => do
      let (_, rest) ← readElements ']' (skipNested fuel) (fuel + 1) true rest
      return ((), rest)
    | '{' :: rest => do
      let member : Reader Unit := fun t => do
        let t ← skipString (← readMark '"' t)
        skipNested fuel (← readMark ':' t)
      let (_, rest) ← readElements '}' member (fuel + 1) true rest
      return ((), rest)
    | t => do
      let (_, rest) ← readNumeral t
      return ((), rest)

/-- The text behind any value, of any depth. -/
def skipValue (t : Text) : Except JsonError Text := do
  let (_, rest) ← skipNested (t.length + 1) t
  return rest

/-- The fault when the value that stands here is not what is expected.  A scalar is read first, so
that a fault inside it comes before. -/
def mismatch (expected : Text) (t : Text) : JsonError :=
  let wrong (found : Found) : JsonError := .shape (.invalidType found expected)
  match skipSpace t with
  | [] => .malformed
  | '[' :: _ => wrong .sequence
  | '{' :: _ => wrong .map
  | t =>
    match readValue 1 t with
    | .ok (value, _) => wrong value.found
    | .error e => e

/-- A string. -/
def readText : Reader Text := fun t =>
  match skipSpace t with
  | '"' :: rest => readString rest
  | t => .error (mismatch "a string" t)

/-- An integer of 64 bits with a sign. -/
def readInt64 : Reader Int := fun t =>
  match skipSpace t with
  | [] => .error .malformed
  | c :: rest =>
    if c = '-' ∨ c.isDigit then do
      let (value, t) ← readNumber (c :: rest)
      match value with
      | int i =>
        if i ≤ maxInt then return (i, t) else throw (.shape (.invalidValue (.int i) "i64"))
      | value => throw (.shape (.invalidType value.found "i64"))
    else .error (mismatch "i64" (c :: rest))

/-- A value that may be `null`. -/
def readOptional (read : Reader α) : Reader (Option α) := fun t =>
  match skipSpace t with
  | 'n' :: rest => do return (none, ← readWord "ull" rest)
  | t => do
    let (x, t) ← read t
    return (some x, t)

/-- Whether only white space is left. -/
def isFinished (t : Text) : Bool := (skipSpace t).isEmpty

end TraceText.Json
