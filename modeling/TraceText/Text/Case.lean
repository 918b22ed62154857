import TraceText.Text.Basic
import TraceText.Text.CaseTable

/-!
# Letter case

The full case mappings of Unicode: one character may become several, and a capital sigma becomes a
final sigma at the end of a word.

## Main definitions

* `Text.lower`, `Text.upper` — a text in lower case, in upper case
* `Text.endsWord` — the condition for the final sigma
-/

namespace TraceText.Text

open CaseTable

/-- Whether a list of ranges contains a character. -/
def inRanges (ranges : List (Nat × Nat)) (c : Char) : Bool :=
  ranges.any fun (first, last) => first ≤ c.toNat && c.toNat ≤ last

/-- The character to which a list of runs maps `c`, which is `c` itself outside all runs. -/
def mapRuns (runs : List Run) (c : Char) : Char :=
  let n := c.toNat
  let image := runs.findSome? fun (first, last, step, shift) =>
    if first ≤ n ∧ n ≤ last ∧ (n - first) % step = 0 then some ((n : Int) + shift).toNat else none
  image.elim c Char.ofNat

/-- The lower case of a character by itself. -/
def lowerChar (c : Char) : Text :=
  if c.toNat < 128 then [c.toLower]
  else if c = 'İ' then ['i', '\u0307']
  else [mapRuns lowerRuns c]

/-- The upper case of a character. -/
def upperChar (c : Char) : Text :=
  if c.toNat < 128 then [c.toUpper]
  else match upperSequences.lookup c.toNat with
    | some sequence => sequence.map Char.ofNat
    | none => [mapRuns upperRuns c]

/-- Whether the first character that is not ignorable is cased. -/
def meetsCased (t : Text) : Bool :=
  match t.dropWhile (inRanges ignorable) with
  | c :: _ => inRanges cased c
  | [] => false

/-- Whether a letter between these two texts ends a word: a cased letter precedes it, and none
follows.  The text before it is given backwards. -/
def endsWord (before after : Text) : Bool := meetsCased before && !meetsCased after

/-- A text in lower case, given what precedes it, backwards. -/
def lowerAfter (before : Text) : Text → Text
  | [] => []
  | c :: rest =>
    let image := if c = 'Σ' then [if endsWord before rest then 'ς' else 'σ'] else lowerChar c
    image ++ lowerAfter (c :: before) rest

/-- A text in lower case. -/
def lower (t : Text) : Text := lowerAfter [] t

/-- A text in upper case. -/
def upper (t : Text) : Text := t.flatMap upperChar

end TraceText.Text
