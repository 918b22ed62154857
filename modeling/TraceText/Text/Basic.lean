/-!
# Text as a list of characters

Templates, records and messages are handled as lists of Unicode scalar values, so that every
operation on them is a recursion on a list.

## Main definitions

* `Text` — a list of characters, into which string literals coerce
* `Text.splitOn` — the pieces between the occurrences of a separator
* `Text.join` — pieces put together around a separator
* `Text.stripStart`, `Text.stripEnd` — removal of a given first part or last part
* `Text.replace` — every occurrence of a piece replaced, from the left
-/

namespace TraceText

/-- A text is the list of its characters. -/
abbrev Text := List Char

namespace Text

instance : Coe String Text := ⟨String.toList⟩

/-- The pieces of a text between the occurrences of `sep`; there is always at least one. -/
def splitOn (sep : Char) : Text → List Text
  | [] => [[]]
  | c :: rest =>
    if c = sep then [] :: splitOn sep rest
    else (splitOn sep rest).modifyHead (c :: ·)

@[simp] theorem splitOn_nil (sep : Char) : splitOn sep [] = [[]] := rfl

theorem splitOn_cons_self (sep : Char) (rest : Text) :
    splitOn sep (sep :: rest) = [] :: splitOn sep rest := by
  simp [splitOn]

theorem splitOn_cons_of_ne {sep c : Char} (h : c ≠ sep) (rest : Text) :
    splitOn sep (c :: rest) = (splitOn sep rest).modifyHead (c :: ·) := by
  simp [splitOn, h]

theorem splitOn_ne_nil (sep : Char) (t : Text) : splitOn sep t ≠ [] := by
  induction t with
  | nil => simp
  | cons c rest ih =>
    by_cases h : c = sep
    · simp [h, splitOn_cons_self]
    · rw [splitOn_cons_of_ne h]
      cases hs : splitOn sep rest with
      | nil => exact absurd hs ih
      | cons head tail => simp

/-- Pieces put together with `sep` between neighbours. -/
def join (sep : Text) : List Text → Text
  | [] => []
  | [piece] => piece
  | piece :: rest => piece ++ sep ++ join sep rest

@[simp] theorem join_nil (sep : Text) : join sep [] = [] := rfl

@[simp] theorem join_singleton (sep piece : Text) : join sep [piece] = piece := rfl

theorem join_cons_cons (sep a b : Text) (rest : List Text) :
    join sep (a :: b :: rest) = a ++ sep ++ join sep (b :: rest) := rfl

/-- What follows `start` in a text that begins with it. -/
def stripStart : Text → Text → Option Text
  | [], t => some t
  | _ :: _, [] => none
  | s :: start, c :: rest => if s = c then stripStart start rest else none

theorem stripStart_eq_some_iff {start t rest : Text} :
    stripStart start t = some rest ↔ t = start ++ rest := by
  induction start generalizing t with
  | nil => simp [stripStart]
  | cons s start ih =>
    cases t with
    | nil => simp [stripStart]
    | cons c t =>
      by_cases h : s = c
      · simp [stripStart, h, ih]
      · simp [stripStart, h, Ne.symm h]

/-- Whether a text begins with `start`. -/
def startsWith (start t : Text) : Bool := (stripStart start t).isSome

/-- What precedes `stop` in a text that ends with this character. -/
def stripEnd (stop : Char) (t : Text) : Option Text :=
  if t.getLast? = some stop then some t.dropLast else none

/-- The text without its last character if that character is `stop`, else the text itself. -/
def chomp (stop : Char) (t : Text) : Text := (stripEnd stop t).getD t

/-- Every occurrence of a non-empty `old` replaced by `new`, found from the left. -/
def replace (old new t : Text) : Text := go t.length t
where
  /-- The first argument bounds the number of characters still to visit. -/
  go : Nat → Text → Text
    | 0, t => t
    | _ + 1, [] => []
    | n + 1, c :: rest =>
      match stripStart old (c :: rest) with
      | some after => new ++ go n after
      | none => c :: go n rest

/-- `n` copies of a text, one after another. -/
def times (n : Nat) (t : Text) : Text := (List.replicate n t).flatten

end Text

end TraceText
