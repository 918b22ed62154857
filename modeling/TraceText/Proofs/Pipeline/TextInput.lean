import TraceText.Proofs.Pipeline.Position
import TraceText.Proofs.Text.Utf8

/-!
# Inputs that hold a text

The bytes of a text have the lines that the text has: line feeds and carriage returns are never part
of another character.  So what arrives from such an input is what the lines of the text hold, and
nothing about bytes is left but the length of a line.

## Main definitions

* `Text.lines`, `Text.contentLines` — the lines of a text, and those that are not blank
* `Input.ofText` — an input that holds a text and just ends

## Main results

* `Input.lines_ofText` — the lines of an input that holds a text
* `Input.arrivalsFrom_encode` — what arrives with the lines of a text
-/

namespace TraceText

namespace Text

/-- Pieces between line feeds as lines.  A carriage return before a line feed belongs to it, and the
last piece is a line if there is anything in it. -/
def linesOfPieces : List Text → List Text
  | [] => []
  | [last] => if last = [] then [] else [last]
  | piece :: rest => chomp '\r' piece :: linesOfPieces rest

/-- The lines of a text. -/
def lines (t : Text) : List Text := linesOfPieces (splitOn '\n' t)

/-- The lines of a text that are not blank. -/
def contentLines (t : Text) : List Text := (lines t).filter fun line => !(trim line).isEmpty

theorem linesOfPieces_cons_cons (piece next : Text) (rest : List Text) :
    linesOfPieces (piece :: next :: rest) = chomp '\r' piece :: linesOfPieces (next :: rest) := rfl

end Text

/-! ### Bytes and lines -/

theorem encodeChar_lineFeed : String.utf8EncodeChar '\n' = [lineFeed] := by decide

theorem encodeChar_carriageReturn : String.utf8EncodeChar '\r' = [carriageReturn] := by decide

theorem lineFeed_not_mem_encodeChar {c : Char} (h : c ≠ '\n') :
    lineFeed ∉ String.utf8EncodeChar c := fun hmem =>
  h (Utf8.eq_of_mem_encodeChar hmem (by decide))

/-- Bytes without a line feed in front of complete lines and what follows the last one. -/
def prepend (bytes : List UInt8) : List (List UInt8) × List UInt8 → List (List UInt8) × List UInt8
  | ([], rest) => ([], bytes ++ rest)
  | (line :: lines, rest) => ((bytes ++ line) :: lines, rest)

theorem splitLines_append_of_not_mem {bytes : List UInt8} (h : lineFeed ∉ bytes)
    (other : List UInt8) : splitLines (bytes ++ other) = prepend bytes (splitLines other) := by
  induction bytes with
  | nil => rcases hs : splitLines other with ⟨_ | ⟨line, lines⟩, rest⟩ <;> simp [prepend, hs]
  | cons b bytes ih =>
    have hb : b ≠ lineFeed := fun heq => h (heq ▸ List.mem_cons_self)
    rw [List.cons_append, splitLines_cons, ih fun hmem => h (List.mem_cons_of_mem b hmem)]
    rcases splitLines other with ⟨_ | ⟨line, lines⟩, rest⟩
    · exact consByte_nil hb _
    · exact consByte_cons hb _ _ _

/-- Pieces between line feeds as the bytes of complete lines and of what follows the last one. -/
def bytesOfPieces : List Text → List (List UInt8) × List UInt8
  | [] => ([], [])
  | [last] => ([], Utf8.encode last)
  | piece :: rest => (Utf8.encode piece :: (bytesOfPieces rest).1, (bytesOfPieces rest).2)

/-- The bytes of a text are split where the text is. -/
theorem splitLines_encode (t : Text) :
    splitLines (Utf8.encode t) = bytesOfPieces (Text.splitOn '\n' t) := by
  induction t with
  | nil => rfl
  | cons c t ih =>
    rw [Utf8.encode_cons]
    cases hp : Text.splitOn '\n' t with
    | nil => exact absurd hp (Text.splitOn_ne_nil _ _)
    | cons piece rest =>
      rw [hp] at ih
      by_cases hc : c = '\n'
      · subst hc
        rw [encodeChar_lineFeed, List.singleton_append, splitLines_cons, ih,
          Text.splitOn_cons_self, hp]
        rfl
      · rw [splitLines_append_of_not_mem (lineFeed_not_mem_encodeChar hc), ih,
          Text.splitOn_cons_of_ne hc, hp]
        cases rest with
        | nil => rfl
        | cons next rest => rfl

theorem encode_eq_nil_iff {t : Text} : Utf8.encode t = [] ↔ t = [] := by
  constructor
  · intro h
    have hdecode := Utf8.decode?_encode t
    rw [h] at hdecode
    exact (Option.some.inj hdecode).symm
  · rintro rfl
    rfl

/-- The last byte of a text is a carriage return exactly if its last character is. -/
theorem getLast?_encode_iff {t : Text} :
    (Utf8.encode t).getLast? = some carriageReturn ↔ t.getLast? = some '\r' := by
  rcases t.eq_nil_or_concat with rfl | ⟨start, c, rfl⟩
  · simp
  · have hencode : Utf8.encode [c] = String.utf8EncodeChar c := by
      rw [Utf8.encode_cons, Utf8.encode_nil, List.append_nil]
    have hne : String.utf8EncodeChar c ≠ [] := by
      rw [← hencode, Ne, encode_eq_nil_iff]
      exact List.cons_ne_nil c []
    have hlast : (String.utf8EncodeChar c).getLast?.isSome = true := by
      rw [List.getLast?_isSome]
      exact hne
    rw [List.concat_eq_append, Utf8.encode_append, hencode, List.getLast?_append,
      Option.or_of_isSome hlast, List.getLast?_concat]
    constructor
    · intro h
      have hc : c = '\r' := Utf8.eq_of_mem_encodeChar (List.mem_of_getLast? h) (by decide)
      rw [hc]
    · intro h
      rw [Option.some.inj h, encodeChar_carriageReturn]
      rfl

theorem chompReturn_encode (t : Text) :
    chompReturn (Utf8.encode t) = Utf8.encode (Text.chomp '\r' t) := by
  by_cases h : t.getLast? = some '\r'
  · obtain ⟨start, rfl⟩ := List.getLast?_eq_some_iff.mp h
    rw [chompReturn, if_pos (getLast?_encode_iff.mpr h), Text.chomp, Text.stripEnd, if_pos h,
      Option.getD_some, List.dropLast_concat, Utf8.encode_append]
    exact List.dropLast_concat
  · rw [chompReturn, if_neg (mt getLast?_encode_iff.mp h), Text.chomp, Text.stripEnd, if_neg h,
      Option.getD_none]

namespace Input

/-- An input that holds a text and just ends. -/
def ofText (t : Text) : Input := ⟨Utf8.encode t, none⟩

theorem lines_ofText (t : Text) : (ofText t).lines = (Text.lines t).map Utf8.encode := by
  -- by pieces and not by lines: what follows the last line feed is a line only if there is any
  have hpieces : ∀ pieces : List Text,
      (bytesOfPieces pieces).1.map chompReturn ++
          (if (bytesOfPieces pieces).2 = [] then [] else [(bytesOfPieces pieces).2]) =
        (Text.linesOfPieces pieces).map Utf8.encode := by
    intro pieces
    induction pieces with
    | nil => rfl
    | cons piece rest ih =>
      cases rest with
      | nil =>
        simp only [bytesOfPieces, Text.linesOfPieces, encode_eq_nil_iff, List.map_nil,
          List.nil_append]
        split <;> rfl
      | cons next rest =>
        rw [Text.linesOfPieces_cons_cons, List.map_cons, ← chompReturn_encode, ← ih]
        rfl
  rw [Text.lines, ← hpieces, ← splitLines_encode]
  simp [lines, ofText]

/-- What arrives with a line of a text, and behind it. -/
theorem arrivalsFrom_encode (most number : Nat) (ending : List Arrival) (line : Text)
    (rest : List (List UInt8)) :
    arrivalsFrom most ending number (Utf8.encode line :: rest) =
      arrivalOf most number (Utf8.encode line).length line ++
        arrivalsFrom most ending (number + 1) rest :=
  arrivalsFrom_cons_of_decode? (Utf8.decode?_encode line) rest

end Input

end TraceText
