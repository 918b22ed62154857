import TraceText.Text.Blank

/-!
# Shapes of texts

A shape tells how the parts of a text follow one another, without giving them a meaning.  Where it
leaves a choice, the longer part is preferred.

## Main definitions

* `Shape` — a run of characters, a word, a choice of words, or something that may be missing
* `Shape.rests` — what can be left of a text behind a sequence of shapes
* `Shape.isWhole` — whether a sequence of shapes makes up a whole text
-/

namespace TraceText

/-- A part of a text. -/
inductive Shape where
  /-- At least `least` and, if there is a bound, at most `most` characters of a class. -/
  | run (isMember : Char → Bool) (least : Nat) (most : Option Nat)
  | word (w : Text)
  | oneOf (words : List Text)
  | maybe (parts : List Shape)

namespace Shape

/-- What is left behind a run: behind its longest form first, behind its shortest last. -/
def runRests (isMember : Char → Bool) (least : Nat) (most : Option Nat) (t : Text) : List Text :=
  let longest := (t.takeWhile isMember).length
  let longest := (most.map (min longest)).getD longest
  (List.range (longest + 1 - least)).map fun i => t.drop (longest - i)

mutual

/-- What can be left of a text behind one part. -/
def rest : Shape → Text → List Text
  | run isMember least most, t => runRests isMember least most t
  | word w, t => (Text.stripStart w t).toList
  | oneOf words, t => words.filterMap (Text.stripStart · t)
  | maybe parts, t => rests parts t ++ [t]

/-- What can be left of a text behind a sequence of parts, the preferred choice first. -/
def rests : List Shape → Text → List Text
  | [], t => [t]
  | part :: parts, t => (rest part t).flatMap (rests parts)

end

/-- Whether a sequence of parts makes up a whole text. -/
def isWhole (parts : List Shape) (t : Text) : Bool := (rests parts t).any List.isEmpty

/-- Whether a sequence of parts occurs somewhere in a text. -/
def occursIn (parts : List Shape) : Text → Bool
  | [] => !(rests parts []).isEmpty
  | c :: t => !(rests parts (c :: t)).isEmpty || occursIn parts t

/-- Between `least` and `most` digits. -/
def digits (least most : Nat) : Shape := run Char.isDigit least (some most)

/-- Between `least` and `most` letters. -/
def letters (least most : Nat) : Shape := run Char.isAlpha least (some most)

/-- Any number of blanks. -/
def anyBlanks : Shape := run Text.isBlank 0 none

/-- At least one blank. -/
def gap : Shape := run Text.isBlank 1 none

end Shape

end TraceText
