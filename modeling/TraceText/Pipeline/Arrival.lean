import TraceText.Pipeline.Sink
import TraceText.Record.Decode
import TraceText.Template.Render
import TraceText.Text.Utf8

/-!
# What arrives at a pipeline

Input is read by lines.  Blank lines are counted but otherwise ignored; every other line is a record
or a fault.  A line that is not UTF-8, or a failure of the input, ends it; what then remains of the
last line is dropped.

## Main definitions

* `ProcessingError` — why a record is not written
* `Input` — bytes, possibly followed by a failure
* `Arrival` — a record, a faulty line or a failure
* `Input.arrivals` — what arrives from an input
-/

namespace TraceText

/-- Why a record is not written. -/
inductive ProcessingError where
  | render (event : Text) (e : RenderError)
  | input (line : Nat) (e : DecodeError)
  | lineTooLong (length most : Nat)
  | io (e : IoError)
  deriving DecidableEq, Repr

/-- The wording of a failure. -/
def ProcessingError.message : ProcessingError → Text
  | .render event e => "Render error in event '" ++ event ++ "': " ++ e.message
  | .input line e => "Input error at line " ++ Decimal.digits line ++ ": " ++ e.message
  | .lineTooLong length most =>
    "Line too long: " ++ Decimal.digits length ++ " > " ++ Decimal.digits most
  | .io e => "IO error: " ++ e.message

/-- An input: its bytes, and the failure that follows them, if it does not just end. -/
structure Input where
  bytes : List UInt8
  failure : Option IoError
  deriving Inhabited

/-- Something that arrives at a pipeline; positions count lines or records from one. -/
inductive Arrival where
  | record (position : Nat) (r : Record)
  | fault (position : Nat) (e : ProcessingError)
  /-- The input fails, and nothing more arrives. -/
  | failure (e : IoError)
  deriving Inhabited

/-- The byte that ends a line. -/
def lineFeed : UInt8 := 10

/-- The byte that may precede the end of a line. -/
def carriageReturn : UInt8 := 13

/-- A byte put before complete lines and what follows the last one. -/
def consByte (b : UInt8) : List (List UInt8) × List UInt8 → List (List UInt8) × List UInt8
  | (lines, rest) =>
    if b = lineFeed then ([] :: lines, rest)
    else match lines with
      | [] => ([], b :: rest)
      | line :: lines => ((b :: line) :: lines, rest)

/-- Bytes as complete lines, without the bytes that end them, and what follows the last one. -/
def splitLines (bytes : List UInt8) : List (List UInt8) × List UInt8 :=
  bytes.foldr consByte ([], [])

/-- A line without the carriage return at its end. -/
def chompReturn (line : List UInt8) : List UInt8 :=
  if line.getLast? = some carriageReturn then line.dropLast else line

namespace Input

/-- The lines of an input; what follows the last complete one is a line too, if the input just
ends. -/
def lines (input : Input) : List (List UInt8) :=
  let (lines, rest) := splitLines input.bytes
  lines.map chompReturn ++ if rest = [] ∨ input.failure.isSome then [] else [rest]

/-- What arrives after the last line.  That an input ends too early is no failure. -/
def ending (input : Input) : List Arrival :=
  match input.failure with
  | none => []
  | some e => if e.kind = .unexpectedEof then [] else [.failure e]

/-- What arrives with a line of text of a given size: nothing if it is blank. -/
def arrivalOf (most number size : Nat) (line : Text) : List Arrival :=
  if (Text.trim line).isEmpty then []
  else if most < size then [.fault number (.lineTooLong size most)]
  else match Record.decode line with
    | .ok r => [.record number r]
    | .error e => [.fault number (.input number e)]

/-- What arrives with the lines from a given number on, and after them. -/
def arrivalsFrom (most : Nat) (ending : List Arrival) : Nat → List (List UInt8) → List Arrival
  | _, [] => ending
  | number, line :: rest =>
    -- blank lines have numbers too, and the length limit is on bytes
    match Utf8.decode? line with
    | none => [.failure .notUtf8]
    | some text =>
      arrivalOf most number line.length text ++ arrivalsFrom most ending (number + 1) rest

/-- What arrives from an input, if lines may be `most` bytes long. -/
def arrivals (most : Nat) (input : Input) : List Arrival :=
  arrivalsFrom most input.ending 1 input.lines

end Input

/-- What arrives with records that are already decoded. -/
def Arrival.ofRecords (records : List Record) : List Arrival :=
  records.mapIdx fun i r => .record (i + 1) r

end TraceText
