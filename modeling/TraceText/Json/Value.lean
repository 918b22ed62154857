import TraceText.Decimal.Shortest
import TraceText.Text.Quoted

/-!
# JSON values

## Main definitions

* `Json` — a JSON value; the members of an object keep their order
* `Json.ofNumeral` — the value of a number: an integer if it is written as one and fits 64 bits
* `ShapeError`, `JsonError` — why a text is no value, or not a value of the expected shape
-/

namespace TraceText

/-- A JSON value.  Integers lie between `-2 ^ 63` and `2 ^ 64 - 1`, and the members of an object
have distinct names. -/
inductive Json where
  | null
  | bool (b : Bool)
  | int (i : Int)
  | float (x : Binary64)
  | str (t : Text)
  | array (items : List Json)
  | object (members : List (Text × Json))
  deriving Repr, Inhabited

/-- A number as it is written: sign, digits before and behind the point, and exponent. -/
structure Numeral where
  negative : Bool
  whole : Text
  /-- The digits behind the decimal point, if there is one. -/
  fraction : Option Text
  exponent : Option Int
  deriving DecidableEq, Repr

/-- What was found in place of something else. -/
inductive Found where
  | null
  | bool (b : Bool)
  | int (i : Int)
  | float (x : Binary64)
  | str (t : Text)
  | sequence
  | map
  deriving DecidableEq, Repr

/-- How a finding is described. -/
def Found.message : Found → Text
  | .null => "null"
  | .bool b => "boolean \x60" ++ (if b then "true" else "false" : Text) ++ "\x60"
  | .int i => "integer \x60" ++ Decimal.ofInt i ++ "\x60"
  | .float x => "floating point \x60" ++ Decimal.compact.write x ++ "\x60"
  | .str t => "string " ++ Text.quoted t
  | .sequence => "sequence"
  | .map => "map"

/-- How a value misses the expected shape. -/
inductive ShapeError where
  | invalidType (found : Found) (expected : Text)
  | invalidValue (found : Found) (expected : Text)
  | invalidLength (length : Nat) (expected : Text)
  | missingField (name : Text)
  | duplicateField (name : Text)
  deriving DecidableEq, Repr

/-- The wording of a missed shape. -/
def ShapeError.message : ShapeError → Text
  | .invalidType found expected => "invalid type: " ++ found.message ++ ", expected " ++ expected
  | .invalidValue found expected => "invalid value: " ++ found.message ++ ", expected " ++ expected
  | .invalidLength length expected =>
    "invalid length " ++ Decimal.digits length ++ ", expected " ++ expected
  | .missingField name => "missing field \x60" ++ name ++ "\x60"
  | .duplicateField name => "duplicate field \x60" ++ name ++ "\x60"

/-- Why a text does not hold what is expected. -/
inductive JsonError where
  /-- The text is not JSON, a number is too large, or values are nested too deep. -/
  | malformed
  | shape (e : ShapeError)
  deriving DecidableEq, Repr

namespace Json

/-- The largest integer of 64 bits with a sign. -/
def maxInt : Int := Int.pow 2 63 - 1

/-- The least integer of 64 bits with a sign. -/
def minInt : Int := -Int.pow 2 63

/-- The largest integer of 64 bits without a sign. -/
def maxNat : Int := Int.pow 2 64 - 1

/-- The value of a number.  What is written as an integer is one, unless it does not fit 64 bits or
is a negative zero; all else is rounded to binary64, and refused if that is infinite.  Rounding is
to the nearest number (see `Binary64.ofDecimal`), which not every reader of numbers achieves. -/
def ofNumeral (n : Numeral) : Option Json :=
  let fraction := n.fraction.getD []
  let float :=
    match Binary64.ofDecimal n.negative (Decimal.value (n.whole ++ fraction))
        (n.exponent.getD 0 - fraction.length) with
    | .finite negative m q => some (float (.finite negative m q))
    | _ => none
  let magnitude : Int := Decimal.value n.whole
  if n.fraction.isSome || n.exponent.isSome then float
  else if n.negative then
    if magnitude = 0 ∨ -minInt < magnitude then float else some (int (-magnitude))
  else if magnitude ≤ maxNat then some (int magnitude) else float

/-- The value as it is described where something else was expected. -/
def found : Json → Found
  | null => .null
  | bool b => .bool b
  | int i => .int i
  | float x => .float x
  | str t => .str t
  | array _ => .sequence
  | object _ => .map

/-- A member added to those of an object.  A name that occurs already keeps its place and takes the
new value. -/
def insert (members : List (Text × Json)) (name : Text) (value : Json) : List (Text × Json) :=
  match members with
  | [] => [(name, value)]
  | (known, old) :: rest =>
    if known = name then (known, value) :: rest else (known, old) :: insert rest name value

end Json

end TraceText
