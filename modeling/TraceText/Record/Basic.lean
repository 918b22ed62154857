import TraceText.Decimal.Binary64
import TraceText.Instant.Basic
import TraceText.Text.Basic

/-!
# Event records

A record is one event: its type, when it began and ended, and named values in their declared order.

## Main definitions

* `TickClock`, `TimestampUnit` — how an integer encodes a point in time
* `ObjectKind` — the kinds of nested objects that have a short name
* `Frame` — an entry of a stack trace
* `Value` — what a field holds; `Fields` — named values in order
* `Record` — an event
-/

namespace TraceText

/-- A clock that counts ticks from an origin. -/
structure TickClock where
  ticksPerSecond : Int
  originTicks : Int
  originTime : Instant
  deriving DecidableEq, Inhabited

namespace TickClock

/-- The clock that counts nanoseconds from the beginning of 1970. -/
def standard : TickClock := ⟨1000000000, 0, .epoch⟩

/-- The instant at which a clock shows `ticks`: whole nanoseconds from the origin, rounded towards
it.  A clock that does not run, a distance beyond 64 bits and an instant out of range have none. -/
def toInstant? (clock : TickClock) (ticks : Int) : Option Instant :=
  if clock.ticksPerSecond ≤ 0 then none
  else
    let nanos := ((ticks - clock.originTicks) * 1000000000).tdiv clock.ticksPerSecond
    if -Int.pow 2 63 ≤ nanos ∧ nanos < Int.pow 2 63 then clock.originTime.add nanos else none

end TickClock

/-- How an integer that is declared a timestamp encodes a point in time. -/
inductive TimestampUnit where
  | ticks (clock : TickClock)
  /-- Milliseconds since the beginning of 1970. -/
  | epochMillis
  deriving DecidableEq

/-- The instant that an integer encodes, if there is one. -/
def TimestampUnit.toInstant? (unit : TimestampUnit) (raw : Int) : Option Instant :=
  match unit with
  | ticks clock => clock.toInstant? raw
  | epochMillis => Instant.ofNanos? (raw * 1000000)

/-- Kinds of nested objects.  All but the generic ones have a short name. -/
inductive ObjectKind where
  | classObject
  | classLoader
  | thread
  | threadGroup
  | generic
  deriving DecidableEq, Repr, Inhabited

namespace ObjectKind

/-- The tag by which a kind is declared. -/
def tag : ObjectKind → String
  | classObject => "class"
  | classLoader => "classLoader"
  | thread => "thread"
  | threadGroup => "threadGroup"
  | generic => "generic"

/-- The kind that a tag declares. -/
def ofTag? (tag : Text) : Option ObjectKind :=
  [classObject, classLoader, thread, threadGroup, generic].find? fun kind =>
    decide (kind.tag.toList = tag)

/-- The field that holds the short name of an object, if its kind has one. -/
def nameField : ObjectKind → Option Text
  | thread => some "javaName".toList
  | generic => none
  | _ => some "name".toList

end ObjectKind

/-- An entry of a stack trace. -/
structure Frame where
  typeName : Text
  method : Text
  line : Int
  deriving DecidableEq, Repr, Inhabited

/-- What a field holds. -/
inductive Value where
  | null
  | bool (b : Bool)
  /-- A 64-bit integer with a sign, possibly declared to be a timestamp.  A declaration on any other
  value has no effect, and is therefore not kept. -/
  | int (i : Int) (declared : Option TimestampUnit)
  /-- An integer above those of 64 bits with a sign. -/
  | natural (n : Nat)
  | float (x : Binary64)
  | str (t : Text)
  | instant (t : Instant)
  | object (typeName : Text) (kind : ObjectKind) (fields : List (Text × Value))
  | frames (entries : List Frame)
  deriving Inhabited

/-- Named values in their declared order. -/
abbrev Fields := List (Text × Value)

/-- Induction on values, where an object comes after the values of all its fields. -/
@[elab_as_elim]
theorem Value.induction {motive : Value → Prop} (null : motive .null)
    (bool : ∀ b, motive (.bool b)) (int : ∀ i declared, motive (.int i declared))
    (natural : ∀ n, motive (.natural n)) (float : ∀ x, motive (.float x))
    (str : ∀ t, motive (.str t)) (instant : ∀ t, motive (.instant t))
    (object : ∀ typeName kind fields, (∀ field ∈ fields, motive field.2) →
      motive (.object typeName kind fields))
    (frames : ∀ entries, motive (.frames entries)) (v : Value) : motive v := by
  refine @Value.rec motive (fun fields => ∀ field ∈ fields, motive field.2)
    (fun field => motive field.2) null bool int natural float str instant object frames ?_ ?_ ?_ v
  · intro field h
    cases h
  · intro head tail hhead htail field h
    rcases List.mem_cons.mp h with rfl | h
    · exact hhead
    · exact htail field h
  · intro name value h
    exact h

/-- The instant of an integer that is declared to be a timestamp and encodes one. -/
def Value.decoded? : Value → Option Instant
  | .int i (some unit) => unit.toInstant? i
  | _ => none

/-- The value of a name. -/
def Fields.get? (fields : Fields) (name : Text) : Option Value := fields.lookup name

@[simp] theorem Fields.get?_nil (name : Text) : Fields.get? [] name = none := rfl

theorem Fields.get?_cons (known : Text) (value : Value) (rest : Fields) (name : Text) :
    Fields.get? ((known, value) :: rest) name =
      if name = known then some value else Fields.get? rest name := by
  by_cases h : name = known
  · simp [Fields.get?, h]
  · have hb : (name == known) = false := by simpa using h
    simp [Fields.get?, List.lookup_cons, h, hb]

/-- An event: its type, when it began and ended, and its named values. -/
structure Record where
  eventType : Text
  startTime : Instant
  endTime : Instant
  fields : Fields
  deriving Inhabited

end TraceText
