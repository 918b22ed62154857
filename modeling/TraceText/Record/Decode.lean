import TraceText.Instant.Freeform
import TraceText.Json.Reader
import TraceText.Record.Basic

/-!
# Records from lines of JSON

A line holds an object with the members `type`, `startTime`, `endTime`, `clock` and `fields`.
Inside of `fields`, objects with members that begin with a dollar sign are timestamps, instants,
stack traces, or nested objects of a given type and kind.

## Main definitions

* `Envelope`, `ClockSpec` — what a line and its clock hold before decoding
* `Json.readEnvelope` — the reader of a line
* `DecodeError` — why a line is no record
* `Value.ofJson` — the value that a member of `fields` encodes
* `Record.decode` — the record of a line
-/

namespace TraceText

/-- The clock of a record as it is given. -/
structure ClockSpec where
  ticksPerSecond : Int
  originTicks : Int
  originTime : Option Text
  deriving Inhabited

/-- A record as it is given. -/
structure Envelope where
  eventType : Text
  startTime : Text
  endTime : Option Text
  clock : Option ClockSpec
  fields : List (Text × Json)
  deriving Inhabited

namespace Json

/-- The members of an envelope that have been read. -/
structure EnvelopeParts where
  eventType : Option Text
  startTime : Option Text
  endTime : Option (Option Text)
  clock : Option (Option ClockSpec)
  fields : Option (List (Text × Json))

/-- The members of a clock that have been read. -/
structure ClockParts where
  ticksPerSecond : Option Int
  originTicks : Option Int
  originTime : Option (Option Text)

/-- What is left of an object, its members read one after another into `parts`. -/
def readParts (readPart : Text → σ → Reader σ) : Nat → Bool → σ → Reader σ
  | 0, _, _, _ => .error .malformed
  | fuel + 1, first, parts, t => do
    match ← nextElement '}' first t with
    | none => return (parts, t)
    | some t =>
      let t ← readMark '"' t
      let (name, t) ← readString t
      let (parts, t) ← readPart name parts t
      readParts readPart fuel false parts t

/-- The value behind a colon, for a member that must not be given twice. -/
def readOnce (name : Text) (known : Option α) (read : Reader α) (t : Text) :
    Except JsonError (Option α × Text) := do
  if known.isSome then throw (.shape (.duplicateField name))
  let t ← readMark ':' t
  let (x, t) ← read t
  return (some x, t)

/-- A member that has to be there. -/
def required (name : String) : Option α → Except JsonError α
  | some x => .ok x
  | none => .error (.shape (.missingField name))

/-- An element that is given in place of a member, if the list goes on. -/
def readItem (first : Bool) (read : Reader α) (t : Text) : Except JsonError (Option α × Text) := do
  match ← nextElement ']' first t with
  | none => return (none, t)
  | some t =>
    let (x, t) ← read t
    return (some x, t)

/-- An element that has to be there, the `place`th of a list. -/
def requiredItem (place : Nat) (expected : String) : Option α → Except JsonError α
  | some x => .ok x
  | none => .error (.shape (.invalidLength place expected))

/-- The number of ticks per second of a clock that does not tell it. -/
def defaultTicksPerSecond : Int := 1000000000

/-- A clock: an object, or a list of the same members. -/
def readClock : Reader ClockSpec := fun t =>
  match skipSpace t with
  | '{' :: rest => do
    let (parts, rest) ← readParts clockPart (t.length + 1) true ⟨none, none, none⟩ rest
    let rest ← readMark '}' rest
    return (⟨parts.ticksPerSecond.getD defaultTicksPerSecond, parts.originTicks.getD 0,
      parts.originTime.getD none⟩, rest)
  | '[' :: rest => do
    let (rate, rest) ← readItem true readInt64 rest
    let (origin, rest) ← readItem rate.isNone readInt64 rest
    let (time, rest) ← readItem rate.isNone (readOptional readText) rest
    let time ← requiredItem 2 "struct ClockSpec with 3 elements" time
    let rest ← readMark ']' rest
    return (⟨rate.getD defaultTicksPerSecond, origin.getD 0, time⟩, rest)
  | t => .error (mismatch "struct ClockSpec" t)
where
  /-- A member of a clock; unknown ones are skipped. -/
  clockPart (name : Text) (parts : ClockParts) (t : Text) : Except JsonError (ClockParts × Text) :=
    if name = "ticksPerSecond".toList then do
      let (x, t) ← readOnce name parts.ticksPerSecond readInt64 t
      return ({ parts with ticksPerSecond := x }, t)
    else if name = "originTicks".toList then do
      let (x, t) ← readOnce name parts.originTicks readInt64 t
      return ({ parts with originTicks := x }, t)
    else if name = "originTime".toList then do
      let (x, t) ← readOnce name parts.originTime (readOptional readText) t
      return ({ parts with originTime := x }, t)
    else do return (parts, ← skipValue (← readMark ':' t))

/-- The deepest nesting of objects and lists in a line, less one. -/
def depthLimit : Nat := 128

/-- The members of an object, in their order.  Two levels enclose their values. -/
def readMap : Reader (List (Text × Json)) := fun t =>
  match skipSpace t with
  | '{' :: rest => do
    let (members, rest) ←
      readElements '}' (readMember (readValue (depthLimit - 2))) (t.length + 1) true rest
    return (ofMembers members, rest)
  | t => .error (mismatch "a map" t)

/-- A record as it is given: an object, or a list of the same members. -/
def readEnvelopeValue : Reader Envelope := fun t =>
  match skipSpace t with
  | '{' :: rest => do
    let (parts, rest) ←
      readParts envelopePart (t.length + 1) true ⟨none, none, none, none, none⟩ rest
    let eventType ← required "type" parts.eventType
    let startTime ← required "startTime" parts.startTime
    let rest ← readMark '}' rest
    return (⟨eventType, startTime, parts.endTime.getD none, parts.clock.getD none,
      parts.fields.getD []⟩, rest)
  | '[' :: rest => do
    let (eventType, rest) ← readItem true readText rest
    let eventType ← requiredItem 0 expected eventType
    let (startTime, rest) ← readItem false readText rest
    let startTime ← requiredItem 1 expected startTime
    let (endTime, rest) ← readItem false (readOptional readText) rest
    let endTime ← requiredItem 2 expected endTime
    let (clock, rest) ← readItem false (readOptional readClock) rest
    let clock ← requiredItem 3 expected clock
    let (fields, rest) ← readItem false readMap rest
    let rest ← readMark ']' rest
    return (⟨eventType, startTime, endTime, clock, fields.getD []⟩, rest)
  | t => .error (mismatch "struct Envelope" t)
where
  /-- The description of a list of all members. -/
  expected : String := "struct Envelope with 5 elements"
  /-- A member of a record; unknown ones are skipped. -/
  envelopePart (name : Text) (parts : EnvelopeParts) (t : Text) :
      Except JsonError (EnvelopeParts × Text) :=
    if name = "type".toList then do
      let (x, t) ← readOnce name parts.eventType readText t
      return ({ parts with eventType := x }, t)
    else if name = "startTime".toList then do
      let (x, t) ← readOnce name parts.startTime readText t
      return ({ parts with startTime := x }, t)
    else if name = "endTime".toList then do
      let (x, t) ← readOnce name parts.endTime (readOptional readText) t
      return ({ parts with endTime := x }, t)
    else if name = "clock".toList then do
      let (x, t) ← readOnce name parts.clock (readOptional readClock) t
      return ({ parts with clock := x }, t)
    else if name = "fields".toList then do
      let (x, t) ← readOnce name parts.fields readMap t
      return ({ parts with fields := x }, t)
    else do return (parts, ← skipValue (← readMark ':' t))

/-- The record that a line gives; only white space may follow it. -/
def readEnvelope (line : Text) : Except JsonError Envelope := do
  let (envelope, rest) ← readEnvelopeValue line
  if isFinished rest then return envelope else throw .malformed

end Json

/-- What is wrong with the value of a field. -/
inductive FieldError where
  | ticksNotInteger
  | epochMillisNotInteger
  | instantNotString
  | timestamp (e : TimestampError)
  | frames (e : ShapeError)
  | unknownKind (tag : Text)
  deriving DecidableEq, Repr

/-- The wording of a fault in a field. -/
def FieldError.message : FieldError → Text
  | .ticksNotInteger => "$ticks must be an integer"
  | .epochMillisNotInteger => "$epochMillis must be an integer"
  | .instantNotString => "$instant must be a string"
  | .timestamp e => e.message
  | .frames e => "invalid $frames: " ++ e.message
  | .unknownKind tag => "unknown $kind '" ++ tag ++ "'"

/-- Why a line is no record. -/
inductive DecodeError where
  | json (e : JsonError)
  | timestamp (e : TimestampError)
  | field (name : Text) (e : FieldError)
  deriving DecidableEq, Repr

/-- The wording of a refused line.  How exactly a text fails to be JSON is not told. -/
def DecodeError.message : DecodeError → Text
  | .json .malformed => "Failed to parse JSONL record: <syntax>"
  | .json (.shape e) => "Failed to parse JSONL record: " ++ e.message
  | .timestamp e => e.message
  | .field name e => "field '" ++ name ++ "': " ++ e.message

namespace Frame

/-- The text of a member. -/
def textOfJson : Json → Except ShapeError Text
  | .str t => .ok t
  | value => .error (.invalidType value.found "a string")

/-- The line number of a member, an integer of 32 bits. -/
def lineOfJson : Json → Except ShapeError Int
  | .int i =>
    if -Int.pow 2 31 ≤ i ∧ i < Int.pow 2 31 then .ok i else .error (.invalidValue (.int i) "i32")
  | value => .error (.invalidType value.found "i32")

/-- The first fault among members, in their order. -/
def checkMembers : List (Text × Json) → Except ShapeError Unit
  | [] => .ok ()
  | (name, value) :: rest => do
    if name = "type".toList ∨ name = "method".toList then
      let _ ← textOfJson value
    else if name = "line".toList then
      let _ ← lineOfJson value
    checkMembers rest

/-- A member that has to be there. -/
def member (members : List (Text × Json)) (name : String) : Except ShapeError Json :=
  match members.lookup name.toList with
  | some value => .ok value
  | none => .error (.missingField name)

/-- An entry of a stack trace: an object, or a list of the same members.  The line number may be
left out. -/
def ofJson : Json → Except ShapeError Frame
  | .object members => do
    checkMembers members
    let typeName ← textOfJson (← member members "type")
    let method ← textOfJson (← member members "method")
    let line ← lineOfJson ((members.lookup "line".toList).getD (.int 0))
    return ⟨typeName, method, line⟩
  | .array items =>
    let short (n : Nat) : ShapeError := .invalidLength n "struct FrameSpec with 3 elements"
    match items with
    | [] => .error (short 0)
    | [typeName] => do
      let _ ← textOfJson typeName
      throw (short 1)
    | typeName :: method :: rest => do
      let typeName ← textOfJson typeName
      let method ← textOfJson method
      let line ← lineOfJson (rest.headD (.int 0))
      if 1 < rest.length then throw (.invalidLength items.length "fewer elements in array")
      return ⟨typeName, method, line⟩
  | value => .error (.invalidType value.found "struct FrameSpec")

end Frame

namespace Value

/-- The integer of a JSON value, if it is one of 64 bits with a sign. -/
def int64? : Json → Option Int
  | .int i => if i ≤ Json.maxInt then some i else none
  | _ => none

/-- The text of a JSON value, if it is a string. -/
def text? : Json → Option Text
  | .str t => some t
  | _ => none

/-- The stack trace of a JSON value. -/
def framesOfJson : Json → Except ShapeError (List Frame)
  | .array items => items.mapM Frame.ofJson
  | value => .error (.invalidType value.found "a sequence")

/-- The value of an object with a deciding member: a timestamp, an instant or a stack trace.  The
first of them that is present decides; all other members are ignored. -/
def ofMarked (clock : TickClock) (members : List (Text × Json)) :
    Option (Except FieldError Value) :=
  if let some ticks := members.lookup "$ticks".toList then
    some <| match int64? ticks with
      | some i => .ok (.int i (some (.ticks clock)))
      | none => .error .ticksNotInteger
  else if let some millis := members.lookup "$epochMillis".toList then
    some <| match int64? millis with
      | some i => .ok (.int i (some .epochMillis))
      | none => .error .epochMillisNotInteger
  else if let some text := members.lookup "$instant".toList then
    some <| match text? text with
      | some t => ((Instant.parse t).mapError .timestamp).map .instant
      | none => .error .instantNotString
  else if let some entries := members.lookup "$frames".toList then
    some <| ((framesOfJson entries).mapError .frames).map .frames
  else none

/-- The type that an object declares. -/
def declaredType (members : List (Text × Json)) : Text :=
  ((members.lookup "$type".toList).bind text?).getD "object".toList

/-- The kind that an object declares, generic if it declares none. -/
def declaredKind (members : List (Text × Json)) : Except FieldError ObjectKind :=
  match (members.lookup "$kind".toList).bind text? with
  | none => .ok .generic
  | some tag =>
    match ObjectKind.ofTag? tag with
    | some kind => .ok kind
    | none => .error (.unknownKind tag)

/-- The type of lists, whose fields are named by their places. -/
def arrayType : Text := "array"

mutual

/-- The value that a JSON value encodes, on a given clock. -/
def ofJson (clock : TickClock) : Json → Except FieldError Value
  | .null => .ok .null
  | .bool b => .ok (.bool b)
  | .int i => .ok (if i ≤ Json.maxInt then .int i none else .natural i.toNat)
  | .float x => .ok (.float x)
  | .str t => .ok (.str t)
  | .array items => (ofItems clock 0 items).map (.object arrayType .generic)
  | .object members =>
    match ofMarked clock members with
    | some result => result
    | none => do
      let kind ← declaredKind members
      return .object (declaredType members) kind (← ofMembers clock members)

/-- The fields of a list, named by their places from `place` on. -/
def ofItems (clock : TickClock) (place : Nat) : List Json → Except FieldError Fields
  | [] => .ok []
  | item :: rest => do
    let value ← ofJson clock item
    return (Decimal.digits place, value) :: (← ofItems clock (place + 1) rest)

/-- The fields of an object: all members but those that begin with a dollar sign. -/
def ofMembers (clock : TickClock) : List (Text × Json) → Except FieldError Fields
  | [] => .ok []
  | (name, member) :: rest =>
    if name.head? = some '$' then ofMembers clock rest
    else do
      let value ← ofJson clock member
      return (name, value) :: (← ofMembers clock rest)

end

end Value

namespace Record

/-- The clock that a specification describes. -/
def clockOf : Option ClockSpec → Except TimestampError TickClock
  | none => .ok .standard
  | some spec => do
    let originTime ← match spec.originTime with
      | some text => Instant.parse text
      | none => pure .epoch
    return ⟨spec.ticksPerSecond, spec.originTicks, originTime⟩

/-- The fields of a record, each on the record's clock. -/
def fieldsOf (clock : TickClock) : List (Text × Json) → Except DecodeError Fields
  | [] => .ok []
  | (name, value) :: rest => do
    let value ← (Value.ofJson clock value).mapError (.field name)
    return (name, value) :: (← fieldsOf clock rest)

/-- The record that an envelope describes.  Without an end it ends when it starts. -/
def ofEnvelope (e : Envelope) : Except DecodeError Record := do
  let startTime ← (Instant.parse e.startTime).mapError .timestamp
  let endTime ← match e.endTime with
    | some text => (Instant.parse text).mapError .timestamp
    | none => pure startTime
  let clock ← (clockOf e.clock).mapError .timestamp
  return ⟨e.eventType, startTime, endTime, ← fieldsOf clock e.fields⟩

/-- The record of a line.  Blanks around it do not matter. -/
def decode (line : Text) : Except DecodeError Record := do
  ofEnvelope (← (Json.readEnvelope (Text.trim line)).mapError .json)

end Record

end TraceText
