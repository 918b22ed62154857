import TraceText.Pipeline.Arrival
import TraceText.Router

/-!
# Pipelines

A pipeline routes what arrives and writes one block of text for each record that has a route.  It
counts what happens to records, over all calls that succeed.  When nobody reads its output any more
it is closed, and takes no more input.

## Main definitions

* `Counts` — what happened to records
* `Pipeline` — a router, how faults are treated, and what has happened so far
* `Step` — what a call results in, and what it changes
* `Pipeline.processStream`, `Pipeline.processRecords`, `Pipeline.processRecord`, `Pipeline.finish`
-/

namespace TraceText

/-- What happened to records. -/
structure Counts where
  processed : Nat
  written : Nat
  filtered : Nat
  errors : Nat
  deriving DecidableEq, Repr, Inhabited

namespace Counts

/-- Nothing has happened. -/
def zero : Counts := ⟨0, 0, 0, 0⟩

instance : Add Counts :=
  ⟨fun a b => ⟨a.processed + b.processed, a.written + b.written, a.filtered + b.filtered,
    a.errors + b.errors⟩⟩

@[simp] theorem add_zero (c : Counts) : c + zero = c := rfl

@[simp] theorem zero_add (c : Counts) : zero + c = c := by
  obtain ⟨processed, written, filtered, errors⟩ := c
  change Counts.mk _ _ _ _ = _
  simp only [zero, Nat.zero_add]

theorem add_assoc (a b c : Counts) : a + b + c = a + (b + c) := by
  change Counts.mk _ _ _ _ = Counts.mk _ _ _ _
  congr 1 <;> exact Nat.add_assoc _ _ _

end Counts

/-- How faults are treated. -/
inductive ErrorStrategy where
  /-- A fault is reported, and the record left out. -/
  | skip
  /-- A fault ends the call. -/
  | failFast
  deriving DecidableEq, Repr, Inhabited

/-- A fault that was passed over. -/
structure Warning where
  source : Text
  position : Nat
  error : ProcessingError
  deriving DecidableEq, Repr

/-- The wording of a warning. -/
def Warning.message (w : Warning) : Text :=
  w.source ++ ":" ++ Decimal.digits w.position ++ ": " ++ w.error.message ++ ", skipping"

/-- A router, how faults are treated, and what has happened so far. -/
structure Pipeline where
  router : Router
  strategy : ErrorStrategy
  /-- The most bytes that a line may have. -/
  maxLineLength : Nat
  /-- What happened in all calls that succeeded. -/
  counts : Counts
  /-- Whether nobody reads the output any more. -/
  isClosed : Bool
  deriving Inhabited

/-- How far a call has come. -/
structure Progress where
  counts : Counts
  sink : Sink
  warnings : List Warning
  deriving Inhabited

/-- One more record or line is being treated. -/
def Progress.countOne (s : Progress) : Progress :=
  { s with counts := { s.counts with processed := s.counts.processed + 1 } }

/-- Why a call ends. -/
inductive Stop where
  /-- Everything that arrived has been treated. -/
  | finished
  /-- Nobody reads the output any more. -/
  | closed
  | failed (e : ProcessingError)
  deriving DecidableEq, Repr

/-- What a call results in, and what it changes. -/
structure Step (α : Type) where
  result : Except ProcessingError α
  pipeline : Pipeline
  sink : Sink
  warnings : List Warning

namespace Pipeline

/-- The bytes that one line of a text may have, unless it is told otherwise. -/
def defaultMaxLineLength : Nat := 1048576

/-- A pipeline at its beginning. -/
def start (router : Router) (strategy : ErrorStrategy) (maxLineLength : Nat) : Pipeline :=
  ⟨router, strategy, maxLineLength, .zero, false⟩

/-- The text of a record; none if it is filtered out. -/
def processRecord (p : Pipeline) (r : Record) : Except ProcessingError (Option Text) :=
  (p.router.dispatch r).mapError (.render r.eventType)

/-- A fault, reported or fatal. -/
def handle (p : Pipeline) (source : Text) (position : Nat) (e : ProcessingError) (s : Progress) :
    Option Stop × Progress :=
  match p.strategy with
  | .failFast => (some (.failed e), s)
  | .skip =>
    (none, { s with
      counts := { s.counts with errors := s.counts.errors + 1 }
      warnings := s.warnings ++ [⟨source, position, e⟩] })

/-- A record written as a block of its own. -/
def emit (p : Pipeline) (source : Text) (position : Nat) (r : Record) (s : Progress) :
    Option Stop × Progress :=
  match p.processRecord r with
  | .ok (some text) =>
    match s.sink.write (Utf8.encode (text ++ ['\n'])) with
    | (sink, none) =>
      (none, { s with counts := { s.counts with written := s.counts.written + 1 }, sink := sink })
    | (sink, some e) =>
      -- a part of the block may have been written, but the record does not count as written
      (some (if e.kind = .brokenPipe then .closed else .failed (.io e)), { s with sink := sink })
  | .ok none =>
    (none, { s with counts := { s.counts with filtered := s.counts.filtered + 1 } })
  | .error e => p.handle source position e s

/-- What arrives, treated; why the call ends, if it does. -/
def receive (p : Pipeline) (source : Text) (s : Progress) : Arrival → Option Stop × Progress
  | .record position r => p.emit source position r s.countOne
  | .fault position e => p.handle source position e s.countOne
  | .failure e => (some (.failed (.io e)), s)

/-- Everything that arrives, treated in order until the call ends. -/
def drain (p : Pipeline) (source : Text) : List Arrival → Progress → Stop × Progress
  | [], s => (.finished, s)
  | a :: rest, s =>
    match p.receive source s a with
    | (none, s) => drain p source rest s
    | (some stop, s) => (stop, s)

/-- A call: what arrives is treated unless the output is closed.  A call that fails changes neither
the counts nor whether the output is closed. -/
def process (p : Pipeline) (source : Text) (arrivals : List Arrival) (sink : Sink) : Step Counts :=
  if p.isClosed then ⟨.ok .zero, p, sink, []⟩
  else
    let (stop, s) := p.drain source arrivals ⟨.zero, sink, []⟩
    match stop with
    | .finished => ⟨.ok s.counts, { p with counts := p.counts + s.counts }, s.sink, s.warnings⟩
    | .closed =>
      ⟨.ok s.counts, { p with counts := p.counts + s.counts, isClosed := true }, s.sink,
        s.warnings⟩
    | .failed e => ⟨.error e, p, s.sink, s.warnings⟩

/-- The name of input that has no name of its own. -/
def unnamedInput : Text := "<stdin>"

/-- The name of records that come without an input. -/
def unnamedRecords : Text := "<records>"

/-- Records read from an input, one on each line. -/
def processStream (p : Pipeline) (input : Input) (sink : Sink) (name : Option Text) : Step Counts :=
  p.process (name.getD unnamedInput) (input.arrivals p.maxLineLength) sink

/-- Records that are already decoded. -/
def processRecords (p : Pipeline) (records : List Record) (sink : Sink) : Step Counts :=
  p.process unnamedRecords (Arrival.ofRecords records) sink

/-- The output flushed.  That nobody reads it any more is no failure, but closes it. -/
def finish (p : Pipeline) (sink : Sink) : Step Unit :=
  if p.isClosed then ⟨.ok (), p, sink, []⟩
  else match sink.flushError with
    | none => ⟨.ok (), p, sink, []⟩
    | some e =>
      if e.kind = .brokenPipe then ⟨.ok (), { p with isClosed := true }, sink, []⟩
      else ⟨.error (.io e), p, sink, []⟩

end Pipeline

end TraceText
