import TraceText.Pipeline.Basic

/-!
# What a pipeline does about what arrives

Decoding and routing decide what is to be done about something that arrives, before the output and
the treatment of faults have a say: a block is written, a record is left out, a fault is handled,
or the input has failed.  A step of a call carries out this verdict.  Two calls that reach the same
verdicts can therefore be compared without looking at records at all.

## Main definitions

* `Verdict` — what is to be done about something that arrives
* `Pipeline.verdict` — the verdict of a pipeline, which depends on its router only
* `Pipeline.carryOut` — the step that follows from a verdict
* `Pipeline.conclude` — what a call results in once it has ended

## Main results

* `Pipeline.receive_eq_carryOut` — a step carries out the verdict on what arrived
* `Pipeline.drain_append` — what arrives first is treated first
* `Pipeline.process_preserves_sink` — whatever writing preserves, a call preserves
-/

namespace TraceText

/-- What is to be done about something that arrives. -/
inductive Verdict where
  | write (block : List UInt8)
  | leaveOut
  | fault (position : Nat) (e : ProcessingError)
  | fail (e : IoError)

/-- Why a call ends when a write fails. -/
def Stop.ofWriteError (e : IoError) : Stop :=
  if e.kind = .brokenPipe then .closed else .failed (.io e)

namespace Progress

/-- A block written.  What could not be written in full does not count as written. -/
def write (s : Progress) (block : List UInt8) : Option Stop × Progress :=
  match s.sink.write block with
  | (sink, none) =>
    (none, { s with counts := { s.counts with written := s.counts.written + 1 }, sink := sink })
  | (sink, some e) => (some (.ofWriteError e), { s with sink := sink })

/-- A record left out. -/
def leaveOut (s : Progress) : Progress :=
  { s with counts := { s.counts with filtered := s.counts.filtered + 1 } }

@[simp] theorem sink_countOne (s : Progress) : s.countOne.sink = s.sink := rfl

@[simp] theorem warnings_countOne (s : Progress) : s.countOne.warnings = s.warnings := rfl

@[simp] theorem sink_leaveOut (s : Progress) : s.leaveOut.sink = s.sink := rfl

@[simp] theorem warnings_leaveOut (s : Progress) : s.leaveOut.warnings = s.warnings := rfl

@[simp] theorem sink_write (s : Progress) (block : List UInt8) :
    (s.write block).2.sink = (s.sink.write block).1 := by
  unfold write
  split <;> simp [*]

@[simp] theorem warnings_write (s : Progress) (block : List UInt8) :
    (s.write block).2.warnings = s.warnings := by
  unfold write
  split <;> rfl

/-- Writing ends a call exactly if the output refuses a part of the block. -/
theorem stop_write (s : Progress) (block : List UInt8) :
    (s.write block).1 = (s.sink.write block).2.map .ofWriteError := by
  unfold write
  split <;> simp [*]

end Progress

namespace Pipeline

/-- The verdict on something that arrives. -/
def verdict (p : Pipeline) : Arrival → Verdict
  | .record position r =>
    match p.processRecord r with
    | .ok (some text) => .write (Utf8.encode (text ++ ['\n']))
    | .ok none => .leaveOut
    | .error e => .fault position e
  | .fault position e => .fault position e
  | .failure e => .fail e

/-- A verdict carried out.  Everything but a failure of the input counts as a record. -/
def carryOut (p : Pipeline) (source : Text) (s : Progress) : Verdict → Option Stop × Progress
  | .write block => s.countOne.write block
  | .leaveOut => (none, s.countOne.leaveOut)
  | .fault position e => p.handle source position e s.countOne
  | .fail e => (some (.failed (.io e)), s)

theorem receive_eq_carryOut (p : Pipeline) (source : Text) (s : Progress) (a : Arrival) :
    p.receive source s a = p.carryOut source s (p.verdict a) := by
  cases a with
  | record position r =>
    simp only [receive, emit, verdict]
    cases p.processRecord r with
    | ok text? => cases text? <;> rfl
    | error e => rfl
  | fault position e => rfl
  | failure e => rfl

@[simp] theorem sink_handle (p : Pipeline) (source : Text) (position : Nat) (e : ProcessingError)
    (s : Progress) : (p.handle source position e s).2.sink = s.sink := by
  unfold handle
  split <;> rfl

/-- No step ends a call as if everything had been treated. -/
theorem carryOut_ne_finished (p : Pipeline) (source : Text) (s : Progress) (v : Verdict) :
    (p.carryOut source s v).1 ≠ some .finished := by
  intro h
  cases v with
  | write block =>
    obtain ⟨e, -, he⟩ := Option.map_eq_some_iff.mp ((Progress.stop_write _ block).symm.trans h)
    unfold Stop.ofWriteError at he
    split at he <;> cases he
  | leaveOut => cases h
  | fault position e =>
    simp only [carryOut, handle] at h
    cases hs : p.strategy <;> simp [hs] at h
  | fail e => cases h

/-! ### Draining -/

theorem drain_cons (p : Pipeline) (source : Text) (a : Arrival) (rest : List Arrival)
    (s : Progress) :
    p.drain source (a :: rest) s =
      match p.carryOut source s (p.verdict a) with
      | (none, s) => p.drain source rest s
      | (some stop, s) => (stop, s) := by
  have hreceive : p.drain source (a :: rest) s =
      match p.receive source s a with
      | (none, s) => p.drain source rest s
      | (some stop, s) => (stop, s) := rfl
  rw [hreceive, receive_eq_carryOut]

/-- What arrives first is treated first; the rest is treated unless the call has ended. -/
theorem drain_append (p : Pipeline) (source : Text) (first rest : List Arrival) (s : Progress) :
    p.drain source (first ++ rest) s =
      match p.drain source first s with
      | (.finished, s) => p.drain source rest s
      | (.closed, s) => (.closed, s)
      | (.failed e, s) => (.failed e, s) := by
  induction first generalizing s with
  | nil => rfl
  | cons a first ih =>
    rw [List.cons_append, drain_cons, drain_cons]
    split
    · exact ih _
    · next stop t h =>
      -- the two sides differ on `finished` only, with which no step ends a call
      cases stop with
      | finished => exact absurd (congrArg Prod.fst h) (p.carryOut_ne_finished source s _)
      | closed => rfl
      | failed e => rfl

/-- What a call results in, and what it changes, from why it ends and how far it has come. -/
def conclude (p : Pipeline) : Stop × Progress → Step Counts
  | (.finished, s) =>
    ⟨.ok s.counts, { p with counts := p.counts + s.counts }, s.sink, s.warnings⟩
  | (.closed, s) =>
    ⟨.ok s.counts, { p with counts := p.counts + s.counts, isClosed := true }, s.sink, s.warnings⟩
  | (.failed e, s) => ⟨.error e, p, s.sink, s.warnings⟩

@[simp] theorem sink_conclude (p : Pipeline) (out : Stop × Progress) :
    (p.conclude out).sink = out.2.sink := by
  rcases out with ⟨_ | _ | _, s⟩ <;> rfl

@[simp] theorem warnings_conclude (p : Pipeline) (out : Stop × Progress) :
    (p.conclude out).warnings = out.2.warnings := by
  rcases out with ⟨_ | _ | _, s⟩ <;> rfl

theorem process_of_isClosed {p : Pipeline} (h : p.isClosed = true) (source : Text)
    (arrivals : List Arrival) (sink : Sink) :
    p.process source arrivals sink = ⟨.ok .zero, p, sink, []⟩ := by
  rw [process, if_pos h]

theorem process_of_not_isClosed {p : Pipeline} (h : p.isClosed = false) (source : Text)
    (arrivals : List Arrival) (sink : Sink) :
    p.process source arrivals sink =
      p.conclude (p.drain source arrivals ⟨.zero, sink, []⟩) := by
  rw [process, if_neg (by simp [h])]
  rcases p.drain source arrivals ⟨.zero, sink, []⟩ with ⟨_ | _ | _, s⟩ <;> rfl

/-! ### An output changes only by writes -/

section Preservation

variable {P : Sink → Prop} (hwrite : ∀ sink block, P sink → P (sink.write block).1)

include hwrite

theorem carryOut_preserves_sink (p : Pipeline) (source : Text) {s : Progress} (h : P s.sink)
    (v : Verdict) : P (p.carryOut source s v).2.sink := by
  cases v with
  | write block =>
    rw [carryOut, Progress.sink_write]
    exact hwrite _ block h
  | leaveOut => exact h
  | fault position e =>
    rw [carryOut, sink_handle]
    exact h
  | fail e => exact h

theorem drain_preserves_sink (p : Pipeline) (source : Text) (arrivals : List Arrival)
    {s : Progress} (h : P s.sink) : P (p.drain source arrivals s).2.sink := by
  induction arrivals generalizing s with
  | nil => exact h
  | cons a rest ih =>
    have hstep := carryOut_preserves_sink hwrite p source h (p.verdict a)
    rw [drain_cons]
    rcases hc : p.carryOut source s (p.verdict a) with ⟨_ | stop, t⟩
    · rw [hc] at hstep
      exact ih hstep
    · rw [hc] at hstep
      exact hstep

/-- Whatever writing preserves, a call preserves. -/
theorem process_preserves_sink (p : Pipeline) (source : Text) (arrivals : List Arrival)
    {sink : Sink} (h : P sink) : P (p.process source arrivals sink).sink := by
  cases hc : p.isClosed with
  | true =>
    rw [process_of_isClosed hc]
    exact h
  | false =>
    rw [process_of_not_isClosed hc, sink_conclude]
    exact drain_preserves_sink hwrite p source arrivals h

end Preservation

end Pipeline

end TraceText
