import TraceText.Proofs.Pipeline.Verdict

/-!
# Calls of a pipeline, one after another

A pipeline is used by calls in any order: inputs and records are processed, single records are
looked at, and the output is flushed.  The pipeline and its output pass from one call to the next.

## Main definitions

* `Call` — a call, with everything but the pipeline and its output
* `Answer` — what a call gives back if it succeeds
* `Pipeline.call`, `Pipeline.run` — one call, and calls one after another

## Main results

* `Pipeline.call_preserves_sink` — a call changes an output only by writing and flushing
-/

namespace TraceText

/-- A call of a pipeline. -/
inductive Call where
  | stream (input : Input) (name : Option Text)
  | records (records : List Record)
  | record (r : Record)
  /-- The output is flushed, which fails with this error if there is one. -/
  | finish (flushError : Option IoError)

/-- What a call gives back if it succeeds. -/
inductive Answer where
  | counts (c : Counts)
  | text (t : Option Text)
  | done
  deriving DecidableEq

/-- A call whose result is changed if it succeeds. -/
def Step.map {α β : Type} (f : α → β) (step : Step α) : Step β :=
  { step with result := step.result.map f }

namespace Pipeline

/-- A call on a pipeline and its output. -/
def call (p : Pipeline) (sink : Sink) : Call → Step Answer
  | .stream input name => (p.processStream input sink name).map .counts
  | .records records => (p.processRecords records sink).map .counts
  | .record r => ⟨(p.processRecord r).map .text, p, sink, []⟩
  | .finish flushError =>
    (p.finish { sink with flushError := flushError }).map fun _ => .done

/-- The pipeline and its output after calls one after another. -/
def run (p : Pipeline) (sink : Sink) : List Call → Pipeline × Sink
  | [] => (p, sink)
  | c :: rest => run (p.call sink c).pipeline (p.call sink c).sink rest

@[simp] theorem run_nil (p : Pipeline) (sink : Sink) : p.run sink [] = (p, sink) := rfl

theorem run_cons (p : Pipeline) (sink : Sink) (c : Call) (rest : List Call) :
    p.run sink (c :: rest) = (p.call sink c).pipeline.run (p.call sink c).sink rest := rfl

@[simp] theorem sink_finish (p : Pipeline) (sink : Sink) : (p.finish sink).sink = sink := by
  unfold finish
  split
  · rfl
  · split
    · rfl
    · split <;> rfl

/-- Whatever writing and another fate of the next flush preserve, a call preserves. -/
theorem call_preserves_sink {P : Sink → Prop}
    (hwrite : ∀ sink block, P sink → P (sink.write block).1)
    (hflush : ∀ sink e, P sink → P { sink with flushError := e })
    (p : Pipeline) {sink : Sink} (h : P sink) (c : Call) : P (p.call sink c).sink := by
  cases c with
  | stream input name => exact process_preserves_sink hwrite p _ _ h
  | records records => exact process_preserves_sink hwrite p _ _ h
  | record r => exact h
  | finish flushError =>
    change P (p.finish { sink with flushError := flushError }).sink
    rw [sink_finish]
    exact hflush sink flushError h

end Pipeline

end TraceText
