import TraceText.Proofs.Pipeline.Call

/-!
# Outputs that are cut off

An output with room for a number of bytes accepts, over any calls of a pipeline, exactly the first
bytes of what an output without a bound accepts.  The two runs are in step until the bound cuts a
block, possibly in its middle.  From then on they may differ in everything, since one of them closes
its output or fails; but a full output accepts nothing more, whatever the pipeline still does.

## Main definitions

* `Sink.bounded` — an output with room for a number of bytes
* `Sink.Truncates` — an output has accepted the first bytes of what another one has
* `Pipeline.InStep` — how two runs are related that differ in the room of their outputs

## Main results

* `Pipeline.drain_inStep` — two calls stay in step until an output is cut off
* `Pipeline.InStep.call`, `Pipeline.InStep.run` — calls keep two runs related
-/

namespace TraceText

namespace Sink

/-- An output with room for `limit` bytes. -/
def bounded (limit : Nat) (writeError : IoError) : Sink := ⟨#[], some limit, writeError, none⟩

/-- Whether an output accepts nothing more. -/
def IsFull (s : Sink) : Prop := s.room = some 0

theorem IsFull.write {s : Sink} (h : s.IsFull) (bytes : List UInt8) : (s.write bytes).1 = s := by
  obtain ⟨accepted, room, writeError, flushError⟩ := s
  obtain rfl : room = some 0 := h
  by_cases hb : bytes.length ≤ 0
  · obtain rfl : bytes = [] := List.length_eq_zero_iff.mp (Nat.le_zero.mp hb)
    simp [Sink.write]
  · simp [Sink.write, hb]

/-- A write that fails leaves no room. -/
theorem isFull_write {s : Sink} {bytes : List UInt8} {e : IoError}
    (h : (s.write bytes).2 = some e) : (s.write bytes).1.IsFull := by
  cases hr : s.room with
  | none => simp [write, hr] at h
  | some n =>
    by_cases hb : bytes.length ≤ n
    · simp [write, hr, hb] at h
    · simp [write, hr, hb, IsFull]

/-- The output `s` has accepted the first `limit` bytes of what `t` has, and has room for what is
missing up to the limit; `t` has no bound. -/
structure Truncates (limit : Nat) (s t : Sink) : Prop where
  accepted_eq : s.accepted.toList = t.accepted.toList.take limit
  room_eq : s.room = some (limit - t.accepted.size)
  unbounded : t.room = none

namespace Truncates

variable {limit : Nat} {s t : Sink}

theorem write_right_eq_none (h : Truncates limit s t) (bytes : List UInt8) :
    (t.write bytes).2 = none :=
  (accepted_write_of_room_eq_none h.unbounded bytes).2

/-- Both outputs are given the same bytes. -/
theorem write (h : Truncates limit s t) (bytes : List UInt8) :
    Truncates limit (s.write bytes).1 (t.write bytes).1 := by
  have ht := (accepted_write_of_room_eq_none h.unbounded bytes).1
  refine ⟨?_, ?_, ?_⟩
  · rw [(accepted_write_of_room_eq_some h.room_eq bytes).1, ht, h.accepted_eq, List.take_append,
      Array.length_toList]
  · rw [← Array.length_toList, ht, List.length_append, Array.length_toList]
    -- the missing room shrinks by the block, or to nothing if the block is cut
    by_cases hb : bytes.length ≤ limit - t.accepted.size
    · simp only [Sink.write, h.room_eq, if_pos hb, Option.some.injEq]
      omega
    · simp only [Sink.write, h.room_eq, if_neg hb, Option.some.injEq]
      omega
  · simp [Sink.write, h.unbounded]

/-- Once the bounded output is full, what the other one is given makes no difference. -/
theorem write_right (h : Truncates limit s t) (hfull : s.IsFull) (bytes : List UInt8) :
    Truncates limit s (t.write bytes).1 := by
  have hboth := h.write bytes
  rwa [hfull.write] at hboth

theorem setFlushError (h : Truncates limit s t) (e e' : Option IoError) :
    Truncates limit { s with flushError := e } { t with flushError := e' } :=
  ⟨h.accepted_eq, h.room_eq, h.unbounded⟩

end Truncates

/-- The output `s` has been cut off, and has the first bytes of what `t` has accepted. -/
def CutOff (limit : Nat) (s t : Sink) : Prop := Truncates limit s t ∧ s.IsFull

namespace CutOff

variable {limit : Nat} {s t : Sink}

theorem write_left (h : CutOff limit s t) (bytes : List UInt8) :
    CutOff limit (s.write bytes).1 t := by
  rwa [h.2.write]

theorem write_right (h : CutOff limit s t) (bytes : List UInt8) :
    CutOff limit s (t.write bytes).1 :=
  ⟨h.1.write_right h.2 bytes, h.2⟩

end CutOff

end Sink

/-! ### One call -/

/-- Two calls have come equally far, but for the room of their outputs. -/
structure Progress.InStep (limit : Nat) (s t : Progress) : Prop where
  counts_eq : s.counts = t.counts
  warnings_eq : s.warnings = t.warnings
  truncates : s.sink.Truncates limit t.sink

namespace Pipeline

variable {limit : Nat}

/-- A step keeps two calls in step and ends both or none, or else it cuts off the output of the
first one. -/
theorem carryOut_inStep (p : Pipeline) (source : Text) {s t : Progress} (h : s.InStep limit t)
    (v : Verdict) :
    Sink.CutOff limit (p.carryOut source s v).2.sink (p.carryOut source t v).2.sink ∨
      (p.carryOut source s v).1 = (p.carryOut source t v).1 ∧
        (p.carryOut source s v).2.InStep limit (p.carryOut source t v).2 := by
  cases v with
  | write block =>
    have hsink := h.truncates.write block
    rcases ht : t.sink.write block with ⟨right, e'⟩
    obtain rfl : e' = none := by
      simpa only [ht] using h.truncates.write_right_eq_none block
    rcases hs : s.sink.write block with ⟨left, _ | e⟩
    · -- the block fits, and both calls count it
      right
      rw [hs, ht] at hsink
      simp only [carryOut, Progress.write, Progress.sink_countOne, hs, ht, true_and]
      exact ⟨by simp only [Progress.countOne, h.counts_eq], h.warnings_eq, hsink⟩
    · -- the block is cut, which only the first call notices
      left
      have hfull := Sink.isFull_write (congrArg Prod.snd hs)
      simp only [carryOut, Progress.sink_write, Progress.sink_countOne]
      exact ⟨hsink, hfull⟩
  | leaveOut =>
    right
    refine ⟨rfl, ?_, h.warnings_eq, h.truncates⟩
    simp only [carryOut, Progress.leaveOut, Progress.countOne, h.counts_eq]
  | fault position e =>
    right
    simp only [carryOut, handle]
    cases p.strategy with
    | failFast =>
      exact ⟨rfl, by simp only [Progress.countOne, h.counts_eq], h.warnings_eq, h.truncates⟩
    | skip =>
      refine ⟨rfl, ?_, ?_, h.truncates⟩
      · simp only [Progress.countOne, h.counts_eq]
      · simp only [Progress.countOne, h.warnings_eq]
  | fail e => exact .inr ⟨rfl, h⟩

/-- An output that has been cut off stays so, whatever the rest of either call writes. -/
theorem drain_cutOff (p q : Pipeline) (source source' : Text) (rest rest' : List Arrival)
    {s t : Progress} (h : Sink.CutOff limit s.sink t.sink) :
    Sink.CutOff limit (p.drain source rest s).2.sink (q.drain source' rest' t).2.sink :=
  drain_preserves_sink (P := fun sink => Sink.CutOff limit sink _)
    (fun _ block hcut => hcut.write_left block) p source rest
    (drain_preserves_sink (P := Sink.CutOff limit s.sink)
      (fun _ block hcut => hcut.write_right block) q source' rest' h)

/-- The same arrivals, treated by two calls in step. -/
theorem drain_inStep (p : Pipeline) (source : Text) (arrivals : List Arrival) {s t : Progress}
    (h : s.InStep limit t) :
    Sink.CutOff limit (p.drain source arrivals s).2.sink (p.drain source arrivals t).2.sink ∨
      (p.drain source arrivals s).1 = (p.drain source arrivals t).1 ∧
        (p.drain source arrivals s).2.InStep limit (p.drain source arrivals t).2 := by
  induction arrivals generalizing s t with
  | nil => exact .inr ⟨rfl, h⟩
  | cons a rest ih =>
    have hstep := p.carryOut_inStep source h (p.verdict a)
    rw [drain_cons, drain_cons]
    generalize p.carryOut source s (p.verdict a) = x at hstep ⊢
    generalize p.carryOut source t (p.verdict a) = y at hstep ⊢
    obtain ⟨stop, s'⟩ := x
    obtain ⟨stop', t'⟩ := y
    rcases hstep with hcut | ⟨hstop, hstep⟩
    · -- the two calls may end apart from here on; one that has ended drains nothing more
      left
      cases stop <;> cases stop'
      · exact drain_cutOff p p source source rest rest hcut
      · exact drain_cutOff p p source source rest [] hcut
      · exact drain_cutOff p p source source [] rest hcut
      · exact hcut
    · obtain rfl : stop = stop' := hstop
      cases stop with
      | none => exact ih hstep
      | some stop => exact .inr ⟨rfl, hstep⟩

/-! ### Runs -/

/-- Two runs are in step but for the room of their outputs, or else the first output has been cut
off. -/
def InStep (limit : Nat) (x y : Pipeline × Sink) : Prop :=
  Sink.CutOff limit x.2 y.2 ∨ x.1 = y.1 ∧ Sink.Truncates limit x.2 y.2

theorem InStep.truncates {x y : Pipeline × Sink} (h : InStep limit x y) :
    Sink.Truncates limit x.2 y.2 := by
  rcases h with hcut | ⟨-, htruncates⟩
  · exact hcut.1
  · exact htruncates

/-- Processing keeps two runs with one pipeline in step, or cuts off the first output. -/
theorem process_inStep (p : Pipeline) (source : Text) (arrivals : List Arrival) {s t : Sink}
    (h : s.Truncates limit t) :
    InStep limit ((p.process source arrivals s).pipeline, (p.process source arrivals s).sink)
      ((p.process source arrivals t).pipeline, (p.process source arrivals t).sink) := by
  cases hc : p.isClosed with
  | true =>
    rw [process_of_isClosed hc, process_of_isClosed hc]
    exact .inr ⟨rfl, h⟩
  | false =>
    have hstart : Progress.InStep limit ⟨.zero, s, []⟩ ⟨.zero, t, []⟩ := ⟨rfl, rfl, h⟩
    have hdrain := p.drain_inStep source arrivals hstart
    rw [process_of_not_isClosed hc, process_of_not_isClosed hc]
    generalize p.drain source arrivals ⟨.zero, s, []⟩ = x at hdrain ⊢
    generalize p.drain source arrivals ⟨.zero, t, []⟩ = y at hdrain ⊢
    obtain ⟨stop, s'⟩ := x
    obtain ⟨stop', t'⟩ := y
    rcases hdrain with hcut | ⟨hstop, hdrain⟩
    · left
      simpa only [sink_conclude] using hcut
    · -- for one reason and with the same counts, both calls leave the same pipeline
      right
      obtain rfl : stop = stop' := hstop
      have hcounts : s'.counts = t'.counts := hdrain.counts_eq
      refine ⟨?_, by simpa only [sink_conclude] using hdrain.truncates⟩
      cases stop <;> simp only [conclude, hcounts]

/-- Flushing keeps two runs with one pipeline in step. -/
theorem finish_inStep (p : Pipeline) (flushError : Option IoError) {s t : Sink}
    (h : s.Truncates limit t) :
    InStep limit ((p.call s (.finish flushError)).pipeline, (p.call s (.finish flushError)).sink)
      ((p.call t (.finish flushError)).pipeline, (p.call t (.finish flushError)).sink) := by
  right
  simp only [call, Step.map, sink_finish]
  refine ⟨?_, h.setFlushError flushError flushError⟩
  unfold finish
  split
  · rfl
  · cases flushError with
    | none => rfl
    | some e => dsimp only; split <;> rfl

/-- Every call keeps two runs related. -/
theorem InStep.call {p q : Pipeline} {s t : Sink} (h : InStep limit (p, s) (q, t)) (c : Call) :
    InStep limit ((p.call s c).pipeline, (p.call s c).sink)
      ((q.call t c).pipeline, (q.call t c).sink) := by
  rcases h with hcut | ⟨hpipeline, htruncates⟩
  · -- the pipelines may differ, so the outputs change one after the other
    left
    have hright : Sink.CutOff limit s (q.call t c).sink :=
      call_preserves_sink (fun _ block hcut => hcut.write_right block)
        (fun _ _ hcut => ⟨hcut.1.setFlushError s.flushError _, hcut.2⟩) q hcut c
    exact call_preserves_sink (P := fun sink => Sink.CutOff limit sink (q.call t c).sink)
      (fun _ block hcut => hcut.write_left block)
      (fun _ _ hcut => ⟨hcut.1.setFlushError _ (q.call t c).sink.flushError, hcut.2⟩) p hright c
  · obtain rfl : p = q := hpipeline
    cases c with
    | stream input name => exact p.process_inStep _ _ htruncates
    | records records => exact p.process_inStep _ _ htruncates
    | record r => exact .inr ⟨rfl, htruncates⟩
    | finish flushError => exact p.finish_inStep flushError htruncates

theorem InStep.run {p q : Pipeline} {s t : Sink} (h : InStep limit (p, s) (q, t))
    (calls : List Call) : InStep limit (p.run s calls) (q.run t calls) := by
  induction calls generalizing p q s t with
  | nil => exact h
  | cons c rest ih =>
    rw [run_cons, run_cons]
    exact ih (h.call c)

/-- An output with room for `limit` bytes accepts the first `limit` bytes of what an output without
a bound accepts, whichever calls are made and whatever the failure of its writes. -/
theorem accepted_run_bounded (p : Pipeline) (calls : List Call) (limit : Nat)
    (writeError : IoError) :
    (p.run (.bounded limit writeError) calls).2.accepted.toList =
      (p.run .unbounded calls).2.accepted.toList.take limit := by
  have hstart : Sink.Truncates limit (.bounded limit writeError) .unbounded :=
    ⟨by simp [Sink.bounded, Sink.unbounded], rfl, rfl⟩
  have hrelated : InStep limit (p, .bounded limit writeError) (p, .unbounded) :=
    .inr ⟨rfl, hstart⟩
  exact (hrelated.run calls).truncates.accepted_eq

end Pipeline

end TraceText
