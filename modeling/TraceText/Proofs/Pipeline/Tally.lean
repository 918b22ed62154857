import TraceText.Proofs.Pipeline.Use

/-!
# What a pipeline counts

Every record or line that is processed is written, filtered out or an error, with one exception: the
record whose write closes the output is none of these, since nobody has read it.  So the counts that
a call reports balance up to this one record, and the counts of a pipeline are the sum of those that
its calls have reported, calls that failed having reported none.

## Main definitions

* `Counts.Balances` — everything that was processed is accounted for, but for some records
* `Counts.total` — counts added up
* `Step.counts?` — the counts that a call reports
* `Pipeline.turnsClosed` — whether a call closes the output

## Main results

* `Pipeline.drain_isAccounted` — a call accounts for all but the record that closes the output
* `Pipeline.counts_answer` — a call adds what it reports to the counts of its pipeline
* `Pipeline.counts_balance_and_add_up` — reported counts balance, and the pipeline adds them up
-/

namespace TraceText

namespace Counts

/-- All that was processed was written, filtered out or an error, but for `missing` records. -/
def Balances (c : Counts) (missing : Nat) : Prop :=
  c.processed = c.written + c.filtered + c.errors + missing

/-- Counts added up, field by field. -/
def total (counts : List Counts) : Counts := counts.foldr (· + ·) zero

theorem total_cons (c : Counts) (counts : List Counts) : total (c :: counts) = c + total counts :=
  rfl

end Counts

/-- The counts that a call reports, if it reports any. -/
def Step.counts? (s : Step Answer) : Option Counts :=
  match s.result with
  | .ok (.counts c) => some c
  | _ => none

namespace Pipeline

/-! ### One call -/

/-- A call that has ended accounts for everything but the record that closed the output.  Of a call
that fails nothing is reported. -/
def IsAccounted : Stop × Progress → Prop
  | (.finished, s) => s.counts.Balances 0
  | (.closed, s) => s.counts.Balances 1
  | (.failed _, _) => True

/-- A step accounts for what it has treated. -/
theorem carryOut_isAccounted (p : Pipeline) (source : Text) {s : Progress}
    (h : s.counts.Balances 0) (v : Verdict) :
    match p.carryOut source s v with
    | (none, t) => t.counts.Balances 0
    | (some stop, t) => IsAccounted (stop, t) := by
  unfold Counts.Balances at h
  cases v with
  | write block =>
    simp only [carryOut, Progress.write, Progress.sink_countOne]
    rcases s.sink.write block with ⟨sink, _ | e⟩
    · simp only [Counts.Balances, Progress.countOne]
      omega
    · -- the record counts as processed, and as nothing else
      simp only [Stop.ofWriteError]
      by_cases he : e.kind = .brokenPipe
      · simp only [if_pos he, IsAccounted, Counts.Balances, Progress.countOne]
        omega
      · simp only [if_neg he, IsAccounted]
  | leaveOut =>
    simp only [carryOut, Progress.leaveOut, Progress.countOne, Counts.Balances]
    omega
  | fault position e =>
    simp only [carryOut, handle]
    cases p.strategy with
    | failFast => trivial
    | skip =>
      simp only [Progress.countOne, Counts.Balances]
      omega
  | fail e => trivial

/-- A call accounts for everything but the record that closes the output. -/
theorem drain_isAccounted (p : Pipeline) (source : Text) (arrivals : List Arrival) {s : Progress}
    (h : s.counts.Balances 0) : IsAccounted (p.drain source arrivals s) := by
  induction arrivals generalizing s with
  | nil => exact h
  | cons a rest ih =>
    have hstep := p.carryOut_isAccounted source h (p.verdict a)
    rw [drain_cons]
    generalize p.carryOut source s (p.verdict a) = x at hstep ⊢
    obtain ⟨_ | stop, t⟩ := x
    · exact ih hstep
    · exact hstep

/-- Whether a call that is made on `p` and leaves `q` closes the output. -/
def turnsClosed (p q : Pipeline) : Bool := !p.isClosed && q.isClosed

/-- The counts that processing reports balance, but for a record that closes the output. -/
theorem process_balances (p : Pipeline) (source : Text) (arrivals : List Arrival) (sink : Sink)
    {c : Counts} (h : (p.process source arrivals sink).result = .ok c) :
    c.Balances (if p.turnsClosed (p.process source arrivals sink).pipeline then 1 else 0) := by
  cases hc : p.isClosed with
  | true =>
    rw [process_of_isClosed hc] at h ⊢
    obtain rfl : Counts.zero = c := Except.ok.inj h
    simp [turnsClosed, hc, Counts.Balances, Counts.zero]
  | false =>
    have haccounted : IsAccounted (p.drain source arrivals ⟨.zero, sink, []⟩) :=
      p.drain_isAccounted source arrivals rfl
    rw [process_of_not_isClosed hc] at h ⊢
    -- the two ways to succeed differ in the flag and in the record that is missing
    generalize p.drain source arrivals ⟨.zero, sink, []⟩ = out at h haccounted ⊢
    obtain ⟨_ | _ | e, s⟩ := out
    · obtain rfl : s.counts = c := Except.ok.inj h
      simpa [conclude, turnsClosed, hc, IsAccounted] using haccounted
    · obtain rfl : s.counts = c := Except.ok.inj h
      simpa [conclude, turnsClosed, hc, IsAccounted] using haccounted
    · cases h

/-- Processing adds what it reports to the counts of its pipeline. -/
theorem counts_process (p : Pipeline) (source : Text) (arrivals : List Arrival) (sink : Sink) :
    (p.process source arrivals sink).pipeline.counts =
      p.counts + ((p.process source arrivals sink).map Answer.counts).counts?.getD .zero := by
  cases hc : p.isClosed with
  | true =>
    rw [process_of_isClosed hc]
    rfl
  | false =>
    rw [process_of_not_isClosed hc]
    rcases p.drain source arrivals ⟨.zero, sink, []⟩ with ⟨_ | _ | e, s⟩ <;> rfl

theorem counts_finish (p : Pipeline) (sink : Sink) :
    (p.finish sink).pipeline.counts = p.counts := by
  unfold finish
  split
  · rfl
  · split
    · rfl
    · split <;> rfl

theorem counts?_finish (p : Pipeline) (sink : Sink) :
    ((p.finish sink).map fun _ => Answer.done).counts? = none := by
  simp only [Step.counts?, Step.map]
  cases (p.finish sink).result <;> rfl

theorem counts?_map_eq_some {s : Step Counts} {c : Counts}
    (h : (s.map Answer.counts).counts? = some c) : s.result = .ok c := by
  obtain ⟨result, pipeline, sink, warnings⟩ := s
  cases result with
  | ok c' =>
    obtain rfl : c' = c := Option.some.inj h
    rfl
  | error e => cases h

/-- What a call reports balances, but for a record that closes the output. -/
theorem answer_balances (p : Pipeline) (u : Use) {c : Counts}
    (h : (p.answer u).counts? = some c) :
    c.Balances (if p.turnsClosed (p.answer u).pipeline then 1 else 0) := by
  obtain ⟨call, sink⟩ := u
  cases call with
  | stream input name => exact p.process_balances _ _ sink (counts?_map_eq_some h)
  | records records => exact p.process_balances _ _ sink (counts?_map_eq_some h)
  | record r =>
    simp only [answer, call, Step.counts?] at h
    cases hr : p.processRecord r <;> simp [hr, Except.map] at h
  | finish flushError =>
    exact absurd ((p.counts?_finish _).symm.trans h) (by simp)

/-- A call adds what it reports to the counts of its pipeline. -/
theorem counts_answer (p : Pipeline) (u : Use) :
    (p.answer u).pipeline.counts = p.counts + (p.answer u).counts?.getD .zero := by
  obtain ⟨call, sink⟩ := u
  cases call with
  | stream input name => exact p.counts_process _ _ sink
  | records records => exact p.counts_process _ _ sink
  | record r =>
    change p.counts = _
    simp only [answer, call, Step.counts?]
    cases p.processRecord r <;> rfl
  | finish flushError =>
    have hnone : (p.answer ⟨.finish flushError, sink⟩).counts? = none := p.counts?_finish _
    rw [hnone]
    exact p.counts_finish _

/-! ### Runs -/

/-- The counts of a pipeline grow by what uses report. -/
theorem counts_after (p : Pipeline) (uses : List Use) :
    (p.after uses).counts =
      p.counts + .total ((p.answers uses).filterMap Step.counts?) := by
  induction uses generalizing p with
  | nil => rfl
  | cons u rest ih =>
    rw [after_cons, answers_cons, ih, counts_answer, Counts.add_assoc]
    cases hu : (p.answer u).counts? with
    | none => simp [hu]
    | some c => simp [hu, Counts.total_cons]

/-- After any uses to a new pipeline its counts are the sum of the counts reported so far, and
what the next use reports balances, but for one record if it closes the output. -/
theorem counts_balance_and_add_up (router : Router) (strategy : ErrorStrategy)
    (maxLineLength : Nat) (uses : List Use) :
    let new := start router strategy maxLineLength
    let p := new.after uses
    p.counts = .total ((new.answers uses).filterMap Step.counts?) ∧
      ∀ u c, (p.answer u).counts? = some c →
        c.Balances (if p.turnsClosed (p.answer u).pipeline then 1 else 0) := by
  intro new p
  constructor
  · have h := new.counts_after uses
    have hnew : new.counts = .zero := rfl
    rwa [hnew, Counts.zero_add] at h
  · intro u c h
    exact p.answer_balances u h

/-- Of two records the second one closes the output: it counts as processed, and as nothing else. -/
theorem counts_balance_of_closing :
    let p := start (.constant ['x']) .failFast 10
    let u : Use := ⟨.records [default, default], .abandonedAfter 3⟩
    (p.answer u).counts? = some ⟨2, 1, 0, 0⟩ ∧ p.turnsClosed (p.answer u).pipeline = true ∧
      Counts.Balances ⟨2, 1, 0, 0⟩ (if p.turnsClosed (p.answer u).pipeline then 1 else 0) := by
  intro p u
  have h : (p.answer u).counts? = some ⟨2, 1, 0, 0⟩ := by decide
  exact ⟨h, by decide, (counts_balance_and_add_up _ _ _ []).2 u _ h⟩

end Pipeline

end TraceText
