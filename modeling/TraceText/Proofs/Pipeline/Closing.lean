import TraceText.Proofs.Pipeline.Demand
import TraceText.Proofs.Pipeline.Ending
import TraceText.Proofs.Pipeline.Use

/-!
# When an output is closed

A pipeline is closed by the call in which it learns that nobody reads its output any more: a write
of a record or the flush fails for this reason, and the call succeeds nevertheless.  From then on it
is at rest.  Calls change nothing, write and report nothing, and take nothing of their input, not
even to find out that it fails; nor is a flush tried that would fail.  A call that fails leaves no
trace in the pipeline, whatever it has written.

## Main definitions

* `Pipeline.BreaksWriting` — a write of a record fails since nobody reads the output
* `Pipeline.Closes` — a use in which the output turns out to be closed
* `Pipeline.taken` — how much a use takes of its input
* `Use.AgreesUpTo` — two uses whose inputs begin alike
* `Pipeline.IdlesOn` — a use that does nothing

## Main results

* `Pipeline.answer_congr` — a use does not depend on what it does not take
* `Pipeline.isClosed_answer_iff` — which uses close an output
* `Pipeline.idlesOn_of_isClosed` — a closed pipeline does nothing
* `Pipeline.isClosed_over_uses` — the closed flag over any uses
-/

namespace TraceText

namespace Pipeline

/-- While what arrives is treated, a write of a record fails since nobody reads the output. -/
def BreaksWriting (p : Pipeline) (source : Text) (arrivals : List Arrival) (sink : Sink) : Prop :=
  ∃ before position r after s text e,
    p.Reaches source arrivals ⟨.zero, sink, []⟩ before (.record position r) after s ∧
      p.processRecord r = .ok (some text) ∧
      (s.sink.write (Utf8.encode (text ++ ['\n']))).2 = some e ∧ e.kind = .brokenPipe

/-- A use in which a write of a record or the flush fails since nobody reads the output. -/
def Closes (p : Pipeline) (u : Use) : Prop :=
  match u.call with
  | .stream input name =>
    p.BreaksWriting (name.getD unnamedInput) (input.arrivals p.maxLineLength) u.sink
  | .records records => p.BreaksWriting unnamedRecords (Arrival.ofRecords records) u.sink
  | .record _ => False
  | .finish flushError => ∃ e, flushError = some e ∧ e.kind = .brokenPipe

/-- How many lines or records a use takes of its input. -/
def taken (p : Pipeline) (u : Use) : Nat :=
  match u.call with
  | .stream input name => p.linesTaken input u.sink name
  | .records records => p.recordsTaken records u.sink
  | .record _ => 0
  | .finish _ => 0

end Pipeline

namespace Use

/-- How many lines or records the input of a use has. -/
def supply (u : Use) : Nat :=
  match u.call with
  | .stream input _ => input.lines.length
  | .records records => records.length
  | .record _ => 0
  | .finish _ => 0

/-- Two uses that differ in nothing but what is behind the first `n` lines or records of their
inputs. -/
def AgreesUpTo (n : Nat) (u v : Use) : Prop :=
  v.sink = u.sink ∧ match u.call, v.call with
    | .stream input name, .stream other name' =>
      name' = name ∧ other.lines.take n = input.lines.take n
    | .records records, .records other => other.take n = records.take n
    | c, c' => c' = c

end Use

namespace Pipeline

/-- A use that leaves some of its input does not depend on what is behind the lines or records that
it takes. -/
theorem answer_congr (p : Pipeline) {u v : Use} (hmore : p.taken u < u.supply)
    (hsame : u.AgreesUpTo (p.taken u) v) : p.answer v = p.answer u := by
  obtain ⟨c, sink⟩ := u
  obtain ⟨c', sink'⟩ := v
  obtain ⟨rfl, hcall⟩ := hsame
  cases c with
  | stream input name =>
    cases c' with
    | stream other name' =>
      obtain ⟨rfl, hlines⟩ := hcall
      exact congrArg (Step.map Answer.counts) (p.processStream_congr hmore hlines)
    | _ => cases hcall
  | records records =>
    cases c' with
    | records other => exact congrArg (Step.map Answer.counts) (p.processRecords_congr hmore hcall)
    | _ => cases hcall
  | record r => exact absurd hmore (Nat.not_lt_zero _)
  | finish flushError => exact absurd hmore (Nat.not_lt_zero _)

/-- What a use gives back that does nothing: looking at a single record is no more than that. -/
def idleResult (p : Pipeline) : Call → Except ProcessingError Answer
  | .stream _ _ => .ok (.counts .zero)
  | .records _ => .ok (.counts .zero)
  | .record r => (p.processRecord r).map .text
  | .finish _ => .ok .done

/-- A use that takes and writes nothing, reports nothing and changes nothing. -/
structure IdlesOn (p : Pipeline) (u : Use) : Prop where
  result_eq : (p.answer u).result = p.idleResult u.call
  pipeline_eq : (p.answer u).pipeline = p
  accepted_eq : (p.answer u).sink.accepted = u.sink.accepted
  warnings_eq : (p.answer u).warnings = []
  taken_eq : p.taken u = 0
  /-- It depends on nothing in its input. -/
  answer_eq : ∀ v, u.AgreesUpTo 0 v → p.answer v = p.answer u

/-! ### Closing -/

theorem verdict_eq_write_iff {p : Pipeline} {a : Arrival} {block : List UInt8} :
    p.verdict a = .write block ↔
      ∃ position r text, a = .record position r ∧ p.processRecord r = .ok (some text) ∧
        block = Utf8.encode (text ++ ['\n']) := by
  constructor
  · intro h
    cases a with
    | record position r =>
      simp only [verdict] at h
      split at h
      · next text htext => exact ⟨position, r, text, rfl, htext, (Verdict.write.inj h).symm⟩
      · cases h
      · cases h
    | fault position e => cases h
    | failure e => cases h
  · rintro ⟨position, r, text, rfl, htext, rfl⟩
    simp only [verdict, htext]

theorem ofWriteError_eq_closed_iff {e : IoError} :
    Stop.ofWriteError e = .closed ↔ e.kind = .brokenPipe := by
  unfold Stop.ofWriteError
  split <;> simp [*]

/-- A step closes the output if nobody reads the block that it writes. -/
theorem carryOut_eq_closed_iff (p : Pipeline) (source : Text) (s : Progress) (v : Verdict) :
    (p.carryOut source s v).1 = some .closed ↔
      ∃ block e, v = .write block ∧ (s.sink.write block).2 = some e ∧ e.kind = .brokenPipe := by
  rw [carryOut_eq_some_iff]
  constructor
  · rintro (⟨block, e, rfl, he, hstop⟩ | ⟨_, _, _, _, hstop⟩ | ⟨_, _, hstop⟩)
    · exact ⟨block, e, rfl, he, ofWriteError_eq_closed_iff.mp hstop.symm⟩
    · cases hstop
    · cases hstop
  · rintro ⟨block, e, rfl, he, hkind⟩
    exact .inl ⟨block, e, rfl, he, (ofWriteError_eq_closed_iff.mpr hkind).symm⟩

theorem drain_eq_closed_iff (p : Pipeline) (source : Text) (arrivals : List Arrival) (sink : Sink) :
    (p.drain source arrivals ⟨.zero, sink, []⟩).1 = .closed ↔
      p.BreaksWriting source arrivals sink := by
  constructor
  · intro h
    obtain ⟨before, a, after, s, hreaches, hend⟩ :=
      (p.drain_eq_iff source arrivals _ _ (by simp)).mp (Prod.ext h rfl)
    obtain ⟨block, e, hverdict, he, hkind⟩ :=
      (p.carryOut_eq_closed_iff source s _).mp (congrArg Prod.fst hend)
    obtain ⟨position, r, text, rfl, htext, rfl⟩ := verdict_eq_write_iff.mp hverdict
    exact ⟨before, position, r, after, s, text, e, hreaches, htext, he, hkind⟩
  · rintro ⟨before, position, r, after, s, text, e, hreaches, htext, he, hkind⟩
    have hverdict := verdict_eq_write_iff.mpr ⟨position, r, text, rfl, htext, rfl⟩
    have hend := (p.carryOut_eq_closed_iff source s _).mpr ⟨_, e, hverdict, he, hkind⟩
    exact congrArg Prod.fst
      ((p.drain_eq_iff source arrivals _ _ (by simp)).mpr
        ⟨before, .record position r, after, s, hreaches, Prod.ext hend rfl⟩)

/-- Processing closes an open pipeline exactly if nobody reads a record that it writes, and then it
succeeds. -/
theorem isClosed_process_iff {p : Pipeline} (h : p.isClosed = false) (source : Text)
    (arrivals : List Arrival) (sink : Sink) :
    ((p.process source arrivals sink).pipeline.isClosed = true ↔
        p.BreaksWriting source arrivals sink) ∧
      (p.BreaksWriting source arrivals sink →
        ∃ a, ((p.process source arrivals sink).map Answer.counts).result = .ok a) := by
  rw [process_of_not_isClosed h, ← drain_eq_closed_iff]
  rcases p.drain source arrivals ⟨.zero, sink, []⟩ with ⟨_ | _ | e, s⟩ <;>
    simp [conclude, Step.map, Except.map, h]

/-- Flushing closes an open pipeline exactly if nobody reads its output, and then it succeeds. -/
theorem isClosed_finish_iff {p : Pipeline} (h : p.isClosed = false) (sink : Sink) :
    ((p.finish sink).pipeline.isClosed = true ↔
        ∃ e, sink.flushError = some e ∧ e.kind = .brokenPipe) ∧
      ((∃ e, sink.flushError = some e ∧ e.kind = .brokenPipe) →
        ∃ a, ((p.finish sink).map fun _ => Answer.done).result = .ok a) := by
  simp only [finish, h]
  cases hf : sink.flushError with
  | none => simp [h]
  | some e =>
    by_cases hkind : e.kind = .brokenPipe
    · simp [hkind, Step.map, Except.map]
    · simp [hkind, h]

/-- A use closes an open pipeline exactly if it finds out that nobody reads the output, and then
it succeeds. -/
theorem isClosed_answer_iff {p : Pipeline} (h : p.isClosed = false) (u : Use) :
    ((p.answer u).pipeline.isClosed = true ↔ p.Closes u) ∧
      (p.Closes u → ∃ a, (p.answer u).result = .ok a) := by
  obtain ⟨call, sink⟩ := u
  cases call with
  | stream input name => exact isClosed_process_iff h _ _ sink
  | records records => exact isClosed_process_iff h _ _ sink
  | record r => simp [answer, call, Closes, h]
  | finish flushError => exact isClosed_finish_iff h { sink with flushError := flushError }

/-! ### Rest -/

theorem IdlesOn.of_answer_eq {p : Pipeline} {u : Use} {sink : Sink}
    (h : p.answer u = ⟨p.idleResult u.call, p, sink, []⟩)
    (hsink : sink.accepted = u.sink.accepted) (htaken : p.taken u = 0)
    (hcongr : ∀ v, u.AgreesUpTo 0 v → p.answer v = p.answer u) : p.IdlesOn u where
  result_eq := by rw [h]
  pipeline_eq := by rw [h]
  accepted_eq := by rw [h, hsink]
  warnings_eq := by rw [h]
  taken_eq := htaken
  answer_eq := hcongr

/-- A closed pipeline answers alike whatever the input is. -/
theorem answer_congr_of_isClosed {p : Pipeline} (h : p.isClosed = true) {u v : Use}
    (hsame : u.AgreesUpTo 0 v) : p.answer v = p.answer u := by
  obtain ⟨c, sink⟩ := u
  obtain ⟨c', sink'⟩ := v
  obtain ⟨rfl, hcall⟩ := hsame
  cases c with
  | stream input name =>
    cases c' with
    | stream other name' =>
      simp only [answer, call, processStream, process_of_isClosed h]
    | _ => cases hcall
  | records records =>
    cases c' with
    | records other => simp only [answer, call, processRecords, process_of_isClosed h]
    | _ => cases hcall
  | record r =>
    cases c' with
    | record r' => rw [Call.record.inj hcall]
    | _ => cases hcall
  | finish flushError =>
    cases c' with
    | finish flushError' => rw [Call.finish.inj hcall]
    | _ => cases hcall

/-- A closed pipeline does nothing, whatever it is asked to do. -/
theorem idlesOn_of_isClosed {p : Pipeline} (h : p.isClosed = true) (u : Use) : p.IdlesOn u := by
  have hprocess (source : Text) (arrivals : List Arrival) (sink : Sink) :
      (p.process source arrivals sink).map Answer.counts = ⟨.ok (.counts .zero), p, sink, []⟩ :=
    congrArg (Step.map Answer.counts) (process_of_isClosed h source arrivals sink)
  have hcongr (v : Use) : u.AgreesUpTo 0 v → p.answer v = p.answer u := answer_congr_of_isClosed h
  obtain ⟨call, sink⟩ := u
  cases call with
  | stream input name => exact .of_answer_eq (hprocess _ _ sink) rfl (if_pos h) hcongr
  | records records => exact .of_answer_eq (hprocess _ _ sink) rfl (if_pos h) hcongr
  | record r => exact .of_answer_eq rfl rfl rfl hcongr
  | finish flushError =>
    have hfinish : p.finish { sink with flushError := flushError } =
        ⟨.ok (), p, { sink with flushError := flushError }, []⟩ := if_pos h
    exact .of_answer_eq (congrArg (Step.map fun _ => Answer.done) hfinish) rfl rfl hcongr

/-- A closed pipeline stays as it is. -/
theorem after_of_isClosed {p : Pipeline} (h : p.isClosed = true) (uses : List Use) :
    p.after uses = p := by
  induction uses with
  | nil => rfl
  | cons u rest ih => rw [after_cons, (idlesOn_of_isClosed h u).pipeline_eq, ih]

/-! ### Failure -/

/-- A call that fails changes nothing in the pipeline. -/
theorem pipeline_process_of_error {p : Pipeline} {source : Text} {arrivals : List Arrival}
    {sink : Sink} {e : ProcessingError} (h : (p.process source arrivals sink).result = .error e) :
    (p.process source arrivals sink).pipeline = p := by
  cases hc : p.isClosed with
  | true => rw [process_of_isClosed hc]
  | false =>
    rw [process_of_not_isClosed hc] at h ⊢
    generalize p.drain source arrivals ⟨.zero, sink, []⟩ = out at h ⊢
    obtain ⟨_ | _ | e', s⟩ := out
    · cases h
    · cases h
    · rfl

theorem pipeline_finish_of_error {p : Pipeline} {sink : Sink} {e : ProcessingError}
    (h : (p.finish sink).result = .error e) : (p.finish sink).pipeline = p := by
  unfold finish at h ⊢
  split at h
  · cases h
  · split at h
    · cases h
    · next hopen _ _ hflush =>
      split at h
      · cases h
      · next hkind => simp [hopen, hkind]

theorem result_of_map_eq_error {α : Type} {f : α → Answer} {s : Step α} {e : ProcessingError}
    (h : (s.map f).result = .error e) : s.result = .error e := by
  obtain ⟨result, pipeline, sink, warnings⟩ := s
  cases result with
  | ok a => cases h
  | error e' => exact congrArg Except.error (Except.error.inj h)

/-- A use that fails changes nothing in the pipeline. -/
theorem pipeline_answer_of_error {p : Pipeline} {u : Use} {e : ProcessingError}
    (h : (p.answer u).result = .error e) : (p.answer u).pipeline = p := by
  obtain ⟨call, sink⟩ := u
  cases call with
  | stream input name => exact pipeline_process_of_error (result_of_map_eq_error h)
  | records records => exact pipeline_process_of_error (result_of_map_eq_error h)
  | record r => rfl
  | finish flushError => exact pipeline_finish_of_error (result_of_map_eq_error h)

/-- The closed flag over any uses.  A closed pipeline stays so for ever and idles; an open one is
closed exactly by a use that finds out that nobody reads the output, which then succeeds; and a
use that fails changes neither the flag nor the counts, nor anything else. -/
theorem isClosed_over_uses (p : Pipeline) (past : List Use) (u : Use) :
    let q := p.after past
    (q.isClosed = true → q.IdlesOn u ∧ ∀ later, q.after later = q) ∧
      (q.isClosed = false →
        ((q.answer u).pipeline.isClosed = true ↔ q.Closes u) ∧
          (q.Closes u → ∃ a, (q.answer u).result = .ok a)) ∧
      ∀ e, (q.answer u).result = .error e → (q.answer u).pipeline = q := by
  intro q
  refine ⟨?_, ?_, ?_⟩
  · intro h
    exact ⟨idlesOn_of_isClosed h u, after_of_isClosed h⟩
  · intro h
    exact isClosed_answer_iff h u
  · intro e h
    exact pipeline_answer_of_error h

/-- A flush that fails for another reason is an error of the open pipeline and changes nothing; the
second of two records closes the output; and then a flush that would fail is not even tried. -/
theorem isClosed_over_failure_closing_rest :
    let p := start (.constant ['x']) .failFast 10
    let failing : Use := ⟨.finish (some ⟨.other, []⟩), .unbounded⟩
    let closing : Use := ⟨.records [default, default], .abandonedAfter 3⟩
    let q := p.after [failing, closing]
    (p.answer failing).pipeline = p ∧ p.Closes closing ∧ q.isClosed = true ∧ q.IdlesOn failing := by
  intro p failing closing q
  have herror : (p.answer failing).result = .error (.io ⟨.other, []⟩) := rfl
  have hclosed : (p.answer closing).pipeline.isClosed = true := by decide
  have hq : q.isClosed = true := by decide
  refine ⟨(isClosed_over_uses p [] failing).2.2 _ herror, ?_, hq, ?_⟩
  · exact ((isClosed_over_uses p [] closing).2.1 rfl).1.mp hclosed
  · exact ((isClosed_over_uses p [failing, closing] failing).1 hq).1

end Pipeline

end TraceText
