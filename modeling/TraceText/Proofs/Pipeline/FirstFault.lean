import TraceText.Proofs.Pipeline.Position

/-!
# The first fault

A fault ends a strict call, while a lenient one reports it and goes on.  Up to the first fault the
two do the same, so a strict call is determined by the lenient one: without a warning they agree,
and otherwise the strict call ends with the fault of the first warning, having written what the
lenient call had written when it came to that place.

## Main definitions

* `Pipeline.strict`, `Pipeline.lenient` — a pipeline with one or the other treatment of faults
* `EndsAtFirstFault` — how a strict call is determined by lenient ones

## Main results

* `Pipeline.drain_strict` — the two treatments agree up to the first fault
* `Pipeline.process_strict` — a strict call ends at the first fault
-/

namespace TraceText

/-- A strict call and the lenient call on the same input, where `before k` is the lenient call on
what precedes position `k`. -/
def EndsAtFirstFault (strict lenient : Step Counts) (before : Nat → Step Counts) : Prop :=
  match lenient.warnings with
  | [] =>
    strict.result = lenient.result ∧ strict.sink = lenient.sink ∧
      strict.pipeline.isClosed = lenient.pipeline.isClosed
  | w :: _ =>
    strict.result = .error w.error ∧ strict.sink = (before w.position).sink ∧
      (before w.position).warnings = [] ∧ strict.pipeline.isClosed = false

namespace Pipeline

/-- The pipeline, if a fault ends a call. -/
def strict (p : Pipeline) : Pipeline := { p with strategy := .failFast }

/-- The pipeline, if a fault is reported and its record left out. -/
def lenient (p : Pipeline) : Pipeline := { p with strategy := .skip }

@[simp] theorem verdict_strict (p : Pipeline) (a : Arrival) : p.strict.verdict a = p.verdict a :=
  rfl

@[simp] theorem verdict_lenient (p : Pipeline) (a : Arrival) :
    p.lenient.verdict a = p.verdict a := rfl

theorem carryOut_strict_fault (p : Pipeline) (source : Text) (s : Progress) (position : Nat)
    (e : ProcessingError) :
    p.strict.carryOut source s (.fault position e) = (some (.failed e), s.countOne) := rfl

theorem carryOut_lenient_fault (p : Pipeline) (source : Text) (s : Progress) (position : Nat)
    (e : ProcessingError) :
    (p.lenient.carryOut source s (.fault position e)).1 = none ∧
      (p.lenient.carryOut source s (.fault position e)).2.warnings =
        s.warnings ++ [⟨source, position, e⟩] := ⟨rfl, rfl⟩

/-- Where there is no fault, faults need no treatment, and nothing is reported. -/
theorem carryOut_of_not_fault (p : Pipeline) (source : Text) (s : Progress) {v : Verdict}
    (h : ∀ position e, v ≠ .fault position e) :
    p.strict.carryOut source s v = p.lenient.carryOut source s v ∧
      (p.lenient.carryOut source s v).2.warnings = s.warnings := by
  cases v with
  | write block => exact ⟨rfl, by simp [carryOut]⟩
  | leaveOut => exact ⟨rfl, rfl⟩
  | fault position e => exact absurd rfl (h position e)
  | fail e => exact ⟨rfl, rfl⟩

/-- Warnings are only ever added. -/
theorem warnings_prefix_carryOut (p : Pipeline) (source : Text) (s : Progress) (v : Verdict) :
    s.warnings <+: (p.carryOut source s v).2.warnings := by
  cases v with
  | write block => simp [carryOut]
  | leaveOut => exact List.prefix_rfl
  | fault position e =>
    simp only [carryOut, handle]
    cases p.strategy with
    | failFast => exact List.prefix_rfl
    | skip => exact List.prefix_append _ _
  | fail e => exact List.prefix_rfl

theorem warnings_prefix_drain (p : Pipeline) (source : Text) (arrivals : List Arrival)
    (s : Progress) : s.warnings <+: (p.drain source arrivals s).2.warnings := by
  induction arrivals generalizing s with
  | nil => exact List.prefix_rfl
  | cons a rest ih =>
    have hstep := p.warnings_prefix_carryOut source s (p.verdict a)
    rw [drain_cons]
    generalize p.carryOut source s (p.verdict a) = x at hstep ⊢
    obtain ⟨_ | stop, t⟩ := x
    · exact hstep.trans (ih t)
    · exact hstep

/-- The two treatments of faults agree up to the first fault.  There the strict call ends with
the error that the lenient one reports. -/
theorem drain_strict (p : Pipeline) (source : Text) (arrivals : List Arrival) (s : Progress) :
    (p.strict.drain source arrivals s = p.lenient.drain source arrivals s ∧
        (p.lenient.drain source arrivals s).2.warnings = s.warnings) ∨
      ∃ before a after w later t,
        arrivals = before ++ a :: after ∧ a.position? = some w.position ∧
          p.lenient.drain source before s = (.finished, t) ∧ t.warnings = s.warnings ∧
          (p.lenient.drain source arrivals s).2.warnings = s.warnings ++ w :: later ∧
          p.strict.drain source arrivals s = (.failed w.error, t.countOne) := by
  induction arrivals generalizing s with
  | nil => exact .inl ⟨rfl, rfl⟩
  | cons a rest ih =>
    by_cases hv : ∃ position e, p.verdict a = .fault position e
    · -- this is the first fault; the lenient call goes on and only adds warnings behind this one
      obtain ⟨position, e, hv⟩ := hv
      right
      obtain ⟨hnone, hwarnings⟩ := p.carryOut_lenient_fault source s position e
      rw [drain_cons, drain_cons, verdict_strict, verdict_lenient, hv, carryOut_strict_fault]
      generalize p.lenient.carryOut source s (.fault position e) = x at hnone hwarnings ⊢
      obtain ⟨stop, t⟩ := x
      obtain rfl : stop = none := hnone
      obtain ⟨later, hlater⟩ := p.lenient.warnings_prefix_drain source rest t
      refine ⟨[], a, rest, ⟨source, position, e⟩, later, s, rfl,
        position?_of_verdict_eq_fault hv, rfl, rfl, ?_, rfl⟩
      dsimp only at hwarnings ⊢
      rw [← hlater, hwarnings, List.append_assoc]
      rfl
    · -- both calls take the same step, which reports nothing
      have hfault : ∀ position e, p.verdict a ≠ .fault position e := by
        intro position e heq
        exact hv ⟨position, e, heq⟩
      obtain ⟨hsame, hwarnings⟩ := p.carryOut_of_not_fault source s hfault
      rw [drain_cons, drain_cons, verdict_strict, verdict_lenient, hsame]
      rcases hx : p.lenient.carryOut source s (p.verdict a) with ⟨_ | stop, t⟩
      · rw [hx] at hwarnings
        have ht : t.warnings = s.warnings := hwarnings
        rcases ih t with ⟨hrest, hnone⟩ | ⟨before, b, after, w, later, u, rfl, hposition,
          hbefore, hu, hlater, hstrict⟩
        · exact .inl ⟨hrest, hnone.trans ht⟩
        · refine .inr ⟨a :: before, b, after, w, later, u, rfl, hposition, ?_, hu.trans ht, ?_,
            hstrict⟩
          · rw [drain_cons, verdict_lenient, hx]
            exact hbefore
          · rw [← ht]
            exact hlater
      · rw [hx] at hwarnings
        exact .inl ⟨rfl, hwarnings⟩

/-- What a call results in depends on the treatment of faults only through how it has ended. -/
theorem conclude_strict (p : Pipeline) (out : Stop × Progress) :
    (p.strict.conclude out).result = (p.lenient.conclude out).result ∧
      (p.strict.conclude out).pipeline.isClosed = (p.lenient.conclude out).pipeline.isClosed := by
  rcases out with ⟨_ | _ | _, s⟩ <;> exact ⟨rfl, rfl⟩

/-- A strict call ends at the first fault, if `before` gives the lenient call on what precedes
a position. -/
theorem process_strict (p : Pipeline) (source : Text) (arrivals : List Arrival) (sink : Sink)
    {before : Nat → Step Counts}
    (hbefore : ∀ first a after position, arrivals = first ++ a :: after →
      a.position? = some position → before position = p.lenient.process source first sink) :
    EndsAtFirstFault (p.strict.process source arrivals sink)
      (p.lenient.process source arrivals sink) before := by
  cases hc : p.isClosed with
  | true =>
    have hstrict : p.strict.isClosed = true := hc
    have hlenient : p.lenient.isClosed = true := hc
    rw [process_of_isClosed hstrict, process_of_isClosed hlenient]
    exact ⟨rfl, rfl, rfl⟩
  | false =>
    have hstrict : p.strict.isClosed = false := hc
    have hlenient : p.lenient.isClosed = false := hc
    unfold EndsAtFirstFault
    rcases p.drain_strict source arrivals ⟨.zero, sink, []⟩ with ⟨hsame, hnone⟩ |
      ⟨first, a, after, w, later, t, harrivals, hposition, hfirst, ht, hlater, hfailed⟩
    · rw [process_of_not_isClosed hstrict, process_of_not_isClosed hlenient, hsame,
        warnings_conclude, hnone]
      obtain ⟨hresult, hclosed⟩ :=
        p.conclude_strict (p.lenient.drain source arrivals ⟨.zero, sink, []⟩)
      refine ⟨hresult, ?_, hclosed⟩
      rw [sink_conclude, sink_conclude]
    · have hcall := hbefore first a after w.position harrivals hposition
      rw [process_of_not_isClosed hlenient, hfirst] at hcall
      rw [process_of_not_isClosed hstrict, process_of_not_isClosed hlenient, hfailed,
        warnings_conclude, hlater]
      refine ⟨rfl, ?_, ?_, hc⟩
      · rw [hcall]
        rfl
      · rw [hcall]
        exact ht

/-- A strict call ends at the first fault, be it on an input or on records: without a warning it
is the lenient call; else it fails with the error of the first warning, having written what the
lenient call writes of the lines or records before the one the warning is about. -/
theorem strict_endsAtFirstFault (p : Pipeline) (sink : Sink) :
    (∀ input name, EndsAtFirstFault
      (p.strict.processStream input sink name) (p.lenient.processStream input sink name)
      fun k => p.lenient.processStream (input.firstLines (k - 1)) sink name) ∧
    ∀ records, EndsAtFirstFault
      (p.strict.processRecords records sink) (p.lenient.processRecords records sink)
      fun k => p.lenient.processRecords (records.take (k - 1)) sink := by
  constructor
  · intro input name
    refine p.process_strict _ _ sink ?_
    intro first a after position harrivals hposition
    rw [processStream, Input.arrivals_before harrivals hposition]
    rfl
  · intro records
    refine p.process_strict _ _ sink ?_
    intro first a after position harrivals hposition
    rw [processRecords, Arrival.ofRecords_before harrivals hposition]

end Pipeline

end TraceText
