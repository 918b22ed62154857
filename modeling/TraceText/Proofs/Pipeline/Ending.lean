import TraceText.Proofs.Pipeline.Verdict

/-!
# Where a call ends

A call ends early at the first thing whose treatment ends it: a write that fails, a fault if faults
are fatal, or a failure of the input.  Everything that arrived before has then been treated.

## Main definitions

* `Pipeline.Reaches` — a call comes to something that arrives

## Main results

* `Pipeline.carryOut_eq_some_iff` — why a step ends a call
* `Pipeline.drain_eq_iff` — a call ends early at the first step that ends it
-/

namespace TraceText

namespace Pipeline

/-- A call that begins with `s` comes to `a`: it has treated what arrives before and has then come
as far as `t`. -/
structure Reaches (p : Pipeline) (source : Text) (arrivals : List Arrival) (s : Progress)
    (before : List Arrival) (a : Arrival) (after : List Arrival) (t : Progress) : Prop where
  arrivals_eq : arrivals = before ++ a :: after
  drain_eq : p.drain source before s = (.finished, t)

/-- A step ends a call if a write fails, if a fault is fatal, or if the input fails. -/
theorem carryOut_eq_some_iff (p : Pipeline) (source : Text) (s : Progress) (v : Verdict)
    (stop : Stop) :
    (p.carryOut source s v).1 = some stop ↔
      (∃ block e, v = .write block ∧ (s.sink.write block).2 = some e ∧ stop = .ofWriteError e) ∨
        (∃ position e, v = .fault position e ∧ p.strategy = .failFast ∧ stop = .failed e) ∨
          ∃ e, v = .fail e ∧ stop = .failed (.io e) := by
  cases v with
  | write block =>
    simp only [carryOut, Progress.stop_write, Progress.sink_countOne, Option.map_eq_some_iff,
      Verdict.write.injEq, reduceCtorEq, false_and, exists_false, or_false]
    constructor
    · rintro ⟨e, he, rfl⟩
      exact ⟨block, e, rfl, he, rfl⟩
    · rintro ⟨_, e, rfl, he, rfl⟩
      exact ⟨e, he, rfl⟩
  | leaveOut => simp [carryOut]
  | fault position e =>
    simp only [carryOut, handle]
    cases p.strategy with
    | skip => simp
    | failFast =>
      simp only [Verdict.fault.injEq, reduceCtorEq, false_and, exists_false, or_false,
        false_or, true_and, Option.some.injEq]
      constructor
      · rintro rfl
        exact ⟨position, e, ⟨rfl, rfl⟩, rfl⟩
      · rintro ⟨_, _, ⟨rfl, rfl⟩, rfl⟩
        rfl
  | fail e => simp [carryOut, eq_comm]

/-- A call ends early at the first thing whose treatment ends it. -/
theorem drain_eq_iff (p : Pipeline) (source : Text) (arrivals : List Arrival) (s t : Progress)
    {stop : Stop} (hstop : stop ≠ .finished) :
    p.drain source arrivals s = (stop, t) ↔
      ∃ before a after u, p.Reaches source arrivals s before a after u ∧
        p.carryOut source u (p.verdict a) = (some stop, t) := by
  constructor
  · intro h
    induction arrivals generalizing s with
    | nil => exact absurd (congrArg Prod.fst h).symm hstop
    | cons a rest ih =>
      rw [drain_cons] at h
      rcases hc : p.carryOut source s (p.verdict a) with ⟨_ | stop', s'⟩
      · rw [hc] at h
        obtain ⟨before, b, after, u, hreaches, hend⟩ := ih s' h
        refine ⟨a :: before, b, after, u, ⟨?_, ?_⟩, hend⟩
        · rw [hreaches.arrivals_eq, List.cons_append]
        · rw [drain_cons, hc]
          exact hreaches.drain_eq
      · rw [hc] at h
        obtain ⟨rfl, rfl⟩ := Prod.mk.inj h
        exact ⟨[], a, rest, s, ⟨rfl, rfl⟩, hc⟩
  · rintro ⟨before, a, after, u, ⟨rfl, hbefore⟩, hend⟩
    rw [drain_append, hbefore]
    simp only [drain_cons, hend]

end Pipeline

end TraceText
