import TraceText.Proofs.Pipeline.Verdict

/-!
# What a call does not see of places

A pipeline carries the places of what arrives along and looks at none of them: they only come out
again in warnings and errors.  Neither does it look at what it has counted and reported before.  So
a call on the same things at other places, continued from some other progress, goes on in the same
way and differs only in the places that it names and in what it had counted and reported already.

## Main definitions

* `Relabeling` — other places, and what errors and warnings say of them
* `Relabeling.resume` — progress under other places, behind earlier progress
* `Relabeling.same`, `Progress.behind` — the same places, and progress behind earlier progress there

## Main results

* `Pipeline.drain_relabel` — a call on the same things at other places
* `Pipeline.drain_behind` — a call that goes on from earlier progress
-/

namespace TraceText

/-- Other places for what arrives.  Errors may name their place; those of rendering, writing and
reading do not. -/
structure Relabeling where
  source : Text → Text
  position : Nat → Nat
  error : ProcessingError → ProcessingError
  error_render : ∀ event e, error (.render event e) = .render event e
  error_io : ∀ e, error (.io e) = .io e

namespace Relabeling

/-- What arrives, at its other place. -/
def arrival (ρ : Relabeling) : Arrival → Arrival
  | .record position r => .record (ρ.position position) r
  | .fault position e => .fault (ρ.position position) (ρ.error e)
  | .failure e => .failure e

/-- A verdict on something that arrives at its other place. -/
def verdict (ρ : Relabeling) : Verdict → Verdict
  | .fault position e => .fault (ρ.position position) (ρ.error e)
  | .write block => .write block
  | .leaveOut => .leaveOut
  | .fail e => .fail e

/-- A warning about its other place. -/
def warning (ρ : Relabeling) (w : Warning) : Warning :=
  ⟨ρ.source w.source, ρ.position w.position, ρ.error w.error⟩

/-- Why a call ends, with the other place in its error. -/
def stop (ρ : Relabeling) : Stop → Stop
  | .finished => .finished
  | .closed => .closed
  | .failed e => .failed (ρ.error e)

/-- The progress `t` under other places, behind earlier progress that has led to its output. -/
def resume (ρ : Relabeling) (earlier t : Progress) : Progress :=
  ⟨earlier.counts + t.counts, t.sink, earlier.warnings ++ t.warnings.map ρ.warning⟩

@[simp] theorem sink_resume (ρ : Relabeling) (earlier t : Progress) :
    (ρ.resume earlier t).sink = t.sink := rfl

/-- Nothing has been done since. -/
theorem resume_self (ρ : Relabeling) (s : Progress) : ρ.resume s ⟨.zero, s.sink, []⟩ = s := by
  obtain ⟨counts, sink, warnings⟩ := s
  simp [resume]

theorem stop_ofWriteError (ρ : Relabeling) (e : IoError) :
    ρ.stop (.ofWriteError e) = .ofWriteError e := by
  unfold Stop.ofWriteError
  split
  · rfl
  · simp only [stop, ρ.error_io]

theorem write_resume (ρ : Relabeling) (earlier t : Progress) (block : List UInt8) :
    (ρ.resume earlier t).write block =
      ((t.write block).1.map ρ.stop, ρ.resume earlier (t.write block).2) := by
  simp only [Progress.write, sink_resume]
  rcases t.sink.write block with ⟨sink, _ | e⟩
  · rfl
  · simp only [Option.map_some, stop_ofWriteError]
    rfl

end Relabeling

namespace Pipeline

theorem verdict_relabel (p : Pipeline) (ρ : Relabeling) (a : Arrival) :
    p.verdict (ρ.arrival a) = ρ.verdict (p.verdict a) := by
  cases a with
  | record position r =>
    simp only [Relabeling.arrival, verdict, processRecord]
    rcases p.router.dispatch r with e | _ | text
    · exact congrArg (Verdict.fault _) (ρ.error_render _ e).symm
    · rfl
    · rfl
  | fault position e => rfl
  | failure e => rfl

theorem handle_relabel (p : Pipeline) (ρ : Relabeling) (source : Text) (earlier t : Progress)
    (position : Nat) (e : ProcessingError) :
    p.handle (ρ.source source) (ρ.position position) (ρ.error e) (ρ.resume earlier t) =
      ((p.handle source position e t).1.map ρ.stop,
        ρ.resume earlier (p.handle source position e t).2) := by
  unfold handle
  cases p.strategy with
  | failFast => rfl
  | skip =>
    simp only [Relabeling.resume, Option.map_none, List.map_append, List.append_assoc]
    rfl

/-- A step at another place. -/
theorem carryOut_relabel (p : Pipeline) (ρ : Relabeling) (source : Text) (earlier t : Progress)
    (v : Verdict) :
    p.carryOut (ρ.source source) (ρ.resume earlier t) (ρ.verdict v) =
      ((p.carryOut source t v).1.map ρ.stop, ρ.resume earlier (p.carryOut source t v).2) := by
  cases v with
  | write block => exact ρ.write_resume earlier t.countOne block
  | leaveOut => rfl
  | fault position e => exact p.handle_relabel ρ source earlier t.countOne position e
  | fail e => simp only [Relabeling.verdict, carryOut, Option.map_some, Relabeling.stop, ρ.error_io]

/-- A call on the same things at other places. -/
theorem drain_relabel (p : Pipeline) (ρ : Relabeling) (source : Text) (earlier : Progress)
    (arrivals : List Arrival) (t : Progress) :
    p.drain (ρ.source source) (arrivals.map ρ.arrival) (ρ.resume earlier t) =
      (ρ.stop (p.drain source arrivals t).1, ρ.resume earlier (p.drain source arrivals t).2) := by
  induction arrivals generalizing t with
  | nil => rfl
  | cons a rest ih =>
    rw [List.map_cons, drain_cons, drain_cons, verdict_relabel, carryOut_relabel]
    rcases p.carryOut source t (p.verdict a) with ⟨_ | stop, u⟩
    · exact ih u
    · rfl

end Pipeline

/-! ### The same places -/

/-- The same places as before. -/
def Relabeling.same : Relabeling := ⟨id, id, id, fun _ _ => rfl, fun _ => rfl⟩

theorem Relabeling.stop_same (stop : Stop) : same.stop stop = stop := by
  cases stop <;> rfl

theorem Relabeling.arrival_same (a : Arrival) : same.arrival a = a := by
  cases a <;> rfl

/-- The progress `t`, behind earlier progress that has led to its output. -/
def Progress.behind (t earlier : Progress) : Progress :=
  ⟨earlier.counts + t.counts, t.sink, earlier.warnings ++ t.warnings⟩

theorem Progress.behind_eq_resume (t earlier : Progress) :
    t.behind earlier = Relabeling.same.resume earlier t := by
  have hwarnings : t.warnings.map Relabeling.same.warning = t.warnings := List.map_id _
  simp only [behind, Relabeling.resume, hwarnings]

/-- Nothing has been done since. -/
theorem Progress.behind_self (s : Progress) : Progress.behind ⟨.zero, s.sink, []⟩ s = s := by
  rw [behind_eq_resume, Relabeling.resume_self]

namespace Pipeline

/-- A call that goes on from earlier progress does what it does from the beginning. -/
theorem drain_behind (p : Pipeline) (source : Text) (arrivals : List Arrival)
    (t earlier : Progress) :
    p.drain source arrivals (t.behind earlier) =
      ((p.drain source arrivals t).1, (p.drain source arrivals t).2.behind earlier) := by
  have hplaces : arrivals.map Relabeling.same.arrival = arrivals := by
    rw [funext Relabeling.arrival_same]
    exact List.map_id _
  have h := p.drain_relabel .same source earlier arrivals t
  rw [hplaces, Relabeling.stop_same] at h
  simp only [Progress.behind_eq_resume]
  exact h

end Pipeline

end TraceText
