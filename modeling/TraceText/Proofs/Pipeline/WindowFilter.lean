import TraceText.Proofs.Pipeline.Producers

/-!
# Windows as filters

A router looks at its window before it looks at anything else of a record.  So a window is a filter
in front of a pipeline without one: a record that has ended too early is left out whatever its type,
and whether its template could render it never comes up.  The two calls do the same and only count
differently, since with the window a record that it keeps out has been processed and filtered.

## Main definitions

* `Counts.leftOut` — the counts of records that were left out
* `Counts.SameEffect` — as much was written, and there were as many errors
* `Step.LeavesOut` — a call that does the same as another one, but leaves out some more records
* `Router.within` — a router with another window

## Main results

* `Pipeline.drain_filter` — what would be left out need not arrive
* `Pipeline.processRecords_since` — a window is a filter in front of the pipeline
-/

namespace TraceText

/-- The counts of `n` records that were left out. -/
def Counts.leftOut (n : Nat) : Counts := ⟨n, 0, n, 0⟩

theorem Counts.leftOut_add (m n : Nat) : leftOut m + leftOut n = leftOut (m + n) := rfl

/-- Two counts agree on what was written and on errors. -/
def Counts.SameEffect (a b : Counts) : Prop := a.written = b.written ∧ a.errors = b.errors

theorem Counts.sameEffect_add_leftOut_add (a c : Counts) (n : Nat) :
    (a + (leftOut n + c)).SameEffect (a + c) := by
  constructor
  · change a.written + (0 + c.written) = a.written + c.written
    rw [Nat.zero_add]
  · change a.errors + (0 + c.errors) = a.errors + c.errors
    rw [Nat.zero_add]

/-- How far a call has come that has left out `n` more records. -/
def Progress.addLeftOut (n : Nat) (t : Progress) : Progress :=
  { t with counts := .leftOut n + t.counts }

/-- The call `s` does the same as the call `t`, but up to `removed` more records have come before it
that it has left out.  Unless the output was closed before the last of them, it has seen them
all. -/
structure Step.LeavesOut (removed : Nat) (s t : Step Counts) : Prop where
  sink_eq : s.sink = t.sink
  isClosed_eq : s.pipeline.isClosed = t.pipeline.isClosed
  counts_sameEffect : s.pipeline.counts.SameEffect t.pipeline.counts
  errors_eq : s.warnings.map Warning.error = t.warnings.map Warning.error
  result_eq : ∃ n ≤ removed, s.result = t.result.map (.leftOut n + ·) ∧
    ((∃ c, s.result = .ok c) → s.pipeline.isClosed = false → n = removed)

namespace Step

/-- A call that does the same as the second one may take its place. -/
theorem LeavesOut.trans_matches {removed : Nat} {s t u : Step Counts}
    (h : s.LeavesOut removed t) (hmatches : t.Matches u) : s.LeavesOut removed u where
  sink_eq := h.sink_eq.trans hmatches.sink_eq
  isClosed_eq := h.isClosed_eq.trans (congrArg Pipeline.isClosed hmatches.pipeline_eq)
  counts_sameEffect := hmatches.pipeline_eq ▸ h.counts_sameEffect
  errors_eq := h.errors_eq.trans hmatches.errors_eq
  result_eq := hmatches.result_eq ▸ h.result_eq

end Step

/-! ### Windows of routers -/

namespace Router

/-- The router with another window. -/
def within (router : Router) (w : Window) : Router := { router with window := w }

theorem register_within (router : Router) (w : Window) (route : Route) :
    (router.within w).register route = (router.register route).within w := by
  unfold register within
  split <;> rfl

/-- The window of a router has nothing to do with its routes. -/
theorem ofRoutes_eq_within (routes : List Route) (w w' : Window) :
    ofRoutes routes w = (ofRoutes routes w').within w := by
  have hfold : ∀ router : Router,
      routes.foldl register (router.within w) = (routes.foldl register router).within w := by
    intro router
    induction routes generalizing router with
    | nil => rfl
    | cons route routes ih => rw [List.foldl_cons, List.foldl_cons, register_within, ih]
  exact hfold (empty w')

/-- What a window keeps out is left out before its route is looked up. -/
theorem dispatch_within (router : Router) (w : Window) (r : Record) :
    (router.within w).dispatch r =
      if w.admits r.endTime then (router.within .unbounded).dispatch r else .ok none := rfl

end Router

namespace Pipeline

/-- A pipeline whose router has another window. -/
def within (p : Pipeline) (w : Window) : Pipeline := { p with router := p.router.within w }

theorem processRecord_within (p : Pipeline) (w : Window) (r : Record) :
    (p.within w).processRecord r =
      if w.admits r.endTime then (p.within .unbounded).processRecord r else .ok none := by
  have hdispatch : (p.within w).router.dispatch r = _ := Router.dispatch_within p.router w r
  rw [processRecord, hdispatch]
  split <;> rfl

/-! ### Leaving out -/

theorem addLeftOut_addLeftOut (m n : Nat) (t : Progress) :
    (t.addLeftOut n).addLeftOut m = t.addLeftOut (m + n) := by
  simp only [Progress.addLeftOut, ← Counts.add_assoc, Counts.leftOut_add]

theorem addLeftOut_zero (t : Progress) : t.addLeftOut 0 = t := by
  have hzero : Counts.leftOut 0 = .zero := rfl
  simp only [Progress.addLeftOut, hzero, Counts.zero_add]

/-- A call that goes on behind records that were left out. -/
theorem drain_addLeftOut (p : Pipeline) (source : Text) (arrivals : List Arrival) (n : Nat)
    (t : Progress) :
    p.drain source arrivals (t.addLeftOut n) =
      ((p.drain source arrivals t).1, (p.drain source arrivals t).2.addLeftOut n) :=
  p.drain_behind source arrivals t ⟨.leftOut n, t.sink, []⟩

theorem carryOut_leaveOut (p : Pipeline) (source : Text) (s : Progress) :
    p.carryOut source s .leaveOut = (none, s.addLeftOut 1) := by
  have hcounts : s.countOne.leaveOut.counts = .leftOut 1 + s.counts := by
    change Counts.mk _ _ _ _ = Counts.mk _ _ _ _
    simp only [Counts.leftOut, Progress.countOne, Nat.add_comm, Nat.add_zero]
  rw [Progress.addLeftOut, ← hcounts]
  rfl

/-- A step depends on its pipeline only through the treatment of faults. -/
theorem carryOut_congr {p q : Pipeline} (h : p.strategy = q.strategy) (source : Text)
    (s : Progress) (v : Verdict) : p.carryOut source s v = q.carryOut source s v := by
  cases v with
  | write block => rfl
  | leaveOut => rfl
  | fault position e => simp only [carryOut, handle, h]
  | fail e => rfl

/-- What `p` leaves out need not arrive at all, if `q` reaches the verdicts of `p` on the rest.  All
that would have been left out is counted, unless the call has ended before. -/
theorem drain_filter {p q : Pipeline} (hstrategy : p.strategy = q.strategy)
    {keep : Arrival → Bool} (hkeep : ∀ a, keep a = true → p.verdict a = q.verdict a)
    (hdrop : ∀ a, keep a = false → p.verdict a = .leaveOut) (source : Text)
    (arrivals : List Arrival) (s : Progress) :
    ∃ n ≤ arrivals.countP (!keep ·),
      p.drain source arrivals s =
        ((q.drain source (arrivals.filter keep) s).1,
          (q.drain source (arrivals.filter keep) s).2.addLeftOut n) ∧
      ((q.drain source (arrivals.filter keep) s).1 = .finished →
        n = arrivals.countP (!keep ·)) := by
  induction arrivals generalizing s with
  | nil => exact ⟨0, Nat.le_refl 0, by rw [addLeftOut_zero]; rfl, fun _ => rfl⟩
  | cons a rest ih =>
    cases ha : keep a with
    | true =>
      -- both calls take the same step, and go on together unless it ends them
      have hcount : (a :: rest).countP (!keep ·) = rest.countP (!keep ·) :=
        List.countP_cons_of_neg (by simp [ha])
      rw [hcount, List.filter_cons_of_pos ha, drain_cons, drain_cons, hkeep a ha,
        carryOut_congr hstrategy]
      rcases hc : q.carryOut source s (q.verdict a) with ⟨_ | stop, t⟩
      · exact ih t
      · refine ⟨0, Nat.zero_le _, by rw [addLeftOut_zero], ?_⟩
        rintro rfl
        exact absurd (congrArg Prod.fst hc) (q.carryOut_ne_finished source s _)
    | false =>
      -- the first call leaves out what does not come to the second one
      have hcount : (a :: rest).countP (!keep ·) = rest.countP (!keep ·) + 1 :=
        List.countP_cons_of_pos (by simp [ha])
      rw [hcount, List.filter_cons_of_neg (by simp [ha]), drain_cons, hdrop a ha,
        carryOut_leaveOut]
      obtain ⟨n, hn, hdrain, hall⟩ := ih s
      refine ⟨1 + n, ?_, ?_, ?_⟩
      · rw [Nat.add_comm]
        exact Nat.succ_le_succ hn
      · dsimp only
        rw [drain_addLeftOut, hdrain, addLeftOut_addLeftOut]
      · intro hfinished
        rw [hall hfinished, Nat.add_comm]

/-- What concludes a call behind records that were left out. -/
theorem conclude_addLeftOut (p q : Pipeline) (hclosed : p.isClosed = q.isClosed)
    (hcounts : p.counts = q.counts) {removed n : Nat} (hn : n ≤ removed) {out : Stop × Progress}
    (hall : out.1 = .finished → n = removed) :
    (p.conclude (out.1, out.2.addLeftOut n)).LeavesOut removed (q.conclude out) := by
  obtain ⟨stop, s⟩ := out
  have heffect : (p.counts + (.leftOut n + s.counts)).SameEffect (q.counts + s.counts) :=
    hcounts ▸ Counts.sameEffect_add_leftOut_add p.counts s.counts n
  have hsame : p.counts.SameEffect q.counts := hcounts ▸ ⟨rfl, rfl⟩
  cases stop with
  | finished => exact ⟨rfl, hclosed, heffect, rfl, n, hn, rfl, fun _ _ => hall rfl⟩
  | closed =>
    exact ⟨rfl, rfl, heffect, rfl, n, hn, rfl, fun _ hopen => absurd hopen (by simp [conclude])⟩
  | failed e =>
    exact ⟨rfl, hclosed, hsame, rfl, n, hn, rfl, fun h => absurd h (by simp [conclude])⟩

/-- A call that leaves out what does not arrive in another call does the same otherwise. -/
theorem process_filter {p q : Pipeline} (hstrategy : p.strategy = q.strategy)
    (hclosed : p.isClosed = q.isClosed) (hcounts : p.counts = q.counts) {keep : Arrival → Bool}
    (hkeep : ∀ a, keep a = true → p.verdict a = q.verdict a)
    (hdrop : ∀ a, keep a = false → p.verdict a = .leaveOut) (source : Text)
    (arrivals : List Arrival) (sink : Sink) :
    (p.process source arrivals sink).LeavesOut (arrivals.countP (!keep ·))
      (q.process source (arrivals.filter keep) sink) := by
  cases hp : p.isClosed with
  | true =>
    have hq : q.isClosed = true := hclosed ▸ hp
    rw [process_of_isClosed hp, process_of_isClosed hq]
    have hsame : p.counts.SameEffect q.counts := hcounts ▸ ⟨rfl, rfl⟩
    exact ⟨rfl, hclosed, hsame, rfl, 0, Nat.zero_le _, rfl,
      fun _ hopen => absurd hopen (by simp [hp])⟩
  | false =>
    have hq : q.isClosed = false := hclosed ▸ hp
    rw [process_of_not_isClosed hp, process_of_not_isClosed hq]
    obtain ⟨n, hn, hdrain, hall⟩ :=
      drain_filter hstrategy hkeep hdrop source arrivals ⟨.zero, sink, []⟩
    rw [hdrain]
    exact conclude_addLeftOut p q hclosed hcounts hn hall

end Pipeline

/-! ### Records -/

namespace Arrival

/-- Whether a window admits what arrives.  It has no say about what is no record. -/
def isAdmitted (w : Window) : Arrival → Bool
  | .record _ r => w.admits r.endTime
  | .fault _ _ => true
  | .failure _ => true

theorem countP_isAdmitted (w : Window) (records : List Record) :
    (ofRecords records).countP (!isAdmitted w ·) =
      records.countP fun r => !w.admits r.endTime := by
  have hplaces := congrArg (List.countP (!isAdmitted w ·)) (map_ofRecords_placeless records)
  rw [List.countP_map, List.countP_map] at hplaces
  have hsame : (!isAdmitted w ·) ∘ Relabeling.placeless.arrival = (!isAdmitted w ·) := by
    funext a
    cases a <;> rfl
  rw [hsame] at hplaces
  exact hplaces

/-- The records that a window admits arrive in their order, whatever places they have. -/
theorem map_filter_isAdmitted (w : Window) (records : List Record) :
    ((ofRecords records).filter (isAdmitted w)).map Relabeling.placeless.arrival =
      (ofRecords (records.filter fun r => w.admits r.endTime)).map
        Relabeling.placeless.arrival := by
  have hsame : isAdmitted w ∘ Relabeling.placeless.arrival = isAdmitted w := by
    funext a
    cases a <;> rfl
  calc ((ofRecords records).filter (isAdmitted w)).map Relabeling.placeless.arrival
      = ((ofRecords records).map Relabeling.placeless.arrival).filter (isAdmitted w) := by
        rw [List.filter_map, hsame]
    _ = (records.filter fun r => w.admits r.endTime).map (.record 0) := by
        rw [map_ofRecords_placeless, List.filter_map]
        rfl
    _ = _ := (map_ofRecords_placeless _).symm

end Arrival

namespace Pipeline

theorem verdict_within_of_isAdmitted {w : Window} {a : Arrival} (h : a.isAdmitted w = true)
    (p : Pipeline) : (p.within w).verdict a = (p.within .unbounded).verdict a := by
  cases a with
  | record position r =>
    have hadmits : w.admits r.endTime = true := h
    simp only [verdict, processRecord_within p w, if_pos hadmits]
  | fault position e => rfl
  | failure e => rfl

theorem verdict_within_of_not_isAdmitted {w : Window} {a : Arrival}
    (h : a.isAdmitted w = false) (p : Pipeline) : (p.within w).verdict a = .leaveOut := by
  cases a with
  | record position r =>
    have hadmits : w.admits r.endTime = false := h
    simp only [verdict, processRecord_within p w, hadmits, Bool.false_eq_true, if_false]
  | fault position e => cases h
  | failure e => cases h

/-- A window is a filter in front of the pipeline. -/
theorem processRecords_within (p : Pipeline) (w : Window) (records : List Record) (sink : Sink) :
    ((p.within w).processRecords records sink).LeavesOut
      (records.countP fun r => !w.admits r.endTime)
      ((p.within .unbounded).processRecords (records.filter fun r => w.admits r.endTime) sink) := by
  have hstrategy : (p.within w).strategy = (p.within .unbounded).strategy := rfl
  have hclosed : (p.within w).isClosed = (p.within .unbounded).isClosed := rfl
  have hcounts : (p.within w).counts = (p.within .unbounded).counts := rfl
  have hfilter := process_filter hstrategy hclosed hcounts
    (fun _ h => verdict_within_of_isAdmitted h p)
    (fun _ h => verdict_within_of_not_isAdmitted h p) unnamedRecords
    (Arrival.ofRecords records) sink
  rw [Arrival.countP_isAdmitted] at hfilter
  -- without the records that are kept out, the others have smaller places
  refine hfilter.trans_matches ?_
  exact process_placeless _ _ _ (Arrival.map_filter_isAdmitted w records) sink

/-- Records given to a pipeline with a cutoff are treated as if only those that end at the cutoff
or later were given to the pipeline without one, and the others are counted as filtered.  What such
another record holds does not matter, so it is no cause of an error. -/
theorem processRecords_since (routes : List Route) (cutoff : Instant) (strategy : ErrorStrategy)
    (maxLineLength : Nat) (counts : Counts) (isClosed : Bool) (records : List Record)
    (sink : Sink) :
    let windowed : Pipeline :=
      ⟨.ofRoutes routes (.since cutoff), strategy, maxLineLength, counts, isClosed⟩
    let unbounded : Pipeline :=
      ⟨.ofRoutes routes .unbounded, strategy, maxLineLength, counts, isClosed⟩
    (windowed.processRecords records sink).LeavesOut
        (records.countP fun r => ¬ cutoff ≤ r.endTime)
        (unbounded.processRecords (records.filter fun r => cutoff ≤ r.endTime) sink) ∧
      ∀ r : Record, ¬ cutoff ≤ r.endTime → windowed.processRecord r = .ok none := by
  intro windowed unbounded
  have hwindowed : windowed = unbounded.within (.since cutoff) := by
    simp only [windowed, unbounded, within]
    rw [Router.ofRoutes_eq_within routes (.since cutoff) .unbounded]
  have hunbounded : unbounded = unbounded.within .unbounded := by
    simp only [unbounded, within]
    rw [← Router.ofRoutes_eq_within]
  constructor
  · have h := unbounded.processRecords_within (.since cutoff) records sink
    rw [← hwindowed, ← hunbounded] at h
    simpa only [Window.admits_since, decide_not] using h
  · intro r hearly
    rw [hwindowed, processRecord_within, Window.admits_since, decide_eq_false hearly]
    rfl

end Pipeline

end TraceText
