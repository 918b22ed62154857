import TraceText.Proofs.Pipeline.Position
import TraceText.Proofs.Pipeline.Relabeling
import TraceText.Proofs.Pipeline.Use

/-!
# Inputs in two parts

An input may be cut at the end of any of its lines and given to a pipeline in two calls: what is
written, whether the output is closed, what is counted and whether it all succeeds is the same as in
one call.  Only the second call counts its lines anew, so its warnings and errors name smaller
lines.

## Main definitions

* `EndsLine` — bytes behind which a line begins
* `ProcessingError.addLines` — an error as it is reported if there are more lines before
* `Relabeling.addLines` — places behind more lines
* `Joins` — one call on two parts of an input, compared with two calls

## Main results

* `Input.lines_append` — the lines of an input in two parts
* `Input.arrivals_append` — what arrives from an input in two parts
* `Pipeline.processStream_append` — one call on two parts of an input is two calls
-/

namespace TraceText

/-! ### Lines -/

/-- Bytes behind which a line begins. -/
def EndsLine (bytes : List UInt8) : Prop := bytes = [] ∨ bytes.getLast? = some lineFeed

/-- Bytes before a line change that line only, and not the lines behind it. -/
theorem foldr_consByte (bytes line : List UInt8) :
    ∃ first more, ∀ lines rest, bytes.foldr consByte (line :: lines, rest) =
      (first :: more ++ lines, rest) := by
  induction bytes with
  | nil => exact ⟨line, [], fun _ _ => rfl⟩
  | cons b bytes ih =>
    obtain ⟨first, more, hfoldr⟩ := ih
    by_cases hb : b = lineFeed
    · refine ⟨[], first :: more, ?_⟩
      intro lines rest
      rw [List.foldr_cons, hfoldr, hb, consByte_lineFeed]
      rfl
    · refine ⟨b :: first, more, ?_⟩
      intro lines rest
      rw [List.foldr_cons, hfoldr, List.cons_append, consByte_cons hb]
      rfl

/-- Where a line ends, the lines of what comes behind begin. -/
theorem splitLines_append {a : List UInt8} (h : EndsLine a) (b : List UInt8) :
    splitLines (a ++ b) = ((splitLines a).1 ++ (splitLines b).1, (splitLines b).2) ∧
      (splitLines a).2 = [] := by
  rcases h with rfl | h
  · exact ⟨rfl, rfl⟩
  · obtain ⟨a, rfl⟩ := List.getLast?_eq_some_iff.mp h
    obtain ⟨first, more, hfoldr⟩ := foldr_consByte a []
    have hleft : splitLines (a ++ [lineFeed]) = (first :: more, []) := by
      calc splitLines (a ++ [lineFeed])
          = a.foldr consByte ([[]], []) := by rw [splitLines, List.foldr_append]; rfl
        _ = (first :: more, []) := by rw [hfoldr, List.append_nil]
    have hboth : splitLines (a ++ [lineFeed] ++ b) =
        (first :: more ++ (splitLines b).1, (splitLines b).2) := by
      calc splitLines (a ++ [lineFeed] ++ b)
          = a.foldr consByte ([] :: (splitLines b).1, (splitLines b).2) := by
            rw [List.append_assoc, splitLines, List.foldr_append]; rfl
        _ = _ := hfoldr _ _
    rw [hleft, hboth]
    exact ⟨rfl, rfl⟩

namespace Input

/-- An input behind some more bytes. -/
def behind (bytes : List UInt8) (input : Input) : Input := ⟨bytes ++ input.bytes, input.failure⟩

theorem ending_behind (bytes : List UInt8) (input : Input) :
    (input.behind bytes).ending = input.ending := rfl

theorem lines_append {a : List UInt8} (h : EndsLine a) (input : Input) :
    (input.behind a).lines = (Input.mk a none).lines ++ input.lines := by
  obtain ⟨hsplit, hrest⟩ := splitLines_append h input.bytes
  simp only [lines, behind, hsplit, hrest, List.map_append]
  simp

/-! ### Arrivals -/

/-- What arrives with the lines of an input in two parts: with the second part, what arrives behind
the first. -/
theorem arrivalsFrom_append (most number : Nat) (ending : List Arrival)
    (a b : List (List UInt8)) :
    arrivalsFrom most ending number (a ++ b) =
      arrivalsFrom most (arrivalsFrom most ending (number + a.length) b) number a := by
  induction a generalizing number with
  | nil => rfl
  | cons line a ih =>
    rw [List.cons_append]
    cases hd : Utf8.decode? line with
    | none => simp [arrivalsFrom, hd]
    | some text =>
      rw [arrivalsFrom_cons_of_decode? hd, arrivalsFrom_cons_of_decode? hd, ih,
        List.length_cons, Nat.add_assoc, Nat.add_comm 1]

end Input

namespace Pipeline

/-- What arrives behind lines is treated if the call is then still going on. -/
theorem drain_arrivalsFrom (p : Pipeline) (source : Text) (most number : Nat)
    (ending : List Arrival) (lines : List (List UInt8)) (s : Progress) :
    p.drain source (Input.arrivalsFrom most ending number lines) s =
      match p.drain source (Input.arrivalsFrom most [] number lines) s with
      | (.finished, s) => p.drain source ending s
      | (.closed, s) => (.closed, s)
      | (.failed e, s) => (.failed e, s) := by
  induction lines generalizing number s with
  | nil => rfl
  | cons line lines ih =>
    cases hd : Utf8.decode? line with
    | none => simp only [Input.arrivalsFrom, hd]; rfl
    | some text =>
      rw [Input.arrivalsFrom_cons_of_decode? hd, Input.arrivalsFrom_cons_of_decode? hd,
        drain_append, drain_append]
      rcases p.drain source (Input.arrivalOf most number line.length text) s with ⟨_ | _ | e, t⟩
      · exact ih _ t
      · rfl
      · rfl

end Pipeline

/-! ### More lines before -/

/-- An error as it is reported if there are `n` more lines before. -/
def ProcessingError.addLines (n : Nat) : ProcessingError → ProcessingError
  | .input line e => .input (line + n) e
  | .render event e => .render event e
  | .lineTooLong length most => .lineTooLong length most
  | .io e => .io e

/-- Places behind `n` more lines. -/
def Relabeling.addLines (n : Nat) : Relabeling :=
  ⟨id, (· + n), .addLines n, fun _ _ => rfl, fun _ => rfl⟩

namespace Input

/-- What arrives with a line in another place, if errors about lines name their place. -/
theorem map_arrivalOf {ρ : Relabeling}
    (hinput : ∀ number e, ρ.error (.input number e) = .input (ρ.position number) e)
    (hlong : ∀ size most, ρ.error (.lineTooLong size most) = .lineTooLong size most)
    (most number size : Nat) (line : Text) :
    (arrivalOf most number size line).map ρ.arrival =
      arrivalOf most (ρ.position number) size line := by
  unfold arrivalOf
  split
  · rfl
  · split
    · rw [List.map_singleton, Relabeling.arrival, hlong]
    · split
      · rfl
      · rw [List.map_singleton, Relabeling.arrival, hinput]

theorem map_ending (ρ : Relabeling) (input : Input) :
    input.ending.map ρ.arrival = input.ending := by
  unfold ending
  split
  · rfl
  · split <;> rfl

/-- What arrives behind `n` more lines. -/
theorem map_arrivalsFrom (n most number : Nat) (input : Input)
    (lines : List (List UInt8)) :
    (arrivalsFrom most input.ending number lines).map (Relabeling.addLines n).arrival =
      arrivalsFrom most input.ending (number + n) lines := by
  induction lines generalizing number with
  | nil => exact input.map_ending _
  | cons line lines ih =>
    cases hd : Utf8.decode? line with
    | none => simp only [arrivalsFrom, hd]; rfl
    | some text =>
      rw [arrivalsFrom_cons_of_decode? hd, arrivalsFrom_cons_of_decode? hd, List.map_append,
        map_arrivalOf (fun _ _ => rfl) (fun _ _ => rfl), ih, Nat.add_right_comm]
      rfl

/-- What arrives from an input in two parts. -/
theorem arrivals_append (most : Nat) {a : List UInt8} (h : EndsLine a)
    (input : Input) :
    (input.behind a).arrivals most =
      arrivalsFrom most ((input.arrivals most).map
        (Relabeling.addLines (Input.mk a none).lines.length).arrival) 1
        (Input.mk a none).lines := by
  rw [arrivals, lines_append h, arrivalsFrom_append, ending_behind, arrivals, map_arrivalsFrom]

end Input

/-! ### Two calls -/

/-- One call on two parts of an input, the first of which has `n` lines, compared with a call on the
first part and, if that one succeeds, a call on the second. -/
def Joins (n : Nat) (whole first second : Step Counts) : Prop :=
  match first.result, second.result with
  | .error e, _ =>
    whole.result = .error e ∧ whole.sink = first.sink ∧
      whole.pipeline.isClosed = first.pipeline.isClosed ∧ whole.warnings = first.warnings
  | .ok c, .ok d =>
    whole.result = .ok (c + d) ∧ whole.sink = second.sink ∧ whole.pipeline = second.pipeline ∧
      whole.warnings = first.warnings ++ second.warnings.map (Relabeling.addLines n).warning
  | .ok _, .error e =>
    whole.result = .error (e.addLines n) ∧ whole.sink = second.sink ∧
      whole.pipeline.isClosed = second.pipeline.isClosed ∧
      whole.warnings = first.warnings ++ second.warnings.map (Relabeling.addLines n).warning

namespace Pipeline

/-- What has been counted before does not matter to a call. -/
theorem drain_setCounts (p : Pipeline) (counts : Counts) (source : Text) (arrivals : List Arrival)
    (s : Progress) :
    { p with counts := counts }.drain source arrivals s = p.drain source arrivals s := by
  induction arrivals generalizing s with
  | nil => rfl
  | cons a rest ih =>
    have hstep : { p with counts := counts }.receive source s a = p.receive source s a := rfl
    simp only [drain, hstep, ih]

/-- A call that goes on with the same things behind `n` more lines, compared with one that begins
with them. -/
theorem drain_addLines (p : Pipeline) (n : Nat) (source : Text) (arrivals : List Arrival)
    (s : Progress) :
    p.drain source (arrivals.map (Relabeling.addLines n).arrival) s =
      ((Relabeling.addLines n).stop (p.drain source arrivals ⟨.zero, s.sink, []⟩).1,
        (Relabeling.addLines n).resume s (p.drain source arrivals ⟨.zero, s.sink, []⟩).2) := by
  have h := p.drain_relabel (.addLines n) source s arrivals ⟨.zero, s.sink, []⟩
  rw [Relabeling.resume_self] at h
  exact h

/-- A call behind one that has come to its end. -/
theorem process_conclude_finished {p : Pipeline} (h : p.isClosed = false) (source : Text)
    (arrivals : List Arrival) (t : Progress) :
    (p.conclude (.finished, t)).pipeline.process source arrivals t.sink =
      { p with counts := p.counts + t.counts }.conclude
        (p.drain source arrivals ⟨.zero, t.sink, []⟩) := by
  have hopen : { p with counts := p.counts + t.counts }.isClosed = false := h
  rw [← p.drain_setCounts (p.counts + t.counts)]
  exact process_of_not_isClosed hopen source arrivals t.sink

/-- What concludes a call that is continued as a second one. -/
theorem conclude_resume (p : Pipeline) (n : Nat) (t : Progress) (out : Stop × Progress) :
    Joins n
      (p.conclude ((Relabeling.addLines n).stop out.1, (Relabeling.addLines n).resume t out.2))
      (p.conclude (.finished, t)) ({ p with counts := p.counts + t.counts }.conclude out) := by
  obtain ⟨_ | _ | e, s⟩ := out
  · refine ⟨rfl, rfl, ?_, rfl⟩
    simp only [Relabeling.stop, conclude, Relabeling.resume, Counts.add_assoc]
  · refine ⟨rfl, rfl, ?_, rfl⟩
    simp only [Relabeling.stop, conclude, Relabeling.resume, Counts.add_assoc]
  · exact ⟨rfl, rfl, rfl, rfl⟩

/-- One call on an input behind some lines is a call on these lines and, if it succeeds, a call on
the input. -/
theorem processStream_append (p : Pipeline) (sink : Sink) (name : Option Text) {a : List UInt8}
    (h : EndsLine a) (input : Input) :
    let first := p.processStream ⟨a, none⟩ sink name
    Joins (Input.mk a none).lines.length (p.processStream (input.behind a) sink name) first
      (first.pipeline.processStream input first.sink name) := by
  intro first
  simp only [first, processStream]
  cases hc : p.isClosed with
  | true =>
    rw [process_of_isClosed hc, process_of_isClosed hc, process_of_isClosed hc]
    exact ⟨rfl, rfl, rfl, rfl⟩
  | false =>
    rw [process_of_not_isClosed hc, process_of_not_isClosed hc, Input.arrivals_append _ h,
      drain_arrivalsFrom]
    have hfirst : (Input.mk a none).arrivals p.maxLineLength =
        Input.arrivalsFrom p.maxLineLength [] 1 (Input.mk a none).lines := rfl
    rw [hfirst]
    rcases p.drain (name.getD unnamedInput)
      (Input.arrivalsFrom p.maxLineLength [] 1 (Input.mk a none).lines) ⟨.zero, sink, []⟩
      with ⟨_ | _ | e, t⟩
    · -- the call goes on with the input, as the second one does from its beginning
      rw [sink_conclude, process_conclude_finished hc]
      dsimp only
      rw [p.drain_addLines]
      exact p.conclude_resume _ t _
    · -- the output is closed, so the second call does nothing
      have hclosed : (p.conclude (.closed, t)).pipeline.isClosed = true := rfl
      rw [process_of_isClosed hclosed]
      exact ⟨rfl, rfl, rfl, (List.append_nil _).symm⟩
    · exact ⟨rfl, rfl, rfl, rfl⟩

/-- A fault on the line behind a blank one is reported on the second line of the whole input. -/
theorem processStream_append_fault :
    let p := start (.constant ['x']) .failFast 10
    let first := p.processStream ⟨[lineFeed], none⟩ .unbounded none
    let input : Input := ⟨Utf8.encode ['x'], none⟩
    EndsLine [lineFeed] ∧
      (∃ e, (p.processStream (input.behind [lineFeed]) .unbounded none).result =
        .error (.input 2 e)) ∧
      Joins 1 (p.processStream (input.behind [lineFeed]) .unbounded none) first
        (first.pipeline.processStream input first.sink none) := by
  intro p first input
  have h : EndsLine [lineFeed] := .inr rfl
  exact ⟨h, ⟨_, rfl⟩, p.processStream_append .unbounded none h input⟩

end Pipeline

end TraceText
