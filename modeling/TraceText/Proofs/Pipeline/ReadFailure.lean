import TraceText.Proofs.Pipeline.BadLine
import TraceText.Proofs.Pipeline.JoinedFiles

/-!
# Inputs that fail

An input may fail instead of coming to an end.  Its complete lines are then treated as those of an
input that just ends behind them, and what follows them is dropped.  If the call is still going on
by then, it ends with the failure and changes nothing but the output; that the input ended too early
is no failure, though, and changes nothing at all.  A complete line that is not UTF-8 is a failure
in its place.

## Main definitions

* `Step.IsCutShort` — a call that has ended before its input did

## Main results

* `lineFeed_not_mem_rest` — there is no line feed behind the complete lines
* `Input.arrivals_of_failure`, `Input.arrivals_of_notUtf8` — what arrives before a failure
* `Pipeline.processStream_untilFailure` — a call on an input that fails
-/

namespace TraceText

/-! ### The rest behind the complete lines -/

/-- Without a line feed there is no complete line. -/
theorem splitLines_of_not_mem {bytes : List UInt8} (h : lineFeed ∉ bytes) :
    splitLines bytes = ([], bytes) := by
  have hsplit := splitLines_append_of_not_mem h []
  simpa [splitLines, prepend] using hsplit

/-- There is no line feed behind the last complete line. -/
theorem lineFeed_not_mem_rest (bytes : List UInt8) : lineFeed ∉ (splitLines bytes).2 := by
  induction bytes with
  | nil => exact List.not_mem_nil
  | cons b bytes ih =>
    rw [splitLines_cons]
    generalize splitLines bytes = split at ih ⊢
    obtain ⟨lines, rest⟩ := split
    by_cases hb : b = lineFeed
    · rw [hb, consByte_lineFeed]
      exact ih
    · cases lines with
      | nil =>
        rw [consByte_nil hb]
        exact fun hmem => (List.mem_cons.mp hmem).elim (Ne.symm hb) ih
      | cons line lines =>
        rw [consByte_cons hb]
        exact ih

namespace Input

/-! ### What arrives before a failure -/

/-- An input that fails has the lines of one that ends behind its last complete line. -/
theorem lines_of_failure (bytes : List UInt8) (e : IoError) :
    (Input.mk bytes (some e)).lines = (Input.mk (completeBytes bytes) none).lines := by
  have hrest : (Input.mk (splitLines bytes).2 (some e)).lines = [] := by
    simp [lines, splitLines_of_not_mem (lineFeed_not_mem_rest bytes)]
  have hlines := lines_append (endsLine_completeBytes bytes) ⟨(splitLines bytes).2, some e⟩
  rwa [behind, completeBytes_append, hrest, List.append_nil] at hlines

/-- The failure arrives behind the complete lines. -/
theorem arrivals_of_failure (most : Nat) (bytes : List UInt8) (e : IoError) :
    (Input.mk bytes (some e)).arrivals most =
      arrivalsFrom most (Input.mk bytes (some e)).ending 1
        (Input.mk (completeBytes bytes) none).lines := by
  rw [arrivals, lines_of_failure]

/-- A carriage return at its end does not matter to whether a line is UTF-8. -/
theorem decode?_chompReturn_eq_none_iff {line : List UInt8} :
    Utf8.decode? (chompReturn line) = none ↔ Utf8.decode? line = none := by
  rw [Option.eq_none_iff_forall_ne_some, Option.eq_none_iff_forall_ne_some, ← not_exists,
    ← not_exists]
  apply not_congr
  constructor
  · rintro ⟨t, ht⟩
    rw [Utf8.decode?_eq_some_iff] at ht
    unfold chompReturn at ht
    split at ht
    · next hlast =>
      -- with the carriage return that was cut off, these are the bytes of a longer text
      obtain ⟨start, rfl⟩ := List.getLast?_eq_some_iff.mp hlast
      rw [List.dropLast_concat] at ht
      refine ⟨t ++ ['\r'], Utf8.decode?_eq_some_iff.mpr ?_⟩
      rw [ht, Utf8.encode_append]
      rfl
    · exact ⟨t, Utf8.decode?_eq_some_iff.mpr ht⟩
  · rintro ⟨t, ht⟩
    rw [Utf8.decode?_eq_some_iff] at ht
    rw [ht, chompReturn_encode]
    exact ⟨_, Utf8.decode?_encode _⟩

/-- A line that is not UTF-8 arrives like a failure in its place, and nothing arrives behind it. -/
theorem arrivals_of_notUtf8 (most : Nat) {a line : List UInt8} (ha : EndsLine a)
    (hline : lineFeed ∉ line) (hutf8 : Utf8.decode? line = none) (after : List UInt8)
    (failure : Option IoError) :
    (Input.mk (a ++ (line ++ [lineFeed] ++ after)) failure).arrivals most =
      arrivalsFrom most [.failure .notUtf8] 1 (Input.mk a none).lines := by
  have hends : EndsLine (line ++ [lineFeed]) := .inr List.getLast?_concat
  have hbehind := lines_append hends ⟨after, failure⟩
  rw [lines_single hline, behind] at hbehind
  have hlines := lines_append ha ⟨line ++ [lineFeed] ++ after, failure⟩
  rw [behind, hbehind] at hlines
  have hnone := decode?_chompReturn_eq_none_iff.mpr hutf8
  rw [arrivals, hlines, arrivalsFrom_append, List.singleton_append]
  simp only [arrivalsFrom, hnone]

end Input

/-! ### Calls on inputs that fail -/

/-- A call has ended before its input did: it has failed, or the output is closed. -/
def Step.IsCutShort (step : Step Counts) : Prop :=
  step.pipeline.isClosed = true ∨ ∃ e, step.result = .error e

namespace Pipeline

/-- Whatever arrives behind lines does not matter to a call that has ended there, and is all that
matters to one that goes on. -/
theorem conclude_drain_ending (p : Pipeline) (hopen : p.isClosed = false) (source : Text)
    (most : Nat) (ending : List Arrival) (lines : List (List UInt8)) (s : Progress) :
    let complete := p.conclude (p.drain source (Input.arrivalsFrom most [] 1 lines) s)
    let whole := p.conclude (p.drain source (Input.arrivalsFrom most ending 1 lines) s)
    (complete.IsCutShort ∧ whole = complete) ∨
      ¬ complete.IsCutShort ∧
        ∃ t, complete = p.conclude (.finished, t) ∧
          whole = p.conclude (p.drain source ending t) := by
  rw [p.drain_arrivalsFrom source most 1 ending lines s]
  rcases p.drain source (Input.arrivalsFrom most [] 1 lines) s with ⟨_ | _ | e, t⟩
  · right
    refine ⟨?_, t, rfl, rfl⟩
    rintro (hclosed | ⟨e, he⟩)
    · cases hopen.symm.trans hclosed
    · cases he
  · exact .inl ⟨.inl rfl, rfl⟩
  · exact .inl ⟨.inr ⟨e, rfl⟩, rfl⟩

/-- A call on an input that fails, compared with one on its complete lines. -/
theorem processStream_of_failure (p : Pipeline) (sink : Sink) (name : Option Text)
    (bytes : List UInt8) (e : IoError) :
    let complete := p.processStream ⟨completeBytes bytes, none⟩ sink name
    let failing := p.processStream ⟨bytes, some e⟩ sink name
    (complete.IsCutShort ∧ failing = complete) ∨
      ¬ complete.IsCutShort ∧ (∃ counts, complete.result = .ok counts) ∧
        failing = if e.kind = .unexpectedEof then complete
          else ⟨.error (.io e), p, complete.sink, complete.warnings⟩ := by
  intro complete failing
  cases hc : p.isClosed with
  | true =>
    -- a closed pipeline does nothing
    have hcomplete : complete = ⟨.ok .zero, p, sink, []⟩ := process_of_isClosed hc _ _ _
    have hfailing : failing = ⟨.ok .zero, p, sink, []⟩ := process_of_isClosed hc _ _ _
    exact .inl ⟨.inl (hcomplete ▸ hc), hfailing.trans hcomplete.symm⟩
  | false =>
    have hcomplete : complete = p.conclude (p.drain (name.getD unnamedInput)
        (Input.arrivalsFrom p.maxLineLength [] 1 (Input.mk (completeBytes bytes) none).lines)
        ⟨.zero, sink, []⟩) := process_of_not_isClosed hc _ _ _
    have hfailing : failing = p.conclude (p.drain (name.getD unnamedInput)
        (Input.arrivalsFrom p.maxLineLength (Input.mk bytes (some e)).ending 1
          (Input.mk (completeBytes bytes) none).lines) ⟨.zero, sink, []⟩) := by
      rw [← Input.arrivals_of_failure]
      exact process_of_not_isClosed hc _ _ _
    have hcases := p.conclude_drain_ending hc (name.getD unnamedInput) p.maxLineLength
      (Input.mk bytes (some e)).ending (Input.mk (completeBytes bytes) none).lines
      ⟨.zero, sink, []⟩
    dsimp only at hcases
    rw [← hcomplete, ← hfailing] at hcases
    refine hcases.imp_right ?_
    rintro ⟨hnot, t, hfinished, hgoes⟩
    refine ⟨hnot, ⟨t.counts, congrArg Step.result hfinished⟩, ?_⟩
    rw [hgoes, hfinished, Input.ending]
    dsimp only
    split
    · -- nothing arrives behind the lines
      rfl
    · rfl

/-- A call on an input that fails is the call on its complete lines if this one is cut short, or if
the input only ended too early.  Otherwise it ends with the failure, having written and reported
what the call on the complete lines does, and leaves the pipeline as it was.  A complete line that
is not UTF-8 ends a call like a failure in its place, whatever follows. -/
theorem processStream_untilFailure (p : Pipeline) (sink : Sink) (name : Option Text) :
    (∀ bytes e,
      let complete := p.processStream ⟨completeBytes bytes, none⟩ sink name
      let failing := p.processStream ⟨bytes, some e⟩ sink name
      (complete.IsCutShort ∧ failing = complete) ∨
        ¬ complete.IsCutShort ∧ (∃ counts, complete.result = .ok counts) ∧
          failing = if e.kind = .unexpectedEof then complete
            else ⟨.error (.io e), p, complete.sink, complete.warnings⟩) ∧
      ∀ a line after failure, EndsLine a → lineFeed ∉ line → Utf8.decode? line = none →
        p.processStream ⟨a ++ (line ++ [lineFeed] ++ after), failure⟩ sink name =
          p.processStream ⟨a, some .notUtf8⟩ sink name := by
  constructor
  · exact p.processStream_of_failure sink name
  · intro a line after failure ha hline hutf8
    have hfailure := Input.arrivals_of_failure p.maxLineLength a .notUtf8
    rw [completeBytes_of_rest (endsLine_iff.mp ha)] at hfailure
    rw [processStream, processStream, Input.arrivals_of_notUtf8 _ ha hline hutf8, hfailure]
    rfl

/-- A record is written, the rest of another one is dropped, and only then the call fails, unless
the input just ended too early. -/
theorem processStream_untilFailure_inRecord :
    let p := start (.constant ['x']) .failFast 60
    let call (bytes : List UInt8) (failure : Option IoError) :=
      p.processStream ⟨bytes, failure⟩ .unbounded none
    let record := Utf8.encode "\x7b\"type\":\"a\",\"startTime\":\"2024-03-05T10:00:00Z\"\x7d\n"
    let rest := Utf8.encode "\x7b\"type\":"
    let early : IoError := ⟨.unexpectedEof, "early"⟩
    let reset : IoError := ⟨.other, "reset"⟩
    (call record none).result = .ok ⟨1, 1, 0, 0⟩ ∧
      call (record ++ rest) (some early) = call record none ∧
      call (record ++ rest) (some reset) =
        ⟨.error (.io reset), p, (call record none).sink, []⟩ ∧
      Utf8.decode? [0xFF] = none ∧
      call (record ++ ([0xFF] ++ [lineFeed] ++ rest)) none = call record (some .notUtf8) := by
  intro p call record rest early reset
  have hrecord : EndsLine record := by decide
  have hcomplete : completeBytes (record ++ rest) = record := by decide
  have hgoes : ¬ (call record none).IsCutShort := by
    rintro (hclosed | ⟨e, he⟩)
    · cases hclosed
    · cases he
  obtain ⟨hfails, hline⟩ := p.processStream_untilFailure .unbounded none
  have hearly := (hfails (record ++ rest) early).resolve_left
  have hreset := (hfails (record ++ rest) reset).resolve_left
  rw [hcomplete] at hearly hreset
  exact ⟨rfl, (hearly fun h => hgoes h.1).2.2, (hreset fun h => hgoes h.1).2.2, by decide,
    hline record [0xFF] rest none hrecord (by decide) (by decide)⟩

end Pipeline

end TraceText
