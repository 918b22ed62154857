import TraceText.CommandLine.Run
import TraceText.Proofs.Pipeline.BadLine

/-!
# What a run has written

A pipeline hands texts over to its output, and the run takes them through a buffer.  At every
moment of a run, what has left the buffer and what is in it are together what the output of the
pipeline has accepted, be it of a file that the run writes itself.  So what a run has written in the
end can be told from its pipeline alone.

## Main definitions

* `RunState.IsWritten` — everything that the pipeline has handed over has reached the buffer

## Main results

* `Pipeline.accepted_drain` — a call writes the texts that it hands over
* `RunState.IsWritten.process` — nothing is lost in a run
-/

namespace TraceText

/-- Texts as they are written, each on lines of its own. -/
def blocks (texts : List Text) : List UInt8 := texts.flatMap fun t => Utf8.encode (t ++ ['\n'])

@[simp] theorem blocks_nil : blocks [] = [] := rfl

@[simp] theorem blocks_singleton (t : Text) : blocks [t] = Utf8.encode (t ++ ['\n']) :=
  List.append_nil _

@[simp] theorem blocks_append (texts texts' : List Text) :
    blocks (texts ++ texts') = blocks texts ++ blocks texts' :=
  List.flatMap_append

namespace Pipeline

variable {p : Pipeline} {a : Arrival}

/-- Nothing is handed over for what ends a call. -/
theorem text?_eq_none_of_endsAt (h : p.endsAt a = true) : p.text? a = none := by
  cases a with
  | record position r =>
    simp only [endsAt, text?] at h ⊢
    cases hr : p.processRecord r with
    | ok text => simp [hr] at h
    | error e => rfl
  | fault position e => rfl
  | failure e => rfl

theorem texts_cons (p : Pipeline) (a : Arrival) (rest : List Arrival) :
    p.texts (a :: rest) =
      if p.endsAt a = true then [] else (p.text? a).toList ++ p.texts rest := by
  unfold texts
  cases hends : p.endsAt a with
  | true => simp [hends]
  | false => cases htext : p.text? a <;> simp [hends, htext]

/-- What a step writes, and whether it ends the call, if the output accepts everything. -/
theorem carryOut_verdict (source : Text) {s : Progress} (hroom : s.sink.room = none) :
    (p.carryOut source s (p.verdict a)).2.sink.accepted.toList =
        s.sink.accepted.toList ++ blocks (p.text? a).toList ∧
      (p.carryOut source s (p.verdict a)).1.isSome = p.endsAt a := by
  cases a with
  | record position r =>
    simp only [verdict, text?, endsAt]
    cases p.processRecord r with
    | ok text =>
      cases text with
      | none => simp [carryOut]
      | some text =>
        simp [carryOut, Progress.stop_write, Sink.accepted_write_of_room_eq_none hroom]
    | error e => cases hs : p.strategy <;> simp [carryOut, handle, hs]
  | fault position e =>
    simp only [verdict, text?, endsAt]
    cases hs : p.strategy <;> simp [carryOut, handle, hs]
  | failure e => simp [verdict, carryOut, text?, endsAt]

/-- A call writes the texts that it hands over, one after another. -/
theorem accepted_drain (p : Pipeline) (source : Text) (arrivals : List Arrival) {s : Progress}
    (hroom : s.sink.room = none) :
    (p.drain source arrivals s).2.sink.accepted.toList =
      s.sink.accepted.toList ++ blocks (p.texts arrivals) := by
  induction arrivals generalizing s with
  | nil => exact (List.append_nil _).symm
  | cons a rest ih =>
    obtain ⟨haccepted, hends⟩ := p.carryOut_verdict (a := a) source hroom
    have hroom' : (p.carryOut source s (p.verdict a)).2.sink.room = none :=
      carryOut_preserves_sink (P := fun sink => sink.room = none)
        (fun _ block h => room_write h block) p source hroom _
    rw [drain_cons]
    rcases hstep : p.carryOut source s (p.verdict a) with ⟨_ | stop, t⟩
    · rw [hstep] at haccepted hends hroom'
      have hgoesOn : p.endsAt a = false := hends.symm
      rw [texts_cons, hgoesOn, if_neg Bool.false_ne_true, blocks_append, ← List.append_assoc,
        ← haccepted]
      exact ih hroom'
    · rw [hstep] at haccepted hends
      have hend : p.endsAt a = true := hends.symm
      -- what ends the call is not written itself
      rw [text?_eq_none_of_endsAt hend] at haccepted
      rw [texts_cons, hend]
      exact haccepted

end Pipeline

namespace RunState

/-- The output of the pipeline accepts everything, and what it has accepted has reached the
buffer. -/
structure IsWritten (s : RunState) : Prop where
  room_eq : s.sink.room = none
  bytes_eq : s.output.bytes = s.sink.accepted.toList

variable {s : RunState}

/-- A call that hands over what is taken through the buffer. -/
theorem IsWritten.after (h : s.IsWritten) (hopen : s.pipeline.isClosed = false) (source : Text)
    (arrivals : List Arrival) :
    (s.after (s.pipeline.process source arrivals s.sink)
      (s.pipeline.texts arrivals)).IsWritten where
  room_eq :=
    Pipeline.process_preserves_sink (P := fun sink => sink.room = none)
      (fun _ block h => Pipeline.room_write h block) _ _ _ h.room_eq
  bytes_eq := by
    have hsink : (s.pipeline.process source arrivals s.sink).sink.accepted.toList =
        s.sink.accepted.toList ++ blocks (s.pipeline.texts arrivals) := by
      rw [Pipeline.process_of_not_isClosed hopen, Pipeline.sink_conclude]
      exact s.pipeline.accepted_drain source arrivals h.room_eq
    rw [RunState.after, Buffered.bytes_writeTexts, h.bytes_eq]
    exact hsink.symm

theorem IsWritten.finish (h : s.IsWritten) : s.finish.state.IsWritten where
  room_eq := by
    rw [RunState.finish, RunState.after, Pipeline.sink_finish]
    exact h.room_eq
  bytes_eq := by
    rw [RunState.finish, RunState.after, Pipeline.sink_finish]
    exact h.bytes_eq

/-- Nothing is lost in a run, whatever it reads. -/
theorem IsWritten.process (h : s.IsWritten) (sources : Sources) :
    (s.process sources).state.IsWritten := by
  induction sources generalizing s with
  | nil => exact h.finish
  | cons input rest ih =>
    obtain ⟨name, source⟩ := input
    unfold RunState.process
    cases hclosed : s.pipeline.isClosed with
    | true => exact h.finish
    | false =>
      rw [if_neg (by decide)]
      cases s.lines source with
      | error e => exact h
      | ok lines =>
        have hnext := h.after hclosed (name.getD Pipeline.unnamedInput)
          (Input.arrivalsFrom s.pipeline.maxLineLength [] 1 lines)
        dsimp only
        split
        · exact ih hnext
        · exact hnext

end RunState

end TraceText
