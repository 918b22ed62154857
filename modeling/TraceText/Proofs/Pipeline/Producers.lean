import TraceText.Proofs.Pipeline.Relabeling
import TraceText.Proofs.Pipeline.TextInput
import TraceText.Proofs.Pipeline.Use

/-!
# Records from a text and records as such

Records may be read from a text or be given as they are.  If every line of the text that is not
blank holds a record and is not too long, the pipeline does the same in both cases.  What it reports
differs only in the source and the places that it names.

## Main definitions

* `Relabeling.placeless` — no places at all
* `Step.Matches` — two calls that do the same, whatever places they name

## Main results

* `Pipeline.process_placeless` — a call on the same things at any places does the same
* `Pipeline.processStream_matches_processRecords` — reading records is like being given them
-/

namespace TraceText

/-- No places at all, neither for what arrives nor in warnings. -/
def Relabeling.placeless : Relabeling :=
  ⟨fun _ => [], fun _ => 0, id, same.error_render, same.error_io⟩

/-- Two calls that do the same, and report the same errors one by one. -/
structure Step.Matches (s t : Step Counts) : Prop where
  result_eq : s.result = t.result
  sink_eq : s.sink = t.sink
  pipeline_eq : s.pipeline = t.pipeline
  errors_eq : s.warnings.map Warning.error = t.warnings.map Warning.error

namespace Pipeline

theorem stop_placeless (stop : Stop) : Relabeling.placeless.stop stop = stop := by
  cases stop <;> rfl

theorem errors_placeless (warnings : List Warning) :
    (warnings.map Relabeling.placeless.warning).map Warning.error = warnings.map Warning.error := by
  rw [List.map_map]
  rfl

theorem conclude_matches (p : Pipeline) (stop : Stop) {s t : Progress}
    (hcounts : s.counts = t.counts) (hsink : s.sink = t.sink)
    (herrors : s.warnings.map Warning.error = t.warnings.map Warning.error) :
    (p.conclude (stop, s)).Matches (p.conclude (stop, t)) := by
  cases stop <;> constructor <;> simp only [conclude, hcounts, hsink, herrors]

/-- A call on the same things at any places does the same. -/
theorem process_placeless (p : Pipeline) (source source' : Text) {as bs : List Arrival}
    (h : as.map Relabeling.placeless.arrival = bs.map Relabeling.placeless.arrival) (sink : Sink) :
    (p.process source as sink).Matches (p.process source' bs sink) := by
  cases hc : p.isClosed with
  | true =>
    rw [process_of_isClosed hc, process_of_isClosed hc]
    exact ⟨rfl, rfl, rfl, rfl⟩
  | false =>
    rw [process_of_not_isClosed hc, process_of_not_isClosed hc]
    -- without places the two calls are one
    have hs := p.drain_relabel .placeless source ⟨.zero, sink, []⟩ as ⟨.zero, sink, []⟩
    have ht := p.drain_relabel .placeless source' ⟨.zero, sink, []⟩ bs ⟨.zero, sink, []⟩
    rw [h] at hs
    have hsame := hs.symm.trans ht
    generalize p.drain source as ⟨.zero, sink, []⟩ = x at hsame ⊢
    generalize p.drain source' bs ⟨.zero, sink, []⟩ = y at hsame ⊢
    obtain ⟨stop, s⟩ := x
    obtain ⟨stop', t⟩ := y
    obtain ⟨hstop, hprogress⟩ := Prod.mk.inj hsame
    rw [stop_placeless, stop_placeless] at hstop
    obtain ⟨hcounts, hsink, hwarnings⟩ := Progress.mk.inj hprogress
    obtain rfl : stop = stop' := hstop
    apply p.conclude_matches
    · simpa using hcounts
    · exact hsink
    · rw [← errors_placeless s.warnings, ← errors_placeless t.warnings]
      exact congrArg (List.map Warning.error) hwarnings

end Pipeline

theorem Arrival.map_ofRecords_placeless (records : List Record) :
    (ofRecords records).map Relabeling.placeless.arrival = records.map (.record 0) := by
  apply List.ext_getElem?
  intro i
  simp only [ofRecords, List.getElem?_map, List.getElem?_mapIdx, Option.map_map]
  rfl

namespace Input

/-- What arrives with the lines of a text if all of them are blank or hold a record. -/
theorem map_arrivalsFrom_placeless {most : Nat} (number : Nat) {lines : List Text}
    {records : List Record}
    (hfit : ∀ line ∈ lines.filter fun line => !(Text.trim line).isEmpty,
      (Utf8.encode line).length ≤ most)
    (hrecords : (lines.filter fun line => !(Text.trim line).isEmpty).map Record.decode =
      records.map .ok) :
    (arrivalsFrom most [] number (lines.map Utf8.encode)).map Relabeling.placeless.arrival =
      records.map (.record 0) := by
  induction lines generalizing number records with
  | nil =>
    obtain rfl : records = [] := List.map_eq_nil_iff.mp hrecords.symm
    rfl
  | cons line lines ih =>
    rw [List.map_cons, arrivalsFrom_encode, List.map_append]
    cases hblank : (Text.trim line).isEmpty with
    | true =>
      -- nothing arrives with a blank line, which only takes a number
      rw [List.filter_cons_of_neg (by simp [hblank])] at hfit hrecords
      rw [arrivalOf, if_pos hblank, List.map_nil, List.nil_append]
      exact ih (number + 1) hfit hrecords
    | false =>
      rw [List.filter_cons_of_pos (by simp [hblank])] at hfit hrecords
      have hline : (Utf8.encode line).length ≤ most := hfit line List.mem_cons_self
      cases records with
      | nil => cases hrecords
      | cons r records =>
        rw [List.map_cons, List.map_cons] at hrecords
        obtain ⟨hdecode, hrest⟩ := List.cons.inj hrecords
        have hrestFit : ∀ other ∈ lines.filter fun line => !(Text.trim line).isEmpty,
            (Utf8.encode other).length ≤ most := fun other hother =>
          hfit other (List.mem_cons_of_mem line hother)
        rw [ih (number + 1) hrestFit hrest, arrivalOf, if_neg (by simp [hblank]),
          if_neg (Nat.not_lt.mpr hline), hdecode]
        rfl

end Input

namespace Pipeline

/-- If all lines of a text that are not blank fit and hold a record, reading the text is like being
given the records. -/
theorem processStream_matches_processRecords (p : Pipeline) {t : Text} {records : List Record}
    (hfit : ∀ line ∈ Text.contentLines t, (Utf8.encode line).length ≤ p.maxLineLength)
    (hrecords : (Text.contentLines t).map Record.decode = records.map .ok) (sink : Sink)
    (name : Option Text) :
    (p.processStream (.ofText t) sink name).Matches (p.processRecords records sink) := by
  apply p.process_placeless
  rw [Input.arrivals, Input.lines_ofText, Arrival.map_ofRecords_placeless]
  exact Input.map_arrivalsFrom_placeless 1 hfit hrecords

/-- A text with a blank line and a carriage return, whose one record does not fit the output. -/
theorem processStream_matches_processRecords_cut :
    let p := start (.constant ['x']) .failFast 60
    let t : Text := "\n\x7b\"type\":\"a\",\"startTime\":\"2024-03-05T10:00:00Z\"\x7d\r\n"
    ∃ records, (Text.contentLines t).map Record.decode = records.map .ok ∧
      (p.processStream (.ofText t) (.abandonedAfter 1) none).result = .ok ⟨1, 0, 0, 0⟩ ∧
      (p.processStream (.ofText t) (.abandonedAfter 1) none).Matches
        (p.processRecords records (.abandonedAfter 1)) := by
  intro p t
  have hrecords : ∃ r, (Text.contentLines t).map Record.decode = [r].map .ok := ⟨_, rfl⟩
  obtain ⟨r, hr⟩ := hrecords
  exact ⟨[r], hr, rfl, p.processStream_matches_processRecords (by decide) hr _ none⟩

end Pipeline

end TraceText
