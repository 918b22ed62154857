import TraceText.Proofs.Pipeline.Ending
import TraceText.Proofs.Pipeline.FirstFault
import TraceText.Proofs.Pipeline.Splitting
import TraceText.Proofs.Pipeline.TextInput

/-!
# Lines that hold no record

A lenient call passes over a line that is too long or holds no record, and treats all other lines as
if this one were not there.  The exception is a line that is not UTF-8: to the reader of lines this
is a failure of the input, so it ends even a lenient call, and the lines behind it are lost.

## Main definitions

* `Input.AllUtf8` — all lines of an input are UTF-8
* `Input.HoldsRecord` — a line holds a record that is not too long
* `Counts.ofBadLine` — what a line counts that holds no record

## Main results

* `Pipeline.drain_lenient` — only a failure of the input ends a lenient call on an output that
  accepts all bytes
* `Input.arrivals_insert` — what arrives if there is one line more
* `Pipeline.lenient_passes_over_badLines` — a lenient call passes over lines that hold no record
-/

namespace TraceText

/-- The failure that arrives, if one does. -/
def Arrival.failure? : Arrival → Option IoError
  | record _ _ => none
  | fault _ _ => none
  | failure e => some e

namespace Pipeline

/-! ### Lenient calls -/

/-- Only a failure of the input ends a lenient call on an output that accepts all bytes. -/
theorem carryOut_lenient {s : Progress} (hroom : s.sink.room = none) (p : Pipeline)
    (source : Text) {v : Verdict} (hv : ∀ e, v ≠ .fail e) :
    (p.lenient.carryOut source s v).1 = none := by
  rw [Option.eq_none_iff_forall_ne_some]
  intro stop hstop
  rcases (carryOut_eq_some_iff _ source s v stop).mp hstop with
    ⟨block, e, -, hwrite, -⟩ | ⟨position, e, -, hstrict, -⟩ | ⟨e, hfail, -⟩
  · rw [(Sink.accepted_write_of_room_eq_none hroom block).2] at hwrite
    cases hwrite
  · cases hstrict
  · exact hv e hfail

theorem room_write {sink : Sink} (h : sink.room = none) (block : List UInt8) :
    (sink.write block).1.room = none := by
  simp [Sink.write, h]

theorem verdict_ne_fail {a : Arrival} (h : a.failure? = none) (p : Pipeline) (e : IoError) :
    p.verdict a ≠ .fail e := by
  intro hv
  cases a with
  | record position r =>
    simp only [verdict] at hv
    split at hv <;> cases hv
  | fault position e' => cases hv
  | failure e' => cases h

/-- A lenient call on an output that accepts all bytes ends with the first failure of the input. -/
theorem drain_lenient (p : Pipeline) (source : Text) (arrivals : List Arrival) {s : Progress}
    (hroom : s.sink.room = none) :
    (p.lenient.drain source arrivals s).1 =
      match arrivals.findSome? Arrival.failure? with
      | none => .finished
      | some e => .failed (.io e) := by
  induction arrivals generalizing s with
  | nil => rfl
  | cons a rest ih =>
    rw [drain_cons]
    cases ha : a.failure? with
    | none =>
      have hnone := carryOut_lenient hroom p source (verdict_ne_fail ha p.lenient)
      have hroom' := carryOut_preserves_sink (P := fun sink => sink.room = none)
        (fun _ block h => room_write h block) p.lenient source hroom (p.lenient.verdict a)
      rw [List.findSome?_cons_of_isNone (by simp [ha])]
      generalize p.lenient.carryOut source s (p.lenient.verdict a) = x at hnone hroom' ⊢
      obtain ⟨_ | stop, t⟩ := x
      · exact ih hroom'
      · cases hnone
    | some e =>
      rw [List.findSome?_cons_of_isSome (by simp [ha]), ha]
      cases a with
      | record position r => cases ha
      | fault position e' => cases ha
      | failure e' =>
        obtain rfl : e' = e := Option.some.inj ha
        rfl

end Pipeline

/-! ### Lines -/

namespace Input

/-- Whether all lines of an input are UTF-8. -/
def AllUtf8 (input : Input) : Prop := ∀ line ∈ input.lines, (Utf8.decode? line).isSome = true

/-- What fails among the lines of an input is the first line that is not UTF-8. -/
theorem findSome?_failure?_arrivalsFrom (most number : Nat) (lines : List (List UInt8)) :
    (arrivalsFrom most [] number lines).findSome? Arrival.failure? = none ↔
      ∀ line ∈ lines, (Utf8.decode? line).isSome = true := by
  induction lines generalizing number with
  | nil => simp [arrivalsFrom]
  | cons line lines ih =>
    cases hd : Utf8.decode? line with
    | none => simp [arrivalsFrom, hd, Arrival.failure?]
    | some text =>
      have hline : (arrivalOf most number line.length text).findSome? Arrival.failure? = none := by
        unfold arrivalOf
        split
        · rfl
        · split
          · rfl
          · split <;> rfl
      rw [arrivalsFrom_cons_of_decode? hd, List.findSome?_append, hline, Option.none_or, ih]
      simp [hd]

/-- Whether a line, without the line feed that ends it, holds a record and is not too long. -/
def HoldsRecord (most : Nat) (line : List UInt8) : Prop :=
  ∃ text r, Utf8.decode? (chompReturn line) = some text ∧ (chompReturn line).length ≤ most ∧
    Record.decode text = .ok r

/-- A line that is no record is blank, or a fault. -/
theorem arrivalOf_of_not_holdsRecord {most : Nat} {line : List UInt8} {text : Text}
    (htext : Utf8.decode? (chompReturn line) = some text) (h : ¬ HoldsRecord most line)
    (number : Nat) :
    if (Text.trim text).isEmpty then
      arrivalOf most number (chompReturn line).length text = []
    else ∃ e, arrivalOf most number (chompReturn line).length text = [.fault number e] := by
  unfold arrivalOf
  by_cases hblank : (Text.trim text).isEmpty = true
  · rw [if_pos hblank, if_pos hblank]
  · rw [if_neg hblank, if_neg hblank]
    by_cases hlong : most < (chompReturn line).length
    · rw [if_pos hlong]
      exact ⟨_, rfl⟩
    · rw [if_neg hlong]
      cases hdecode : Record.decode text with
      | ok r => exact absurd ⟨text, r, htext, Nat.le_of_not_lt hlong, hdecode⟩ h
      | error e => exact ⟨_, rfl⟩

/-- A line by itself, with the line feed that ends it. -/
theorem lines_single {line : List UInt8} (h : lineFeed ∉ line) :
    (Input.mk (line ++ [lineFeed]) none).lines = [chompReturn line] := by
  simp only [lines, splitLines_append_of_not_mem h]
  simp [splitLines, consByte, prepend]

/-- What arrives if there is a further line at the end of another one.  Before it the same arrives,
and behind it the same one line further on. -/
theorem arrivals_insert (most : Nat) {a line : List UInt8} {text : Text} (ha : EndsLine a)
    (hline : lineFeed ∉ line) (htext : Utf8.decode? (chompReturn line) = some text)
    (b : List UInt8) :
    ∃ number rest,
      (Input.mk (a ++ b) none).arrivals most =
        arrivalsFrom most rest 1 (Input.mk a none).lines ∧
      (Input.mk (a ++ (line ++ [lineFeed] ++ b)) none).arrivals most =
        arrivalsFrom most (arrivalOf most number (chompReturn line).length text ++
          rest.map (Relabeling.addLines 1).arrival) 1 (Input.mk a none).lines := by
  have hends : EndsLine (line ++ [lineFeed]) := .inr List.getLast?_concat
  have hfurther := lines_append hends ⟨b, none⟩
  rw [lines_single hline] at hfurther
  refine ⟨1 + (Input.mk a none).lines.length,
    arrivalsFrom most [] (1 + (Input.mk a none).lines.length) (Input.mk b none).lines, ?_, ?_⟩
  · have hlines := lines_append ha ⟨b, none⟩
    rw [behind] at hlines
    rw [arrivals, hlines, arrivalsFrom_append]
    rfl
  · have hlines := lines_append ha ((Input.mk b none).behind (line ++ [lineFeed]))
    rw [hfurther, behind, behind] at hlines
    have hshift := map_arrivalsFrom 1 most (1 + (Input.mk a none).lines.length) ⟨b, none⟩
      (Input.mk b none).lines
    rw [arrivals, hlines, arrivalsFrom_append, List.singleton_append,
      arrivalsFrom_cons_of_decode? htext]
    exact congrArg (fun rest => arrivalsFrom most (_ ++ rest) 1 _) hshift.symm

end Input

/-- What a line counts that holds no record: nothing if it is blank, else an error. -/
def Counts.ofBadLine (isBlank : Bool) : Counts := if isBlank then .zero else ⟨1, 0, 0, 1⟩

theorem Counts.add_right_comm (a b c : Counts) : a + b + c = a + c + b := by
  change Counts.mk _ _ _ _ = Counts.mk _ _ _ _
  congr 1 <;> exact Nat.add_right_comm _ _ _

namespace Pipeline

/-- A lenient call passes over a line that holds no record. -/
theorem drain_badLine (p : Pipeline) (source : Text) {most : Nat} {line : List UInt8} {text : Text}
    (htext : Utf8.decode? (chompReturn line) = some text)
    (h : ¬ Input.HoldsRecord most line) (number : Nat) (s : Progress) :
    ∃ t, p.lenient.drain source
        (Input.arrivalOf most number (chompReturn line).length text) s = (.finished, t) ∧
      t.sink = s.sink ∧ t.counts = s.counts + .ofBadLine (Text.trim text).isEmpty := by
  have harrival := Input.arrivalOf_of_not_holdsRecord htext h number
  cases hblank : (Text.trim text).isEmpty with
  | true =>
    rw [hblank, if_pos rfl] at harrival
    rw [harrival]
    exact ⟨s, rfl, rfl, rfl⟩
  | false =>
    rw [hblank, if_neg Bool.false_ne_true] at harrival
    obtain ⟨e, he⟩ := harrival
    rw [he]
    exact ⟨_, rfl, rfl, rfl⟩

/-- The same things arrive behind some more lines, at an output in the same state.  What they count
is the same, and only errors about lines could show where they are; none of these ends the call. -/
theorem drain_lenient_addLines (p : Pipeline) (source : Text) (n : Nat) (arrivals : List Arrival)
    {s t : Progress} (hroom : s.sink.room = none) (hsink : t.sink = s.sink) :
    ∃ stop u v counts, p.lenient.drain source arrivals s = (stop, u) ∧
      p.lenient.drain source (arrivals.map (Relabeling.addLines n).arrival) t = (stop, v) ∧
      v.sink = u.sink ∧ u.counts = s.counts + counts ∧ v.counts = t.counts + counts := by
  have hfirst := p.lenient.drain_behind source arrivals ⟨.zero, s.sink, []⟩ s
  rw [Progress.behind_self] at hfirst
  have hsecond := p.lenient.drain_addLines n source arrivals t
  rw [hsink] at hsecond
  have hstop := p.drain_lenient source arrivals (s := ⟨.zero, s.sink, []⟩) hroom
  generalize p.lenient.drain source arrivals ⟨.zero, s.sink, []⟩ = out at hfirst hsecond hstop
  have hsame : (Relabeling.addLines n).stop out.1 = out.1 := by
    rw [hstop]
    split <;> rfl
  rw [hsame] at hsecond
  exact ⟨out.1, _, _, out.2.counts, hfirst, hsecond, rfl, rfl, rfl⟩

/-- A lenient call on an output that accepts all bytes succeeds exactly if all lines are UTF-8. -/
theorem processStream_lenient_isOk (p : Pipeline) (hopen : p.isClosed = false) {sink : Sink}
    (hroom : sink.room = none) (bytes : List UInt8) (name : Option Text) :
    (∃ c, (p.lenient.processStream ⟨bytes, none⟩ sink name).result = .ok c) ↔
      (Input.mk bytes none).AllUtf8 := by
  have hopen' : p.lenient.isClosed = false := hopen
  have hstop := p.drain_lenient (name.getD unnamedInput)
    ((Input.mk bytes none).arrivals p.maxLineLength) (s := ⟨.zero, sink, []⟩) hroom
  have hfails := Input.findSome?_failure?_arrivalsFrom p.maxLineLength 1
    (Input.mk bytes none).lines
  rw [Input.AllUtf8, ← hfails, processStream, process_of_not_isClosed hopen']
  change _ ↔ ((Input.mk bytes none).arrivals p.maxLineLength).findSome? Arrival.failure? = none
  have hmost : p.lenient.maxLineLength = p.maxLineLength := rfl
  rw [hmost]
  generalize p.lenient.drain (name.getD unnamedInput)
    ((Input.mk bytes none).arrivals p.maxLineLength) ⟨.zero, sink, []⟩ = out at hstop ⊢
  obtain ⟨stop, t⟩ := out
  obtain rfl := hstop
  cases ((Input.mk bytes none).arrivals p.maxLineLength).findSome? Arrival.failure? with
  | none => simp [conclude]
  | some e => simp [conclude]

/-- What concludes a call that has counted something more and otherwise done the same. -/
theorem conclude_add (p : Pipeline) (stop : Stop) {u v : Progress} {more : Counts}
    (hsink : v.sink = u.sink) (hcounts : v.counts = u.counts + more) :
    (p.conclude (stop, v)).sink = (p.conclude (stop, u)).sink ∧
      (p.conclude (stop, v)).result = (p.conclude (stop, u)).result.map (· + more) := by
  cases stop with
  | finished => exact ⟨hsink, congrArg Except.ok hcounts⟩
  | closed => exact ⟨hsink, congrArg Except.ok hcounts⟩
  | failed e => exact ⟨hsink, rfl⟩

/-- A lenient call on an output that accepts all bytes passes over a further line that is UTF-8 but
holds no record: it writes the same, and only counts the line. -/
theorem processStream_insert (p : Pipeline) (hopen : p.isClosed = false) {sink : Sink}
    (hroom : sink.room = none) (name : Option Text) {a line : List UInt8} {text : Text}
    (ha : EndsLine a) (hline : lineFeed ∉ line)
    (htext : Utf8.decode? (chompReturn line) = some text)
    (hbad : ¬ Input.HoldsRecord p.maxLineLength line) (b : List UInt8) :
    let without := p.lenient.processStream ⟨a ++ b, none⟩ sink name
    let inserted := p.lenient.processStream ⟨a ++ (line ++ [lineFeed] ++ b), none⟩ sink name
    inserted.sink = without.sink ∧
      inserted.result = without.result.map (· + .ofBadLine (Text.trim text).isEmpty) := by
  intro without inserted
  have hopen' : p.lenient.isClosed = false := hopen
  have hmost : p.lenient.maxLineLength = p.maxLineLength := rfl
  obtain ⟨number, rest, hwithout, hinserted⟩ :=
    Input.arrivals_insert p.maxLineLength ha hline htext b
  simp only [without, inserted, processStream, process_of_not_isClosed hopen', hmost, hwithout,
    hinserted]
  generalize name.getD unnamedInput = source
  rw [drain_arrivalsFrom, drain_arrivalsFrom p.lenient _ _ _ rest]
  -- both calls begin with the lines before the further one
  have hstop := p.drain_lenient source
    (Input.arrivalsFrom p.maxLineLength [] 1 (Input.mk a none).lines) (s := ⟨.zero, sink, []⟩) hroom
  have hroom' := drain_preserves_sink (P := fun sink => sink.room = none)
    (fun _ block h => room_write h block) p.lenient source
    (Input.arrivalsFrom p.maxLineLength [] 1 (Input.mk a none).lines) (s := ⟨.zero, sink, []⟩) hroom
  generalize p.lenient.drain source
    (Input.arrivalsFrom p.maxLineLength [] 1 (Input.mk a none).lines) ⟨.zero, sink, []⟩ = out
    at hstop hroom' ⊢
  obtain ⟨_ | _ | e, s⟩ := out
  · -- one of them passes over the further line, and both go on with the lines behind it
    obtain ⟨t, hpass, hsink, hcounts⟩ := p.drain_badLine source htext hbad number s
    obtain ⟨stop, u, v, counts, hu, hv, hsame, hucounts, hvcounts⟩ :=
      p.drain_lenient_addLines source 1 rest hroom' hsink
    simp only [drain_append, hpass, hu, hv]
    apply conclude_add
    · exact hsame
    · rw [hvcounts, hcounts, hucounts, Counts.add_right_comm]
  · -- an output that accepts all bytes is not closed
    dsimp only at hstop
    split at hstop <;> cases hstop
  · exact ⟨rfl, rfl⟩

/-- A lenient call on an output that accepts all bytes succeeds if and only if all lines are UTF-8.
A further line that is UTF-8 but holds no record leaves alone what it writes, and adds nothing to
what it counts but an error, or nothing at all if it is blank. -/
theorem lenient_passes_over_badLines (p : Pipeline) (hopen : p.isClosed = false) {sink : Sink}
    (hroom : sink.room = none) (name : Option Text) :
    let call (bytes : List UInt8) := p.lenient.processStream ⟨bytes, none⟩ sink name
    (∀ bytes, (∃ c, (call bytes).result = .ok c) ↔ (Input.mk bytes none).AllUtf8) ∧
      ∀ a line text b, EndsLine a → lineFeed ∉ line →
        Utf8.decode? (chompReturn line) = some text →
        ¬ Input.HoldsRecord p.maxLineLength line →
          (call (a ++ (line ++ [lineFeed] ++ b))).sink = (call (a ++ b)).sink ∧
            (call (a ++ (line ++ [lineFeed] ++ b))).result =
              (call (a ++ b)).result.map (· + .ofBadLine (Text.trim text).isEmpty) := by
  intro call
  constructor
  · intro bytes
    exact p.processStream_lenient_isOk hopen hroom bytes name
  · intro a line text b ha hline htext hbad
    exact p.processStream_insert hopen hroom name ha hline htext hbad b

/-- Between a line that holds no record and one that does, a further line that is cut short is
counted as an error. -/
theorem lenient_passes_over_openBrace :
    let p := start (.constant ['x']) .failFast 60
    let call (bytes : List UInt8) := p.lenient.processStream ⟨bytes, none⟩ .unbounded none
    let a := Utf8.encode "oops\n"
    let line := Utf8.encode "\x7b\r"
    let b := Utf8.encode "\x7b\"type\":\"a\",\"startTime\":\"2024-03-05T10:00:00Z\"\x7d"
    EndsLine a ∧ lineFeed ∉ line ∧ ¬ Input.HoldsRecord 60 line ∧
      (call (a ++ b)).result = .ok ⟨2, 1, 0, 1⟩ ∧
      (call (a ++ (line ++ [lineFeed] ++ b))).sink = (call (a ++ b)).sink ∧
      (call (a ++ (line ++ [lineFeed] ++ b))).result = .ok ⟨3, 1, 0, 2⟩ := by
  intro p call a line b
  have ha : EndsLine a := .inr (by decide)
  have hline : lineFeed ∉ line := by decide
  have htext : Utf8.decode? (chompReturn line) = some ['\x7b'] := by decide
  have hbad : ¬ Input.HoldsRecord 60 line := by
    rintro ⟨text, r, hdecode, -, hrecord⟩
    obtain rfl : ['\x7b'] = text := Option.some.inj (htext.symm.trans hdecode)
    cases hrecord
  have hwithout : (call (a ++ b)).result = .ok ⟨2, 1, 0, 1⟩ := rfl
  have hroom : Sink.unbounded.room = none := rfl
  obtain ⟨hsink, hresult⟩ :=
    (p.lenient_passes_over_badLines rfl hroom none).2 a line _ b ha hline htext hbad
  refine ⟨ha, hline, hbad, hwithout, hsink, ?_⟩
  exact hresult.trans (congrArg (Except.map _) hwithout)

/-- A line that is not UTF-8 ends a lenient call, and the record behind it is lost. -/
theorem notUtf8_ends_lenient_call :
    let p := start (.constant ['x']) .skip 60
    let call (bytes : List UInt8) := p.processStream ⟨bytes, none⟩ .unbounded none
    let record := Utf8.encode
      "\x7b\"type\":\"a\",\"startTime\":\"2024-03-05T10:00:00Z\"\x7d\n"
    (call (record ++ record)).result = .ok ⟨2, 2, 0, 0⟩ ∧
      (call (record ++ ([0xFF] ++ [lineFeed] ++ record))).result = .error (.io .notUtf8) ∧
      (call (record ++ ([0xFF] ++ [lineFeed] ++ record))).sink.accepted.toList =
        Utf8.encode "x\n" := by
  intro p call record
  exact ⟨rfl, rfl, rfl⟩

end Pipeline

end TraceText
