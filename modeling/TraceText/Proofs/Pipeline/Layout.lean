import TraceText.Proofs.Pipeline.LineByLine
import TraceText.Proofs.Text.Pieces

/-!
# The layout of an input

An input may be laid out in several ways: its lines may end in line feeds with or without a carriage
return in front, the last one may lack its end, and there may be blank lines between the others, of
any length.  A call does the same in all these ways; only the numbers of lines in its errors and
warnings grow by the blank lines that come before.

## Main definitions

* `Text.LaidOut` — a text that holds lines
* `Spacing` — lines with blank ones put between them, `Spacing.numberOf` — where a line is then
* `Relabeling.renumber`, `Relabeling.step` — other numbers for lines, and a call that names these

## Main results

* `Text.laidOut_iff` — every text holds its lines, and no others
* `Spacing.arrivals_spaced` — what arrives with the blank lines and without them
* `Pipeline.processStream_laidOut` — a call does not depend on the layout of its input
-/

namespace TraceText

namespace Text

/-! ### Lines and their ends -/

/-- A text that holds lines.  Each of them ends in a line feed, with or without a carriage return in
front of it; the last one, if there is anything in it, may also lack an end. -/
inductive LaidOut : List Text → Text → Prop where
  | nil : LaidOut [] []
  | last {line : Text} (hne : line ≠ []) (hline : '\n' ∉ line) : LaidOut [line] line
  | lineFeed {line rest : Text} {lines : List Text} (hline : '\n' ∉ line)
      (hreturn : line.getLast? ≠ some '\r') (hrest : LaidOut lines rest) :
      LaidOut (line :: lines) (line ++ '\n' :: rest)
  | returnLineFeed {line rest : Text} {lines : List Text} (hline : '\n' ∉ line)
      (hrest : LaidOut lines rest) : LaidOut (line :: lines) (line ++ '\r' :: '\n' :: rest)

/-- The first line of a text precedes the first line feed. -/
theorem lines_append_cons {line : Text} (h : '\n' ∉ line) (rest : Text) :
    lines (line ++ '\n' :: rest) = chomp '\r' line :: lines rest := by
  have hpieces : splitOn '\n' (line ++ '\n' :: rest) = line :: splitOn '\n' rest := by
    rw [splitOn_eq, splitOn_eq, List.splitOn_append_cons_self_of_not_mem h]
  obtain ⟨next, more, hrest⟩ := List.exists_cons_of_ne_nil (splitOn_ne_nil '\n' rest)
  rw [lines, lines, hpieces, hrest, linesOfPieces_cons_cons]

/-- A text without a line feed is its only line, if there is anything in it. -/
theorem lines_of_not_mem {t : Text} (h : '\n' ∉ t) : lines t = if t = [] then [] else [t] := by
  rw [lines, splitOn_of_not_mem h, linesOfPieces]

theorem chomp_concat (stop : Char) (t : Text) : chomp stop (t ++ [stop]) = t := by
  rw [chomp, stripEnd_eq_some_iff.mpr rfl, Option.getD_some]

theorem chomp_of_getLast?_ne {stop : Char} {t : Text} (h : t.getLast? ≠ some stop) :
    chomp stop t = t := by
  rw [chomp, stripEnd, if_neg h, Option.getD_none]

theorem LaidOut.lines_eq {lines : List Text} {t : Text} (h : LaidOut lines t) :
    Text.lines t = lines := by
  induction h with
  | nil => rfl
  | last hne hline => rw [lines_of_not_mem hline, if_neg hne]
  | lineFeed hline hreturn _ ih => rw [lines_append_cons hline, chomp_of_getLast?_ne hreturn, ih]
  | @returnLineFeed line rest lines hline _ ih =>
    -- with its carriage return, the line still holds no line feed
    have hreturn : '\n' ∉ line ++ ['\r'] := by simpa using hline
    have happend : line ++ '\r' :: '\n' :: rest = line ++ ['\r'] ++ '\n' :: rest := by simp
    rw [happend, lines_append_cons hreturn, chomp_concat, ih]

/-- Every text holds its lines. -/
theorem laidOut_lines (t : Text) : LaidOut (lines t) t := by
  by_cases hmem : '\n' ∈ t
  · obtain ⟨line, rest, ht, hline⟩ := List.eq_append_cons_of_mem hmem
    have hshorter : rest.length < t.length := by
      rw [ht, List.length_append, List.length_cons]
      omega
    have hrest := laidOut_lines rest
    rw [ht, lines_append_cons hline]
    by_cases hreturn : line.getLast? = some '\r'
    · -- the carriage return belongs to the end of the line
      obtain ⟨start, rfl⟩ := List.getLast?_eq_some_iff.mp hreturn
      rw [chomp_concat, List.append_assoc]
      exact .returnLineFeed (fun h => hline (List.mem_append_left _ h)) hrest
    · rw [chomp_of_getLast?_ne hreturn]
      exact .lineFeed hline hreturn hrest
  · rw [lines_of_not_mem hmem]
    split
    · next hnil => exact hnil ▸ .nil
    · next hne => exact .last hne hmem
termination_by t.length

/-- Every text holds its lines, and no others. -/
theorem laidOut_iff {lines : List Text} {t : Text} : LaidOut lines t ↔ Text.lines t = lines := by
  constructor
  · exact LaidOut.lines_eq
  · rintro rfl
    exact laidOut_lines t

end Text

/-! ### Other numbers for lines -/

/-- An error with another number for its line. -/
def ProcessingError.renumber (numberOf : Nat → Nat) : ProcessingError → ProcessingError
  | .input line e => .input (numberOf line) e
  | .render event e => .render event e
  | .lineTooLong length most => .lineTooLong length most
  | .io e => .io e

namespace Relabeling

/-- Other numbers for lines. -/
def renumber (numberOf : Nat → Nat) : Relabeling :=
  ⟨id, numberOf, .renumber numberOf, fun _ _ => rfl, fun _ => rfl⟩

/-- A call that names other places, and does the same apart from that. -/
def step (ρ : Relabeling) (s : Step Counts) : Step Counts :=
  ⟨s.result.mapError ρ.error, s.pipeline, s.sink, s.warnings.map ρ.warning⟩

theorem conclude_stop (ρ : Relabeling) (p : Pipeline) (sink : Sink) (out : Stop × Progress) :
    p.conclude (ρ.stop out.1, ρ.resume ⟨.zero, sink, []⟩ out.2) = ρ.step (p.conclude out) := by
  obtain ⟨_ | _ | e, s⟩ := out <;>
    simp only [stop, resume, Pipeline.conclude, step, Counts.zero_add, List.nil_append] <;> rfl

end Relabeling

/-- A call on the same things with other numbers. -/
theorem Pipeline.process_renumber (p : Pipeline) (numberOf : Nat → Nat) (source : Text)
    (arrivals : List Arrival) (sink : Sink) :
    p.process source (arrivals.map (Relabeling.renumber numberOf).arrival) sink =
      (Relabeling.renumber numberOf).step (p.process source arrivals sink) := by
  cases hc : p.isClosed with
  | true =>
    rw [process_of_isClosed hc, process_of_isClosed hc]
    rfl
  | false =>
    -- the call begins under the other numbers with nothing done, as it does under its own
    have hdrain := p.drain_relabel (.renumber numberOf) source ⟨.zero, sink, []⟩ arrivals
      ⟨.zero, sink, []⟩
    have hself : (Relabeling.renumber numberOf).resume ⟨.zero, sink, []⟩ ⟨.zero, sink, []⟩ =
        ⟨.zero, sink, []⟩ := Relabeling.resume_self _ _
    rw [hself] at hdrain
    rw [process_of_not_isClosed hc, process_of_not_isClosed hc, ← Relabeling.conclude_stop]
    exact congrArg p.conclude hdrain

/-! ### Blank lines between the others -/

/-- Lines with blank ones put between them. -/
structure Spacing where
  /-- The lines, each with the blank ones that are put before it. -/
  blocks : List (List Text × Text)
  /-- The blank lines that are put behind the last line. -/
  trailing : List Text
  blank_of_mem_blocks : ∀ block ∈ blocks, ∀ line ∈ block.1, ∀ c ∈ line, Text.isBlank c = true
  blank_of_mem_trailing : ∀ line ∈ trailing, ∀ c ∈ line, Text.isBlank c = true

namespace Spacing

/-- The lines alone. -/
def plain (s : Spacing) : List Text := s.blocks.map Prod.snd

/-- The lines and the blank ones. -/
def spaced (s : Spacing) : List Text :=
  (s.blocks.flatMap fun block => block.1 ++ [block.2]) ++ s.trailing

/-- How many blank lines are put before a line. -/
def before (blocks : List (List Text × Text)) (number : Nat) : Nat :=
  ((blocks.take number).flatMap Prod.fst).length

/-- The number of a line among the blank ones: it grows by those that are put before the line. -/
def numberOf (s : Spacing) (number : Nat) : Nat := number + before s.blocks number

end Spacing

namespace Input

/-- Nothing arrives with a blank line, however long it is. -/
theorem arrivalOf_of_blank {line : Text} (h : ∀ c ∈ line, Text.isBlank c = true)
    (most number size : Nat) : arrivalOf most number size line = [] := by
  rw [arrivalOf, Text.trim_eq_nil_iff.mpr h]
  rfl

/-- Blank lines only have numbers. -/
theorem arrivalsFrom_append_of_blank {blanks : List Text}
    (h : ∀ line ∈ blanks, ∀ c ∈ line, Text.isBlank c = true) (most number : Nat)
    (ending : List Arrival) (lines : List (List UInt8)) :
    arrivalsFrom most ending number (blanks.map Utf8.encode ++ lines) =
      arrivalsFrom most ending (number + blanks.length) lines := by
  induction blanks generalizing number with
  | nil => rfl
  | cons line blanks ih =>
    obtain ⟨hline, hblanks⟩ := List.forall_mem_cons.mp h
    rw [List.map_cons, List.cons_append, arrivalsFrom_encode, arrivalOf_of_blank hline,
      List.nil_append, ih hblanks, List.length_cons, Nat.add_assoc, Nat.add_comm 1]

/-- What arrives with lines arrives with blank ones between them too, under the numbers that the
lines have there. -/
theorem map_arrivalsFrom_blocks (numberOf : Nat → Nat) (most number first : Nat)
    (blocks : List (List Text × Text))
    (hblank : ∀ block ∈ blocks, ∀ line ∈ block.1, ∀ c ∈ line, Text.isBlank c = true)
    (hnumber : ∀ i, numberOf (number + i) = first + i + Spacing.before blocks (i + 1))
    (rest : List (List UInt8)) (hrest : ∀ number, arrivalsFrom most [] number rest = []) :
    (arrivalsFrom most [] number (blocks.map fun block => Utf8.encode block.2)).map
        (Relabeling.renumber numberOf).arrival =
      arrivalsFrom most [] first
        ((blocks.flatMap fun block => block.1.map Utf8.encode ++ [Utf8.encode block.2]) ++
          rest) := by
  -- the numbers of what follows a block are those of what follows its line, moved by its blank
  -- lines
  induction blocks generalizing number first with
  | nil => exact (hrest first).symm
  | cons block blocks ih =>
    obtain ⟨hblock, hblocks⟩ := List.forall_mem_cons.mp hblank
    have hhere : numberOf number = first + block.1.length := by
      simpa [Spacing.before] using hnumber 0
    have hnext (i : Nat) : numberOf (number + 1 + i) =
        first + block.1.length + 1 + i + Spacing.before blocks (i + 1) := by
      have hlater := hnumber (i + 1)
      simp only [Spacing.before, List.take_succ_cons, List.flatMap_cons, List.length_append]
        at hlater ⊢
      rw [Nat.add_assoc number, Nat.add_comm 1, hlater]
      omega
    rw [List.map_cons, List.flatMap_cons, List.append_assoc, List.append_assoc,
      arrivalsFrom_append_of_blank hblock, List.singleton_append, arrivalsFrom_encode,
      arrivalsFrom_encode, List.map_append, map_arrivalOf (fun _ _ => rfl) (fun _ _ => rfl),
      ih (number + 1) _ hblocks hnext]
    exact congrArg (arrivalOf most · _ block.2 ++ _) hhere

end Input

/-- What arrives with the blank lines and without them. -/
theorem Spacing.arrivals_spaced (s : Spacing) (most : Nat) :
    Input.arrivalsFrom most [] 1 (s.spaced.map Utf8.encode) =
      (Input.arrivalsFrom most [] 1 (s.plain.map Utf8.encode)).map
        (Relabeling.renumber s.numberOf).arrival := by
  have htrailing (number : Nat) :
      Input.arrivalsFrom most [] number (s.trailing.map Utf8.encode) = [] := by
    have hblank := Input.arrivalsFrom_append_of_blank s.blank_of_mem_trailing most number [] []
    rwa [List.append_nil] at hblank
  have hnumber (i : Nat) : s.numberOf (1 + i) = 1 + i + before s.blocks (i + 1) := by
    rw [numberOf, Nat.add_comm 1]
  have hblocks := Input.map_arrivalsFrom_blocks s.numberOf most 1 1 s.blocks s.blank_of_mem_blocks
    hnumber _ htrailing
  simpa [spaced, plain, List.map_flatMap, Function.comp_def] using hblocks.symm

/-! ### Calls -/

namespace Pipeline

/-- A call on a text that holds lines and blank ones between them is the call on any text that holds
the lines alone, but for the numbers of lines in its errors and warnings. -/
theorem processStream_laidOut (p : Pipeline) (sink : Sink) (name : Option Text) (s : Spacing)
    {t u : Text} (ht : Text.LaidOut s.plain t) (hu : Text.LaidOut s.spaced u) :
    p.processStream (.ofText u) sink name =
      (Relabeling.renumber s.numberOf).step (p.processStream (.ofText t) sink name) := by
  have hplain : (Input.ofText t).arrivals p.maxLineLength =
      Input.arrivalsFrom p.maxLineLength [] 1 (s.plain.map Utf8.encode) := by
    rw [Input.arrivals, Input.lines_ofText, ht.lines_eq]
    rfl
  have hspaced : (Input.ofText u).arrivals p.maxLineLength =
      Input.arrivalsFrom p.maxLineLength [] 1 (s.spaced.map Utf8.encode) := by
    rw [Input.arrivals, Input.lines_ofText, hu.lines_eq]
    rfl
  rw [processStream, processStream, hplain, hspaced, s.arrivals_spaced, process_renumber]

/-- A line of the greatest length is still read if it ends in a carriage return and a line feed, and
the fault behind it is reported two lines further on if there are two more blank lines, one of which
is longer than lines may be. -/
theorem processStream_laidOut_behindBlanks :
    let record : Text := "\x7b\"type\":\"a\",\"startTime\":\"2024-03-05T10:00:00Z\"\x7d"
    let p := start (.constant ['x']) .failFast record.length
    let s : Spacing :=
      ⟨[([List.replicate 60 ' '], record), ([[]], ['?'])], [['\t']], by simp; decide,
        by simp; decide⟩
    let t : Text := record ++ "\n?"
    let u : Text := List.replicate 60 ' ' ++ "\n" ++ record ++ "\r\n\n?\r\n\t"
    let step := p.processStream (.ofText t) .unbounded none
    Text.LaidOut s.plain t ∧ Text.LaidOut s.spaced u ∧
      (∃ e, step.result = .error (.input 2 e) ∧
        (p.processStream (.ofText u) .unbounded none).result = .error (.input 4 e)) ∧
      p.processStream (.ofText u) .unbounded none = (Relabeling.renumber s.numberOf).step step := by
  intro record p s t u step
  have ht : Text.LaidOut s.plain t := Text.laidOut_iff.mpr (by decide)
  have hu : Text.LaidOut s.spaced u := Text.laidOut_iff.mpr (by decide)
  have hsame := p.processStream_laidOut .unbounded none s ht hu
  refine ⟨ht, hu, ⟨_, rfl, ?_⟩, hsame⟩
  rw [hsame]
  rfl

end Pipeline

end TraceText
