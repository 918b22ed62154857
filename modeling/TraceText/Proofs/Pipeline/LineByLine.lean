import TraceText.Proofs.Pipeline.BadLine

/-!
# A lenient call line by line

What a lenient call does about a text is settled by each line for itself.  A blank line is passed
over, a line that is too long or holds no record is refused, and so is a record that cannot be
rendered; any other record is written or left out.  The call counts the lines by their fates, writes
the blocks of those that are written, and reports those that are refused, each under its number.

## Main definitions

* `Fate` — what becomes of a line
* `Pipeline.fate`, `Pipeline.fates` — the fate of a line, and of lines under their numbers
* `Pipeline.Fares` — why a line has a fate
* `writtenTexts`, `warningsOf`, `Counts.ofFates` — what is written, reported and counted of lines

## Main results

* `Pipeline.fate_eq_iff` — a line has a fate for a reason
* `Pipeline.drain_lines` — a lenient call treats lines by their fates
* `Pipeline.processStream_lineByLine` — a lenient call on a text is the sum of its lines
-/

namespace TraceText

/-! ### Blank lines -/

theorem Text.trim_eq_nil_iff {t : Text} : trim t = [] ↔ ∀ c ∈ t, isBlank c = true := by
  rw [← trimStart_eq_nil_iff]
  have hends : trim t = [] ↔ ∀ c ∈ trimStart t, isBlank c = true := by
    have hend : trim t = (trimStart (trimStart t).reverse).reverse := rfl
    rw [hend, List.reverse_eq_nil_iff, trimStart_eq_nil_iff]
    simp only [List.mem_reverse]
  rw [hends]
  constructor
  · intro hblank
    -- what trimming leaves at the start is no blank
    cases htrim : trimStart t with
    | nil => rfl
    | cons c rest =>
      rw [htrim] at hblank
      have hhead := List.head?_dropWhile_not isBlank t
      unfold trimStart at htrim
      simp only [htrim, List.head?_cons, hblank c List.mem_cons_self] at hhead
      cases hhead
  · intro htrim
    rw [htrim]
    simp

theorem Text.isEmpty_trim (t : Text) : (trim t).isEmpty = t.all isBlank := by
  rw [Bool.eq_iff_iff, List.isEmpty_iff, trim_eq_nil_iff, List.all_eq_true]

/-! ### Fates -/

/-- What becomes of a line. -/
inductive Fate where
  /-- The line is blank. -/
  | passedOver
  /-- The record is written as this text. -/
  | written (text : Text)
  /-- The record lies outside the window or has no route. -/
  | leftOut
  | refused (e : ProcessingError)
  deriving DecidableEq

namespace Fate

/-- The text of a line that is written. -/
def text? : Fate → Option Text
  | written text => some text
  | _ => none

/-- The error for which a line is refused. -/
def error? : Fate → Option ProcessingError
  | refused e => some e
  | _ => none

/-- What a line counts. -/
def counts : Fate → Counts
  | passedOver => .zero
  | written _ => ⟨1, 1, 0, 0⟩
  | leftOut => ⟨1, 0, 1, 0⟩
  | refused _ => ⟨1, 0, 0, 1⟩

end Fate

/-- A text as a block of its own in an output. -/
def blockOf (text : Text) : List UInt8 := Utf8.encode (text ++ ['\n'])

/-- The texts of the lines that are written. -/
def writtenTexts (fates : List (Nat × Fate)) : List Text := fates.filterMap fun f => f.2.text?

/-- The warnings about the lines that are refused. -/
def warningsOf (source : Text) (fates : List (Nat × Fate)) : List Warning :=
  fates.filterMap fun f => f.2.error?.map fun e => ⟨source, f.1, e⟩

/-- What lines count: those that are not passed over, and of these the ones that are written, left
out or refused. -/
def Counts.ofFates (fates : List (Nat × Fate)) : Counts where
  processed := fates.countP fun f => decide (f.2 ≠ .passedOver)
  written := (writtenTexts fates).length
  filtered := fates.countP fun f => decide (f.2 = .leftOut)
  errors := fates.countP fun f => f.2.error?.isSome

/-- What lines count is the sum of what each of them counts. -/
theorem Counts.ofFates_cons (number : Nat) (f : Fate) (fates : List (Nat × Fate)) :
    Counts.ofFates ((number, f) :: fates) = f.counts + Counts.ofFates fates := by
  change Counts.mk _ _ _ _ = Counts.mk _ _ _ _
  cases f <;>
    simp [Fate.counts, Counts.ofFates, writtenTexts, Fate.text?, Fate.error?, Counts.zero,
      Nat.add_comm]

namespace Pipeline

/-- The fate of a line under a number. -/
def fate (p : Pipeline) (number : Nat) (line : Text) : Fate :=
  if line.all Text.isBlank then .passedOver
  else if p.maxLineLength < (Utf8.encode line).length then
    .refused (.lineTooLong (Utf8.encode line).length p.maxLineLength)
  else match Record.decode line with
    | .error e => .refused (.input number e)
    | .ok r => match p.router.dispatch r with
      | .error e => .refused (.render r.eventType e)
      | .ok none => .leftOut
      | .ok (some text) => .written text

/-- The fates of lines, which are numbered from `number` on. -/
def fates (p : Pipeline) (number : Nat) (lines : List Text) : List (Nat × Fate) :=
  (lines.zipIdx number).map fun (line, number) => (number, p.fate number line)

/-- A line has a fate for a reason.  Whether it is too long is settled before it is decoded. -/
inductive Fares (p : Pipeline) (number : Nat) (line : Text) : Fate → Prop where
  | blank (hblank : ∀ c ∈ line, Text.isBlank c = true) : Fares p number line .passedOver
  | tooLong (hcontent : ∃ c ∈ line, Text.isBlank c = false)
      (hlong : p.maxLineLength < (Utf8.encode line).length) :
      Fares p number line (.refused (.lineTooLong (Utf8.encode line).length p.maxLineLength))
  | undecodable {e : DecodeError} (hcontent : ∃ c ∈ line, Text.isBlank c = false)
      (hfits : (Utf8.encode line).length ≤ p.maxLineLength)
      (hdecode : Record.decode line = .error e) : Fares p number line (.refused (.input number e))
  | unrendered {r : Record} {e : RenderError} (hcontent : ∃ c ∈ line, Text.isBlank c = false)
      (hfits : (Utf8.encode line).length ≤ p.maxLineLength) (hdecode : Record.decode line = .ok r)
      (hdispatch : p.router.dispatch r = .error e) :
      Fares p number line (.refused (.render r.eventType e))
  | leftOut {r : Record} (hcontent : ∃ c ∈ line, Text.isBlank c = false)
      (hfits : (Utf8.encode line).length ≤ p.maxLineLength) (hdecode : Record.decode line = .ok r)
      (hdispatch : p.router.dispatch r = .ok none) : Fares p number line .leftOut
  | written {r : Record} {text : Text} (hcontent : ∃ c ∈ line, Text.isBlank c = false)
      (hfits : (Utf8.encode line).length ≤ p.maxLineLength) (hdecode : Record.decode line = .ok r)
      (hdispatch : p.router.dispatch r = .ok (some text)) : Fares p number line (.written text)

theorem fares_fate (p : Pipeline) (number : Nat) (line : Text) :
    p.Fares number line (p.fate number line) := by
  unfold fate
  by_cases hblank : line.all Text.isBlank = true
  · rw [if_pos hblank]
    exact .blank (List.all_eq_true.mp hblank)
  rw [if_neg hblank]
  have hcontent : ∃ c ∈ line, Text.isBlank c = false := by
    simpa using hblank
  by_cases hlong : p.maxLineLength < (Utf8.encode line).length
  · rw [if_pos hlong]
    exact .tooLong hcontent hlong
  rw [if_neg hlong]
  have hfits := Nat.le_of_not_lt hlong
  cases hdecode : Record.decode line with
  | error e => exact .undecodable hcontent hfits hdecode
  | ok r =>
    dsimp only
    cases hdispatch : p.router.dispatch r with
    | error e => exact .unrendered hcontent hfits hdecode hdispatch
    | ok text? =>
      cases text? with
      | none => exact .leftOut hcontent hfits hdecode hdispatch
      | some text => exact .written hcontent hfits hdecode hdispatch

/-- A line has a fate if and only if there is a reason for it. -/
theorem fate_eq_iff {p : Pipeline} {number : Nat} {line : Text} {f : Fate} :
    p.fate number line = f ↔ p.Fares number line f := by
  constructor
  · rintro rfl
    exact p.fares_fate number line
  · intro h
    have hnotBlank (hcontent : ∃ c ∈ line, Text.isBlank c = false) :
        ¬ line.all Text.isBlank = true := by
      simpa using hcontent
    unfold fate
    cases h with
    | blank hblank => exact if_pos (List.all_eq_true.mpr hblank)
    | tooLong hcontent hlong => rw [if_neg (hnotBlank hcontent), if_pos hlong]
    | undecodable hcontent hfits hdecode =>
      rw [if_neg (hnotBlank hcontent), if_neg (Nat.not_lt.mpr hfits), hdecode]
    | unrendered hcontent hfits hdecode hdispatch =>
      simp only [if_neg (hnotBlank hcontent), if_neg (Nat.not_lt.mpr hfits), hdecode, hdispatch]
    | leftOut hcontent hfits hdecode hdispatch =>
      simp only [if_neg (hnotBlank hcontent), if_neg (Nat.not_lt.mpr hfits), hdecode, hdispatch]
    | written hcontent hfits hdecode hdispatch =>
      simp only [if_neg (hnotBlank hcontent), if_neg (Nat.not_lt.mpr hfits), hdecode, hdispatch]

theorem fates_cons (p : Pipeline) (number : Nat) (line : Text) (lines : List Text) :
    p.fates number (line :: lines) =
      (number, p.fate number line) :: p.fates (number + 1) lines := rfl

/-- A line is passed over if and only if it is blank. -/
theorem fate_eq_passedOver_iff {p : Pipeline} {number : Nat} {line : Text} :
    p.fate number line = .passedOver ↔ line.all Text.isBlank = true := by
  rw [fate_eq_iff, List.all_eq_true]
  constructor
  · rintro ⟨hblank⟩
    exact hblank
  · exact .blank

/-- As many lines are treated as are not blank. -/
theorem processed_ofFates_fates (p : Pipeline) (number : Nat) (lines : List Text) :
    (Counts.ofFates (p.fates number lines)).processed =
      lines.countP fun line => !line.all Text.isBlank := by
  induction lines generalizing number with
  | nil => rfl
  | cons line lines ih =>
    have hone : (p.fate number line).counts.processed =
        if (!line.all Text.isBlank) = true then 1 else 0 := by
      cases hblank : line.all Text.isBlank with
      | true =>
        rw [fate_eq_passedOver_iff.mpr hblank]
        rfl
      | false =>
        have hne : p.fate number line ≠ .passedOver := by simp [fate_eq_passedOver_iff, hblank]
        generalize p.fate number line = f at hne
        cases f with
        | passedOver => exact absurd rfl hne
        | _ => rfl
    rw [fates_cons, Counts.ofFates_cons, List.countP_cons, ← ih (number + 1), ← hone]
    exact Nat.add_comm _ _

end Pipeline

/-- As many lines are reported as count as errors. -/
theorem errors_ofFates (source : Text) (fates : List (Nat × Fate)) :
    (Counts.ofFates fates).errors = (warningsOf source fates).length := by
  induction fates with
  | nil => rfl
  | cons f fates ih =>
    obtain ⟨number, f⟩ := f
    rw [Counts.ofFates_cons]
    cases f with
    | refused e =>
      have hcons : warningsOf source ((number, .refused e) :: fates) =
          ⟨source, number, e⟩ :: warningsOf source fates := rfl
      rw [hcons, List.length_cons, ← ih]
      exact Nat.add_comm _ _
    | _ => exact (Nat.zero_add _).trans ih

/-- What arrives from an input that holds a text arrives with the lines of the text. -/
theorem Input.arrivals_ofText (most : Nat) (t : Text) :
    (ofText t).arrivals most = arrivalsFrom most [] 1 ((Text.lines t).map Utf8.encode) := by
  rw [arrivals, lines_ofText]
  rfl

/-! ### Steps -/

theorem Sink.write_of_room_eq_none {s : Sink} (h : s.room = none) (bytes : List UInt8) :
    s.write bytes = ({ s with accepted := s.accepted ++ bytes }, none) := by
  unfold write
  split
  · rfl
  · next n hroom =>
    rw [h] at hroom
    cases hroom

namespace Progress

/-- How far a call has come when the fate of one more line is settled. -/
def settleOne (source : Text) (number : Nat) (s : Progress) : Fate → Progress
  | .passedOver => s
  | .written text =>
    { s with
      counts := s.counts + Fate.counts (.written text)
      sink := { s.sink with accepted := s.sink.accepted ++ blockOf text } }
  | .leftOut => { s with counts := s.counts + Fate.counts .leftOut }
  | .refused e =>
    { s with
      counts := s.counts + Fate.counts (.refused e)
      warnings := s.warnings ++ [⟨source, number, e⟩] }

/-- How far a call has come when the fates of further lines are settled. -/
def settle (source : Text) (fates : List (Nat × Fate)) (s : Progress) : Progress where
  counts := s.counts + .ofFates fates
  sink := { s.sink with accepted := s.sink.accepted ++ (writtenTexts fates).flatMap blockOf }
  warnings := s.warnings ++ warningsOf source fates

theorem settle_nil (source : Text) (s : Progress) : s.settle source [] = s := by
  simp [settle, writtenTexts, warningsOf]
  rfl

/-- The fates of lines are settled one after another. -/
theorem settle_cons (source : Text) (number : Nat) (f : Fate) (fates : List (Nat × Fate))
    (s : Progress) :
    s.settle source ((number, f) :: fates) =
      (s.settleOne source number f).settle source fates := by
  have hcounts : s.counts + .ofFates ((number, f) :: fates) =
      s.counts + f.counts + .ofFates fates := by
    rw [Counts.ofFates_cons, Counts.add_assoc]
  cases f with
  | passedOver => exact congrArg (Progress.mk · _ _) hcounts
  | leftOut => exact congrArg (Progress.mk · _ _) hcounts
  | written text =>
    have haccepted : s.sink.accepted ++ (writtenTexts ((number, .written text) :: fates)).flatMap
        blockOf = s.sink.accepted ++ blockOf text ++ (writtenTexts fates).flatMap blockOf := by
      apply Array.toList_inj.mp
      simp [writtenTexts, Fate.text?]
    unfold settle
    rw [hcounts, haccepted]
    rfl
  | refused e =>
    have hwarnings : s.warnings ++ warningsOf source ((number, .refused e) :: fates) =
        s.warnings ++ [⟨source, number, e⟩] ++ warningsOf source fates := by
      rw [List.append_assoc]
      rfl
    unfold settle
    rw [hcounts, hwarnings]
    rfl

@[simp] theorem room_settleOne (source : Text) (number : Nat) (s : Progress) (f : Fate) :
    (s.settleOne source number f).sink.room = s.sink.room := by
  cases f <;> rfl

end Progress

namespace Pipeline

/-- A lenient call treats a line by its fate. -/
theorem drain_line (p : Pipeline) (source : Text) (number : Nat) (line : Text) {s : Progress}
    (hroom : s.sink.room = none) :
    p.lenient.drain source
        (Input.arrivalOf p.maxLineLength number (Utf8.encode line).length line) s =
      (.finished, s.settleOne source number (p.fate number line)) := by
  have hkept (hcontent : ∃ c ∈ line, Text.isBlank c = false) :
      ¬ (Text.trim line).isEmpty = true := by
    rw [Text.isEmpty_trim]
    simpa using hcontent
  have hfares := p.fares_fate number line
  generalize p.fate number line = f at hfares ⊢
  unfold Input.arrivalOf
  cases hfares with
  | blank hblank =>
    have htrim : (Text.trim line).isEmpty = true := by
      rw [Text.isEmpty_trim, List.all_eq_true]
      exact hblank
    rw [if_pos htrim]
    rfl
  | tooLong hcontent hlong =>
    rw [if_neg (hkept hcontent), if_pos hlong]
    rfl
  | undecodable hcontent hfits hdecode =>
    rw [if_neg (hkept hcontent), if_neg (Nat.not_lt.mpr hfits), hdecode]
    rfl
  | @unrendered r e hcontent hfits hdecode hdispatch =>
    have hverdict : p.verdict (.record number r) = .fault number (.render r.eventType e) := by
      simp only [verdict, processRecord, hdispatch]
      rfl
    simp only [if_neg (hkept hcontent), if_neg (Nat.not_lt.mpr hfits), hdecode, drain_cons,
      verdict_lenient, hverdict]
    rfl
  | @leftOut r hcontent hfits hdecode hdispatch =>
    have hverdict : p.verdict (.record number r) = .leaveOut := by
      simp only [verdict, processRecord, hdispatch]
      rfl
    simp only [if_neg (hkept hcontent), if_neg (Nat.not_lt.mpr hfits), hdecode, drain_cons,
      verdict_lenient, hverdict]
    rfl
  | @written r text hcontent hfits hdecode hdispatch =>
    have hverdict : p.verdict (.record number r) = .write (blockOf text) := by
      simp only [verdict, processRecord, hdispatch]
      rfl
    have hwrite : s.countOne.write (blockOf text) =
        (none, s.settleOne source number (.written text)) := by
      simp only [Progress.write, Progress.sink_countOne, Sink.write_of_room_eq_none hroom]
      rfl
    simp only [if_neg (hkept hcontent), if_neg (Nat.not_lt.mpr hfits), hdecode, drain_cons,
      verdict_lenient, hverdict, carryOut, hwrite]
    rfl

/-- A lenient call treats lines by their fates, one after another. -/
theorem drain_lines (p : Pipeline) (source : Text) (number : Nat) (lines : List Text)
    {s : Progress} (hroom : s.sink.room = none) :
    p.lenient.drain source
        (Input.arrivalsFrom p.maxLineLength [] number (lines.map Utf8.encode)) s =
      (.finished, s.settle source (p.fates number lines)) := by
  induction lines generalizing number s with
  | nil => exact congrArg (Stop.finished, ·) (s.settle_nil source).symm
  | cons line lines ih =>
    rw [List.map_cons, Input.arrivalsFrom_encode, drain_append,
      p.drain_line source number line hroom, fates_cons, Progress.settle_cons]
    exact ih (number + 1) ((s.room_settleOne source number _).trans hroom)

/-- A lenient call on a text, if the output accepts everything: the lines of the text are written,
left out and refused by their fates, and only these count. -/
theorem processStream_ofText (p : Pipeline) (hopen : p.isClosed = false) {sink : Sink}
    (hroom : sink.room = none) (t : Text) (name : Option Text) :
    p.lenient.processStream (.ofText t) sink name =
      p.lenient.conclude (.finished, (Progress.mk .zero sink []).settle (name.getD unnamedInput)
        (p.fates 1 (Text.lines t))) := by
  have hopen' : p.lenient.isClosed = false := hopen
  have hmost : p.lenient.maxLineLength = p.maxLineLength := rfl
  rw [processStream, process_of_not_isClosed hopen', hmost, Input.arrivals_ofText,
    p.drain_lines _ 1 _ (s := ⟨.zero, sink, []⟩) hroom]

/-- A lenient call on a text writes the block of every line that is written, in order, counts every
line that is not blank, and reports every line that is refused, under its number. -/
theorem processStream_lineByLine (p : Pipeline) (hopen : p.isClosed = false) {sink : Sink}
    (hroom : sink.room = none) (t : Text) (name : Option Text) :
    let fates := p.fates 1 (Text.lines t)
    let warnings := warningsOf (name.getD unnamedInput) fates
    let counts : Counts :=
      { processed := (Text.lines t).countP fun line => !line.all Text.isBlank
        written := (writtenTexts fates).length
        filtered := fates.countP fun f => decide (f.2 = .leftOut)
        errors := warnings.length }
    p.lenient.processStream (.ofText t) sink name =
      { result := .ok counts
        pipeline := { p.lenient with counts := p.counts + counts }
        sink := { sink with
          accepted := sink.accepted ++ (writtenTexts fates).flatMap blockOf }
        warnings := warnings } ∧
    ∀ number line f, p.fate number line = f ↔ p.Fares number line f := by
  intro fates warnings counts
  have hcounts : Counts.ofFates fates = counts := by
    change Counts.mk _ _ _ _ = Counts.mk _ _ _ _
    congr 1
    · exact p.processed_ofFates_fates 1 (Text.lines t)
    · exact errors_ofFates (name.getD unnamedInput) fates
  refine ⟨?_, fun _ _ _ => fate_eq_iff⟩
  rw [p.processStream_ofText hopen hroom, ← hcounts]
  have hzero : Counts.zero + Counts.ofFates fates = Counts.ofFates fates := Counts.zero_add _
  simp only [conclude, Progress.settle, List.nil_append]
  rw [hzero]
  rfl

/-- A line with a record, which a carriage return ends too, behind a blank line; then a line that is
cut short, and one that is too long and holds no record either. -/
theorem processStream_lineByLine_mixed :
    let p := start (.constant ['x']) .skip 48
    let t : Text := "\n\x7b\"type\":\"t\",\"startTime\":\"2024-03-05T10:00:00Z\"\x7d\r\n\x7b\n" ++
      List.replicate 49 '\x7b'
    let step := p.lenient.processStream (.ofText t) .unbounded none
    step.result = .ok ⟨3, 1, 0, 2⟩ ∧ step.sink.accepted.toList = Utf8.encode ['x', '\n'] ∧
      step.warnings = [⟨unnamedInput, 3, .input 3 (.json .malformed)⟩,
        ⟨unnamedInput, 4, .lineTooLong 49 48⟩] := by
  intro p t step
  have hopen : p.isClosed = false := rfl
  have hroom : Sink.unbounded.room = none := rfl
  have hstep := (p.processStream_lineByLine hopen hroom t none).1
  have hfates : p.fates 1 (Text.lines t) =
      [(1, .passedOver), (2, .written ['x']), (3, .refused (.input 3 (.json .malformed))),
        (4, .refused (.lineTooLong 49 48))] := by
    decide +kernel
  have hcontent : (Text.lines t).countP (fun line => !line.all Text.isBlank) = 3 := by
    decide +kernel
  rw [hfates, hcontent] at hstep
  simp only [step, hstep]
  exact ⟨rfl, by decide, rfl⟩

end Pipeline

end TraceText
