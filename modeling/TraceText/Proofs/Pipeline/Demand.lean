import TraceText.Proofs.Pipeline.Position

/-!
# How much of its input a call takes

Lines are read, and records are taken, one at a time, and only while the call goes on.  So a call
that ends early takes no more than what has ended it, and a closed pipeline takes nothing at all.
That this is how much a call takes shows in what it depends on: behind the lines or records that it
has taken there may as well be others.

## Main definitions

* `Pipeline.linesTaken` — how many lines of an input a call reads
* `Pipeline.recordsTaken` — how many records a call takes

## Main results

* `Pipeline.processStream_congr` — a call does not depend on lines that it does not read
* `Pipeline.processRecords_congr` — a call does not depend on records that it does not take
-/

namespace TraceText

namespace Pipeline

/-! ### Records -/

/-- How many of the things that arrive a call takes. -/
def takenOf (p : Pipeline) (source : Text) : List Arrival → Progress → Nat
  | [], _ => 0
  | a :: rest, s =>
    match p.receive source s a with
    | (none, s) => takenOf p source rest s + 1
    | (some _, _) => 1

/-- How many records a call takes. -/
def recordsTaken (p : Pipeline) (records : List Record) (sink : Sink) : Nat :=
  if p.isClosed then 0
  else p.takenOf unnamedRecords (Arrival.ofRecords records) ⟨.zero, sink, []⟩

theorem takenOf_cons (p : Pipeline) (source : Text) (a : Arrival) (rest : List Arrival)
    (s : Progress) :
    p.takenOf source (a :: rest) s =
      match p.carryOut source s (p.verdict a) with
      | (none, s) => p.takenOf source rest s + 1
      | (some _, _) => 1 := by
  rw [← receive_eq_carryOut]
  rfl

/-- A call that does not take everything depends on what it takes only. -/
theorem drain_congr (p : Pipeline) (source : Text) {arrivals other : List Arrival} {s : Progress}
    (hmore : p.takenOf source arrivals s < arrivals.length)
    (hsame : other.take (p.takenOf source arrivals s) =
      arrivals.take (p.takenOf source arrivals s)) :
    p.drain source other s = p.drain source arrivals s := by
  induction arrivals generalizing other s with
  | nil => exact absurd hmore (Nat.not_lt_zero _)
  | cons a rest ih =>
    -- `a` is taken in any case, so `other` begins with it; the step shows whether more is taken
    rw [takenOf_cons] at hmore hsame
    rw [drain_cons]
    rcases hc : p.carryOut source s (p.verdict a) with ⟨_ | stop, t⟩
    · simp only [hc, List.length_cons, List.take_succ_cons] at hmore hsame
      cases other with
      | nil => cases hsame
      | cons b other =>
        obtain ⟨rfl, hrest⟩ := List.cons.inj hsame
        rw [drain_cons, hc]
        exact ih (Nat.lt_of_succ_lt_succ hmore) hrest
    · simp only [hc, List.take_succ_cons, List.take_zero] at hsame
      cases other with
      | nil => cases hsame
      | cons b other =>
        obtain ⟨rfl, -⟩ := List.cons.inj hsame
        rw [drain_cons, hc]

theorem take_ofRecords (n : Nat) (records : List Record) :
    (Arrival.ofRecords records).take n = Arrival.ofRecords (records.take n) := by
  apply List.ext_getElem?
  intro i
  simp only [Arrival.ofRecords, List.getElem?_take, List.getElem?_mapIdx]
  split <;> rfl

/-- A call that leaves a record does not depend on the records behind those that it takes. -/
theorem processRecords_congr (p : Pipeline) {records other : List Record} {sink : Sink}
    (hmore : p.recordsTaken records sink < records.length)
    (hsame : other.take (p.recordsTaken records sink) =
      records.take (p.recordsTaken records sink)) :
    p.processRecords other sink = p.processRecords records sink := by
  unfold processRecords
  cases hc : p.isClosed with
  | true => rw [process_of_isClosed hc, process_of_isClosed hc]
  | false =>
    have htaken : p.recordsTaken records sink =
        p.takenOf unnamedRecords (Arrival.ofRecords records) _ := if_neg (by simp [hc])
    rw [htaken] at hmore hsame
    rw [process_of_not_isClosed hc, process_of_not_isClosed hc]
    congr 1
    apply p.drain_congr unnamedRecords
    · rwa [Arrival.ofRecords, List.length_mapIdx]
    · rw [take_ofRecords, take_ofRecords, hsame]

/-! ### Lines -/

/-- How many of some lines a call reads, the first of which has a given number. -/
def linesTakenFrom (p : Pipeline) (source : Text) : Nat → List (List UInt8) → Progress → Nat
  | _, [], _ => 0
  | number, line :: rest, s =>
    match Utf8.decode? line with
    | none => 1
    | some text =>
      match p.drain source (Input.arrivalOf p.maxLineLength number line.length text) s with
      | (.finished, s) => linesTakenFrom p source (number + 1) rest s + 1
      | (_, _) => 1

/-- How many lines of an input a call reads. -/
def linesTaken (p : Pipeline) (input : Input) (sink : Sink) (name : Option Text) : Nat :=
  if p.isClosed then 0
  else p.linesTakenFrom (name.getD unnamedInput) 1 input.lines ⟨.zero, sink, []⟩

/-- A call that does not read all lines depends on those that it reads only, and not on what follows
the last line either. -/
theorem drain_arrivalsFrom_congr (p : Pipeline) (source : Text) (ending ending' : List Arrival)
    {number : Nat} {lines other : List (List UInt8)} {s : Progress}
    (hmore : p.linesTakenFrom source number lines s < lines.length)
    (hsame : other.take (p.linesTakenFrom source number lines s) =
      lines.take (p.linesTakenFrom source number lines s)) :
    p.drain source (Input.arrivalsFrom p.maxLineLength ending' number other) s =
      p.drain source (Input.arrivalsFrom p.maxLineLength ending number lines) s := by
  induction lines generalizing number other s with
  | nil => exact absurd hmore (Nat.not_lt_zero _)
  | cons line rest ih =>
    -- at least this line is read, so the other lines begin with it too
    obtain ⟨other, rfl⟩ : ∃ tail, other = line :: tail := by
      obtain ⟨n, hn⟩ : ∃ n, p.linesTakenFrom source number (line :: rest) s = n + 1 := by
        rw [linesTakenFrom]
        split
        · exact ⟨_, rfl⟩
        · split <;> exact ⟨_, rfl⟩
      rw [hn, List.take_succ_cons] at hsame
      cases other with
      | nil => cases hsame
      | cons head tail => exact ⟨tail, by rw [(List.cons.inj hsame).1]⟩
    rw [linesTakenFrom] at hmore hsame
    cases hd : Utf8.decode? line with
    | none => simp [Input.arrivalsFrom, hd]
    | some text =>
      rw [Input.arrivalsFrom_cons_of_decode? hd, Input.arrivalsFrom_cons_of_decode? hd,
        drain_append, drain_append]
      simp only [hd] at hmore hsame
      rcases hline : p.drain source (Input.arrivalOf p.maxLineLength number line.length text) s
        with ⟨_ | _ | e, t⟩
      · simp only [hline, List.length_cons, List.take_succ_cons] at hmore hsame
        exact ih (Nat.lt_of_succ_lt_succ hmore) (List.cons.inj hsame).2
      · rfl
      · rfl

/-- A call that leaves a line does not depend on what is behind the lines that it reads. -/
theorem processStream_congr (p : Pipeline) {input other : Input} {sink : Sink} {name : Option Text}
    (hmore : p.linesTaken input sink name < input.lines.length)
    (hsame : other.lines.take (p.linesTaken input sink name) =
      input.lines.take (p.linesTaken input sink name)) :
    p.processStream other sink name = p.processStream input sink name := by
  unfold processStream
  cases hc : p.isClosed with
  | true => rw [process_of_isClosed hc, process_of_isClosed hc]
  | false =>
    have htaken : p.linesTaken input sink name =
        p.linesTakenFrom (name.getD unnamedInput) 1 input.lines _ := if_neg (by simp [hc])
    rw [htaken] at hmore hsame
    rw [process_of_not_isClosed hc, process_of_not_isClosed hc]
    congr 1
    exact p.drain_arrivalsFrom_congr _ input.ending other.ending hmore hsame

end Pipeline

end TraceText
