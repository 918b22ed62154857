import TraceText.Proofs.Pipeline.Verdict

/-!
# What arrives before a position

Records and faults carry the number of their line, or of their record, counted from one.  What
arrives before a position is therefore what arrives from the lines, or the records, before it: the
input can be cut there without changing anything that came earlier.

## Main definitions

* `Arrival.position?` — the position of what arrives
* `takeLines` — the bytes of the first lines
* `Input.firstLines` — an input that just ends behind its first lines

## Main results

* `Input.lines_firstLines` — the first lines of an input
* `Input.arrivals_before` — what arrives before a line arrives from the lines before it
* `Arrival.ofRecords_before` — what arrives before a record arrives from the records before it
-/

namespace TraceText

/-- The number of the line or record that arrives; a failure of the input has none. -/
def Arrival.position? : Arrival → Option Nat
  | record position _ => some position
  | fault position _ => some position
  | failure _ => none

/-- Only what has a position can be a fault, and it is a fault at that position. -/
theorem Pipeline.position?_of_verdict_eq_fault {p : Pipeline} {a : Arrival} {position : Nat}
    {e : ProcessingError} (h : p.verdict a = .fault position e) :
    a.position? = some position := by
  cases a with
  | record k r =>
    simp only [verdict] at h
    split at h
    · cases h
    · cases h
    · cases h
      rfl
  | fault k e' =>
    cases h
    rfl
  | failure e' => cases h

/-! ### Lines -/

/-- The bytes of the first `n` lines, with the bytes that end them. -/
def takeLines : Nat → List UInt8 → List UInt8
  | 0, _ => []
  | _ + 1, [] => []
  | n + 1, b :: bytes => b :: takeLines (if b = lineFeed then n else n + 1) bytes

theorem splitLines_cons (b : UInt8) (bytes : List UInt8) :
    splitLines (b :: bytes) = consByte b (splitLines bytes) := rfl

theorem consByte_lineFeed (lines : List (List UInt8)) (rest : List UInt8) :
    consByte lineFeed (lines, rest) = ([] :: lines, rest) := rfl

theorem consByte_cons {b : UInt8} (h : b ≠ lineFeed) (line : List UInt8)
    (lines : List (List UInt8)) (rest : List UInt8) :
    consByte b (line :: lines, rest) = ((b :: line) :: lines, rest) := by
  simp [consByte, h]

theorem consByte_nil {b : UInt8} (h : b ≠ lineFeed) (rest : List UInt8) :
    consByte b ([], rest) = ([], b :: rest) := by
  simp [consByte, h]

/-- The first lines are the first of the complete lines, and nothing follows them. -/
theorem splitLines_takeLines {n : Nat} {bytes : List UInt8}
    (h : n ≤ (splitLines bytes).1.length) :
    splitLines (takeLines n bytes) = ((splitLines bytes).1.take n, []) := by
  induction bytes generalizing n with
  | nil =>
    obtain rfl : n = 0 := Nat.le_zero.mp h
    rfl
  | cons b bytes ih =>
    cases n with
    | zero => rfl
    | succ n =>
      rw [splitLines_cons] at h ⊢
      rw [takeLines, splitLines_cons]
      generalize hs : splitLines bytes = s at h ih
      obtain ⟨lines, rest⟩ := s
      by_cases hb : b = lineFeed
      · -- the byte ends a line, so one line less is wanted of the rest
        subst hb
        rw [consByte_lineFeed] at h ⊢
        rw [if_pos rfl, ih (Nat.succ_le_succ_iff.mp h), consByte_lineFeed, List.take_succ_cons]
      · cases lines with
        | nil =>
          -- without a complete line behind it the byte belongs to none
          rw [consByte_nil hb] at h
          exact absurd h (Nat.not_succ_le_zero n)
        | cons line lines =>
          rw [consByte_cons hb] at h ⊢
          rw [if_neg hb, ih h, List.take_succ_cons, List.take_succ_cons, consByte_cons hb]

namespace Input

/-- An input that just ends behind the first `n` lines. -/
def firstLines (input : Input) (n : Nat) : Input := ⟨takeLines n input.bytes, none⟩

theorem lines_firstLines {input : Input} {n : Nat} (h : n < input.lines.length) :
    (input.firstLines n).lines = input.lines.take n := by
  have hn : n ≤ (splitLines input.bytes).1.length := by
    simp only [lines, List.length_append, List.length_map] at h
    split at h
    · simp only [List.length_nil] at h
      omega
    · simp only [List.length_singleton] at h
      omega
  simp only [lines, firstLines, splitLines_takeLines hn]
  rw [List.take_append_of_le_length (by simpa using hn), List.map_take]
  simp

/-! ### Arrivals -/

/-- At most one thing arrives with a line, and it has the number of the line. -/
theorem arrivalOf_eq_nil_or (most number size : Nat) (line : Text) :
    arrivalOf most number size line = [] ∨
      ∃ a, arrivalOf most number size line = [a] ∧ a.position? = some number := by
  unfold arrivalOf
  split
  · exact .inl rfl
  · split
    · exact .inr ⟨_, rfl, rfl⟩
    · split <;> exact .inr ⟨_, rfl, rfl⟩

theorem position?_of_mem_ending {input : Input} {a : Arrival} (h : a ∈ input.ending) :
    a.position? = none := by
  unfold ending at h
  split at h
  · cases h
  · split at h
    · cases h
    · obtain rfl := List.mem_singleton.mp h
      rfl

theorem arrivalsFrom_cons_of_decode? {most number : Nat} {ending : List Arrival}
    {line : List UInt8} {text : Text} (h : Utf8.decode? line = some text)
    (rest : List (List UInt8)) :
    arrivalsFrom most ending number (line :: rest) =
      arrivalOf most number line.length text ++ arrivalsFrom most ending (number + 1) rest := by
  simp [arrivalsFrom, h]

/-- What arrives before something with a position arrives from the lines before it. -/
theorem arrivalsFrom_before {most number position : Nat} {ending : List Arrival}
    (hending : ∀ a ∈ ending, a.position? = none) {lines : List (List UInt8)}
    {before after : List Arrival} {a : Arrival}
    (h : arrivalsFrom most ending number lines = before ++ a :: after)
    (ha : a.position? = some position) :
    ∃ i < lines.length, position = number + i ∧
      before = arrivalsFrom most [] number (lines.take i) := by
  induction lines generalizing number before with
  | nil =>
    have hmem : a ∈ ending := by
      rw [arrivalsFrom] at h
      rw [h]
      exact List.mem_append_right before List.mem_cons_self
    rw [hending a hmem] at ha
    cases ha
  | cons line lines ih =>
    cases hd : Utf8.decode? line with
    | none =>
      -- nothing but this failure arrives, and it has no position
      have hmem : a ∈ [Arrival.failure .notUtf8] := by
        have heq : arrivalsFrom most ending number (line :: lines) = [.failure .notUtf8] := by
          simp [arrivalsFrom, hd]
        rw [← heq, h]
        exact List.mem_append_right before List.mem_cons_self
      obtain rfl := List.mem_singleton.mp hmem
      cases ha
    | some text =>
      rw [arrivalsFrom_cons_of_decode? hd] at h
      -- where `a` arrives from a later line, this line comes before it as a whole
      have later {before' : List Arrival}
          (h' : arrivalsFrom most ending (number + 1) lines = before' ++ a :: after) :
          ∃ i < (line :: lines).length, position = number + i ∧
            arrivalOf most number line.length text ++ before' =
              arrivalsFrom most [] number ((line :: lines).take i) := by
        obtain ⟨i, hi, hposition, hbefore⟩ := ih h'
        refine ⟨i + 1, Nat.succ_lt_succ hi, by omega, ?_⟩
        rw [List.take_succ_cons, arrivalsFrom_cons_of_decode? hd, hbefore]
      rcases arrivalOf_eq_nil_or most number line.length text with hnil | ⟨x, hx, hposition⟩
      · rw [hnil] at h later
        exact later h
      · rw [hx] at h later
        cases before with
        | nil =>
          -- `a` arrives from this line
          obtain rfl : x = a := (List.cons.inj h).1
          refine ⟨0, Nat.succ_pos _, ?_, rfl⟩
          exact Option.some.inj (ha.symm.trans hposition)
        | cons y before =>
          obtain ⟨rfl, h'⟩ := List.cons.inj h
          exact later h'

/-- What arrives before a line arrives from the lines before it. -/
theorem arrivals_before {most position : Nat} {input : Input} {before after : List Arrival}
    {a : Arrival} (h : input.arrivals most = before ++ a :: after)
    (ha : a.position? = some position) :
    before = (input.firstLines (position - 1)).arrivals most := by
  obtain ⟨i, hi, rfl, hbefore⟩ :=
    arrivalsFrom_before (fun _ => position?_of_mem_ending) h ha
  rw [Nat.add_sub_cancel_left, hbefore, arrivals, lines_firstLines hi]
  rfl

end Input

namespace Arrival

/-- Records arrive in order; those behind the first `n` are numbered from `n + 1` on. -/
theorem ofRecords_eq_append {n : Nat} {records : List Record} (h : n ≤ records.length) :
    ofRecords records = ofRecords (records.take n) ++
      (records.drop n).mapIdx fun i r => .record (i + n + 1) r := by
  have hlength : (records.take n).length = n := by rw [List.length_take, Nat.min_eq_left h]
  calc ofRecords records
      = ofRecords (records.take n ++ records.drop n) := by rw [List.take_append_drop]
    _ = _ := by rw [ofRecords, List.mapIdx_append, hlength, ← ofRecords]

/-- What arrives before a record arrives from the records before it. -/
theorem ofRecords_before {position : Nat} {records : List Record} {before after : List Arrival}
    {a : Arrival} (h : ofRecords records = before ++ a :: after)
    (ha : a.position? = some position) :
    before = ofRecords (records.take (position - 1)) := by
  have hlength : before.length < records.length := by
    have := congrArg List.length h
    simp only [ofRecords, List.length_mapIdx, List.length_append, List.length_cons] at this
    omega
  have htake : before.length = (ofRecords (records.take before.length)).length := by
    rw [ofRecords, List.length_mapIdx, List.length_take, Nat.min_eq_left (Nat.le_of_lt hlength)]
  obtain ⟨hbefore, hafter⟩ :=
    List.append_inj (h.symm.trans (ofRecords_eq_append (Nat.le_of_lt hlength))) htake
  cases hd : records.drop before.length with
  | nil =>
    rw [hd] at hafter
    cases hafter
  | cons r rest =>
    rw [hd, List.mapIdx_cons] at hafter
    obtain ⟨rfl, -⟩ := List.cons.inj hafter
    obtain rfl : 0 + before.length + 1 = position := Option.some.inj ha
    rwa [Nat.zero_add, Nat.add_sub_cancel]

end Arrival

end TraceText
