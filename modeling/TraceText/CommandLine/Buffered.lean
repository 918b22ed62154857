import TraceText.Pipeline.Basic

/-!
# Outputs behind a buffer

A run hands its output to a buffer.  What does not fit into the buffer any more makes its content
leave, and what is not smaller than the buffer never enters it; so the output grows at certain
moments only.  A run can read the file that it writes: it finds there what has left the buffer by
then, and what else leaves it while it reads.  Such a run may go on until the file is as large as a
file can be.

## Main definitions

* `Buffered` — an output behind a buffer; `Buffered.write`, `Buffered.writeTexts`
* `Buffered.maxFileSize` — how large a file can be
* `Pipeline.texts` — the texts that a pipeline hands over in a call
* `Pipeline.readBack` — the lines that a pipeline reads of the file that it writes
-/

namespace TraceText

/-- An output behind a buffer. -/
structure Buffered where
  /-- How many bytes the buffer can hold. -/
  capacity : Nat
  /-- What has left the buffer. -/
  passed : Array UInt8
  /-- What is in the buffer. -/
  pending : Array UInt8
  deriving DecidableEq, Inhabited

namespace Buffered

/-- The most bytes that a file can have, so that the places in it can be told by 64 bits with a
sign. -/
def maxFileSize : Nat := Nat.pow 2 63 - 1

/-- An empty output behind an empty buffer. -/
def empty (capacity : Nat) : Buffered := ⟨capacity, #[], #[]⟩

/-- All that has been handed over. -/
def bytes (b : Buffered) : List UInt8 := b.passed.toList ++ b.pending.toList

/-- The buffer made empty. -/
def flush (b : Buffered) : Buffered := { b with passed := b.passed ++ b.pending, pending := #[] }

/-- The buffer made empty, unless there is room for so many more bytes. -/
def makeRoom (b : Buffered) (size : Nat) : Buffered :=
  if b.pending.size + size ≤ b.capacity then b else b.flush

/-- Bytes handed over at once. -/
def write (b : Buffered) (new : List UInt8) : Buffered :=
  let b := b.makeRoom new.length
  if new.length < b.capacity then { b with pending := b.pending ++ new }
  else { b with passed := b.passed ++ new }

/-- A text handed over, and after it the end of its line. -/
def writeText (b : Buffered) (t : Text) : Buffered := (b.write (Utf8.encode t)).write [lineFeed]

/-- Texts handed over one after another. -/
def writeTexts (b : Buffered) (texts : List Text) : Buffered := texts.foldl writeText b

@[simp] theorem bytes_makeRoom (b : Buffered) (size : Nat) : (b.makeRoom size).bytes = b.bytes := by
  unfold makeRoom
  split
  · rfl
  · simp [flush, bytes]

/-- A buffer with room for as much as it can hold is empty. -/
theorem pending_makeRoom {b : Buffered} {size : Nat} (h : (b.makeRoom size).capacity ≤ size) :
    (b.makeRoom size).pending = #[] := by
  unfold makeRoom at h ⊢
  split at h
  · next hfits =>
    rw [if_pos hfits]
    exact Array.size_eq_zero_iff.mp (by omega)
  · next hfull =>
    rw [if_neg hfull]
    rfl

/-- Nothing is lost or overtaken: what goes past the buffer does so when it is empty. -/
@[simp] theorem bytes_write (b : Buffered) (new : List UInt8) :
    (b.write new).bytes = b.bytes ++ new := by
  rw [← b.bytes_makeRoom new.length, write]
  split
  · simp [bytes]
  · next hlarge => simp [bytes, pending_makeRoom (Nat.not_lt.mp hlarge)]

@[simp] theorem bytes_writeText (b : Buffered) (t : Text) :
    (b.writeText t).bytes = b.bytes ++ Utf8.encode (t ++ ['\n']) := by
  have hend : Utf8.encode ['\n'] = [lineFeed] := by decide
  rw [writeText, bytes_write, bytes_write, Utf8.encode_append, hend, List.append_assoc]

@[simp] theorem bytes_writeTexts (b : Buffered) (texts : List Text) :
    (b.writeTexts texts).bytes = b.bytes ++ texts.flatMap fun t => Utf8.encode (t ++ ['\n']) := by
  unfold writeTexts
  induction texts generalizing b with
  | nil => simp
  | cons t texts ih => simp [ih]

end Buffered

namespace Pipeline

/-- The text that a pipeline hands over for something that arrives, if it does. -/
def text? (p : Pipeline) : Arrival → Option Text
  | .record _ r =>
    match p.processRecord r with
    | .ok text => text
    | .error _ => none
  | _ => none

/-- Whether a call ends at something that arrives, if the output accepts everything. -/
def endsAt (p : Pipeline) : Arrival → Bool
  | .record _ r =>
    match p.processRecord r with
    | .ok _ => false
    | .error _ => p.strategy = .failFast
  | .fault _ _ => p.strategy = .failFast
  | .failure _ => true

/-- The texts that a pipeline hands over in a call, if the output accepts everything. -/
def texts (p : Pipeline) (arrivals : List Arrival) : List Text :=
  (arrivals.takeWhile (!p.endsAt ·)).filterMap p.text?

/-- The first line of some bytes, and how many bytes it takes with its end. -/
def firstLine? : List UInt8 → Option (List UInt8 × Nat)
  | [] => none
  | bytes =>
    let line := bytes.takeWhile (· ≠ lineFeed)
    if line.length < bytes.length then some (chompReturn line, line.length + 1)
    else some (line, line.length)

/-- The lines that a pipeline reads of the file that it writes, from a position on.  What it hands
over for a line may follow in the file, and then is read as well; nothing if this leads to more than
`most` lines. -/
def readBack (p : Pipeline) : (most : Nat) → (position : Nat) → (output : Buffered) →
    Option (List (List UInt8))
  | 0, _, _ => none
  | most + 1, position, output =>
    match firstLine? (output.passed.toList.drop position) with
    | none => some []
    | some (line, size) =>
      let arrivals := Input.arrivalsFrom p.maxLineLength [] 1 [line]
      -- the call ends with this line, so nothing behind it is read
      if arrivals.any p.endsAt then some [line]
      else do
        let rest ← readBack p most (position + size) (output.writeTexts (p.texts arrivals))
        return line :: rest

/-- The bound on the lines matters only where it is exceeded. -/
theorem readBack_mono {p : Pipeline} {most most' : Nat} (hle : most ≤ most') {position : Nat}
    {output : Buffered} {lines : List (List UInt8)}
    (h : p.readBack most position output = some lines) :
    p.readBack most' position output = some lines := by
  induction most generalizing most' position output lines with
  | zero => cases h
  | succ most ih =>
    cases most' with
    | zero => cases hle
    | succ most' =>
      have hle' := Nat.le_of_succ_le_succ hle
      rw [readBack] at h ⊢
      cases hfirst : firstLine? (output.passed.toList.drop position) with
      | none =>
        rw [hfirst] at h
        exact h
      | some first =>
        obtain ⟨line, size⟩ := first
        rw [hfirst] at h
        dsimp only at h ⊢
        split at h
        · next hend =>
          rw [if_pos hend]
          exact h
        · next hgoesOn =>
          rw [if_neg hgoesOn]
          obtain ⟨rest, hrest, hlines⟩ := Option.bind_eq_some_iff.mp h
          exact Option.bind_eq_some_iff.mpr ⟨rest, ih hle' hrest, hlines⟩

end Pipeline

end TraceText
