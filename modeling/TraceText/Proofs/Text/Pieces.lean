import Mathlib.Data.List.DropRight
import TraceText.Text.Blank

/-!
# Pieces of a text

Cutting a text at a separator and putting pieces together around it undo each other, as long as no
piece holds the separator.  The first piece is all that precedes the first separator.  Blanks at the
ends of a piece are removed once and for all.  The last pieces together are the whole text, or an
end of it behind a separator.

## Main definitions

* `Text.IsCut` — what the pieces of a text are

## Main results

* `Text.splitOn_join` — pieces put together are found again
* `Text.headD_splitOn` — the first piece of a text
* `Text.trim_trim` — a trimmed text has no blanks at its ends
* `Text.isCut_splitOn`, `Text.IsCut.splitOn_eq` — a text has one cut, which is found
* `Text.IsCut.length_eq` — there is one piece more than separators
* `Text.IsCut.suffix_drop` — the last pieces are an end of the text behind a separator
-/

namespace TraceText.Text

theorem splitOn_eq (sep : Char) (t : Text) : splitOn sep t = List.splitOn sep t := by
  induction t with
  | nil => rw [splitOn_nil, List.splitOn_nil]
  | cons c t ih =>
    rw [List.splitOn_cons_eq_if_modifyHead, ← ih, splitOn]
    simp only [beq_iff_eq]

theorem join_eq_intercalate (sep : Text) (pieces : List Text) :
    join sep pieces = List.intercalate sep pieces := by
  induction pieces with
  | nil => rfl
  | cons piece rest ih =>
    cases rest with
    | nil => rw [join_singleton, List.intercalate_singleton]
    | cons next rest => rw [join_cons_cons, List.intercalate_cons_cons, ih]

/-- A text without the separator is its only piece. -/
theorem splitOn_of_not_mem {sep : Char} {t : Text} (h : sep ∉ t) : splitOn sep t = [t] := by
  rw [splitOn_eq, List.splitOn_eq_singleton h]

/-- Pieces put together around a separator that none of them holds are found again. -/
theorem splitOn_join {sep : Char} {pieces : List Text} (h : ∀ piece ∈ pieces, sep ∉ piece)
    (hne : pieces ≠ []) : splitOn sep (join [sep] pieces) = pieces := by
  rw [splitOn_eq, join_eq_intercalate, List.splitOn_intercalate sep h hne]

/-- The first piece of a text precedes the first separator. -/
theorem headD_splitOn (sep : Char) (t : Text) :
    (splitOn sep t).headD [] = t.takeWhile (· ≠ sep) := by
  induction t with
  | nil => rfl
  | cons c t ih =>
    by_cases h : c = sep
    · rw [h, splitOn_cons_self, List.takeWhile_cons_of_neg (by simp)]
      rfl
    · rw [splitOn_cons_of_ne h, List.takeWhile_cons_of_pos (by simpa using h), ← ih]
      obtain ⟨piece, rest, hpieces⟩ := List.exists_cons_of_ne_nil (splitOn_ne_nil sep t)
      rw [hpieces]
      rfl

theorem stripEnd_eq_some_iff {stop : Char} {t rest : Text} :
    stripEnd stop t = some rest ↔ t = rest ++ [stop] := by
  unfold stripEnd
  constructor
  · intro h
    split at h
    · next hlast =>
      obtain ⟨start, rfl⟩ := List.getLast?_eq_some_iff.mp hlast
      rw [List.dropLast_concat] at h
      rw [Option.some.inj h]
    · cases h
  · rintro rfl
    rw [if_pos List.getLast?_concat, List.dropLast_concat]

/-- A trimmed text begins with no blank, and so has none to be removed at its start. -/
theorem trimStart_trim (t : Text) : trimStart (trim t) = trim t := by
  cases htrim : trim t with
  | nil => rfl
  | cons c rest =>
    have hprefix : c :: rest <+: t.dropWhile isBlank := by
      rw [← htrim]
      exact List.rdropWhile_prefix isBlank (trimStart t)
    obtain ⟨stop, hstop⟩ := hprefix
    -- what is left of a text after its first blanks does not begin with one
    have hhead := List.head?_dropWhile_not isBlank t
    have hc : isBlank c = false := by
      rw [← hstop] at hhead
      simpa using hhead
    exact List.dropWhile_cons_of_neg (by simp [hc])

/-- Trimming a text twice is trimming it once. -/
theorem trim_trim (t : Text) : trim (trim t) = trim t := by
  have hend : trimEnd (trim t) = trim t := List.rdropWhile_idempotent isBlank (trimStart t)
  rw [trim, trimStart_trim, hend]

/-! ### Cuts -/

/-- The pieces of a text between the occurrences of a separator, empty ones included. -/
structure IsCut (sep : Char) (t : Text) (pieces : List Text) : Prop where
  ne_nil : pieces ≠ []
  not_mem : ∀ piece ∈ pieces, sep ∉ piece
  join_eq : join [sep] pieces = t

theorem not_mem_of_mem_splitOn {sep : Char} {t piece : Text} (h : piece ∈ splitOn sep t) :
    sep ∉ piece := by
  induction t generalizing piece with
  | nil =>
    rw [splitOn_nil, List.mem_singleton] at h
    exact h ▸ List.not_mem_nil
  | cons c t ih =>
    by_cases hc : c = sep
    · rw [hc, splitOn_cons_self, List.mem_cons] at h
      rcases h with rfl | h
      · exact List.not_mem_nil
      · exact ih h
    · obtain ⟨first, rest, hpieces⟩ := List.exists_cons_of_ne_nil (splitOn_ne_nil sep t)
      rw [splitOn_cons_of_ne hc, hpieces, List.modifyHead_cons, List.mem_cons] at h
      rcases h with rfl | h
      · -- the first piece has grown by a character that is no separator
        rw [List.mem_cons, not_or]
        exact ⟨Ne.symm hc, ih (hpieces ▸ List.mem_cons_self)⟩
      · exact ih (hpieces ▸ List.mem_cons_of_mem first h)

theorem isCut_splitOn (sep : Char) (t : Text) : IsCut sep t (splitOn sep t) where
  ne_nil := splitOn_ne_nil sep t
  not_mem _ := not_mem_of_mem_splitOn
  join_eq := by rw [splitOn_eq, join_eq_intercalate, List.intercalate_splitOn]

theorem length_splitOn (sep : Char) (t : Text) : (splitOn sep t).length = t.count sep + 1 := by
  induction t with
  | nil => rfl
  | cons c t ih =>
    by_cases hc : c = sep
    · rw [hc, splitOn_cons_self, List.length_cons, ih, List.count_cons_self]
    · rw [splitOn_cons_of_ne hc, List.length_modifyHead, ih, List.count_cons_of_ne hc]

/-- Two lists of pieces are put together with one more separator between them. -/
theorem join_append (sep : Text) {front back : List Text} (hfront : front ≠ [])
    (hback : back ≠ []) :
    join sep (front ++ back) = join sep front ++ sep ++ join sep back := by
  induction front with
  | nil => exact absurd rfl hfront
  | cons piece front ih =>
    cases front with
    | nil =>
      obtain ⟨next, rest, rfl⟩ := List.exists_cons_of_ne_nil hback
      rw [List.singleton_append, join_cons_cons, join_singleton]
    | cons next front =>
      rw [List.cons_append, List.cons_append, join_cons_cons, ← List.cons_append,
        ih (List.cons_ne_nil next front), join_cons_cons]
      simp only [List.append_assoc]

namespace IsCut

variable {sep : Char} {t : Text} {pieces : List Text}

theorem splitOn_eq (h : IsCut sep t pieces) : splitOn sep t = pieces := by
  rw [← h.join_eq, splitOn_join h.not_mem h.ne_nil]

/-- There is one piece more than separators. -/
theorem length_eq (h : IsCut sep t pieces) : pieces.length = t.count sep + 1 := by
  rw [← h.splitOn_eq, length_splitOn]

/-- The last pieces are the cut of the text that they form. -/
theorem drop (h : IsCut sep t pieces) {start : Nat} (hstart : start < pieces.length) :
    IsCut sep (join [sep] (pieces.drop start)) (pieces.drop start) where
  ne_nil := by rwa [ne_eq, List.drop_eq_nil_iff, Nat.not_le]
  not_mem piece hpiece := h.not_mem piece (List.mem_of_mem_drop hpiece)
  join_eq := rfl

/-- The last pieces form an end of the text.  Unless they are all pieces, a separator stands right
in front of it. -/
theorem suffix_drop (h : IsCut sep t pieces) {start : Nat} (hstart : start < pieces.length) :
    join [sep] (pieces.drop start) = t ∨ sep :: join [sep] (pieces.drop start) <:+ t := by
  rcases Nat.eq_zero_or_pos start with rfl | hpos
  · exact .inl h.join_eq
  · right
    have hfront : pieces.take start ≠ [] := by
      rw [ne_eq, List.take_eq_nil_iff]
      rintro (hzero | hnil)
      · exact absurd hzero hpos.ne'
      · exact h.ne_nil hnil
    refine ⟨join [sep] (pieces.take start), ?_⟩
    calc join [sep] (pieces.take start) ++ sep :: join [sep] (pieces.drop start)
        = join [sep] (pieces.take start ++ pieces.drop start) := by
          rw [join_append [sep] hfront (h.drop hstart).ne_nil, List.append_assoc,
            List.singleton_append]
      _ = t := by rw [List.take_append_drop, h.join_eq]

end IsCut

end TraceText.Text
