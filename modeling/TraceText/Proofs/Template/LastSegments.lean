import TraceText.Proofs.Text.Pieces
import TraceText.Template.Parameter

/-!
# The ends of dotted names

A dotted name that is shortened to its last segments ends as before, and what is left of it is all
of it or begins right behind a dot.  The segments of what is left are those that were kept, empty
ones among them.  So if a name is shortened twice, the smaller number decides, whichever comes
first.

The place where the kept segments start is computed in words of 64 bits.  The largest number that
can be asked for has no successor there; but no text has more segments than that, so nothing is lost
if the largest word stays as it is.

## Main definitions

* `saturatingSucc` — the successor of a word that has one
* `startInWords?`, `lastSegmentsInWords?` — the end of a dotted name in words, where an underflow is
  noticed

## Main results

* `isCut_lastSegments` — the segments of what is left of a name
* `lastSegments_lastSegments` — the smaller of two numbers decides
* `lastSegmentsInWords?_eq` — no step overflows or underflows
* `Parameter.lastSegments_shortens` — all this of the parameter, for any text
-/

namespace TraceText

variable {t : Text} {segments : List Text}

/-! ### Kept segments -/

theorem lastSegments_eq (h : Text.IsCut '.' t segments) (n : Nat) :
    lastSegments n t = Text.join "." (segments.drop (segments.length - (n + 1))) := by
  rw [lastSegments, h.splitOn_eq]

/-- At least the last segment is kept. -/
theorem start_lt_length (h : Text.IsCut '.' t segments) (n : Nat) :
    segments.length - (n + 1) < segments.length := by
  have hpos := List.length_pos_of_ne_nil h.ne_nil
  omega

/-- The segments that are kept are the segments of what is left. -/
theorem isCut_lastSegments (h : Text.IsCut '.' t segments) (n : Nat) :
    Text.IsCut '.' (lastSegments n t) (segments.drop (segments.length - (n + 1))) := by
  rw [lastSegments_eq h]
  exact h.drop (start_lt_length h n)

/-- If a name is shortened twice, the smaller number decides. -/
theorem lastSegments_lastSegments (a b : Nat) (t : Text) :
    lastSegments b (lastSegments a t) = lastSegments (min a b) t := by
  have h := Text.isCut_splitOn '.' t
  rw [lastSegments_eq (isCut_lastSegments h a), lastSegments_eq h, List.drop_drop,
    List.length_drop]
  -- either way the same number of segments is dropped in front
  congr 2
  omega

/-! ### Words -/

/-- The successor of a word of 64 bits.  The largest word has none, and stays as it is. -/
def saturatingSucc (n : UInt64) : UInt64 := if n < n + 1 then n + 1 else n

theorem toNat_saturatingSucc (n : UInt64) :
    (saturatingSucc n).toNat = min (n.toNat + 1) Parameter.maxSegments := by
  have hn := n.toNat_lt
  have hmax : Parameter.maxSegments = 2 ^ 64 - 1 := rfl
  have hsum : (n + 1).toNat = (n.toNat + 1) % 2 ^ 64 := UInt64.toNat_add n 1
  unfold saturatingSucc
  split
  · next hlt =>
    rw [UInt64.lt_iff_toNat_lt] at hlt
    omega
  · next hwrap =>
    -- a sum that is not larger has wrapped around
    rw [UInt64.lt_iff_toNat_lt] at hwrap
    omega

/-- Where the last `n + 1` of `count` segments start, in words; nothing if this underflows. -/
def startInWords? (n count : UInt64) : Option UInt64 :=
  let kept := min (saturatingSucc n) count
  if kept ≤ count then some (count - kept) else none

/-- The start does not underflow, and is the one that numbers of any size give. -/
theorem exists_startInWords? (n count : UInt64) :
    ∃ start, startInWords? n count = some start ∧
      start.toNat = count.toNat - (n.toNat + 1) := by
  have hle : min (saturatingSucc n) count ≤ count := by
    rw [UInt64.le_iff_toNat_le, UInt64.toNat_min]
    exact Nat.min_le_right _ _
  refine ⟨count - min (saturatingSucc n) count, if_pos hle, ?_⟩
  -- a count is a word too, so the largest word is no less than all segments
  have hcount : count.toNat ≤ Parameter.maxSegments := Nat.le_pred_of_lt count.toNat_lt
  rw [UInt64.toNat_sub_of_le _ _ hle, UInt64.toNat_min, toNat_saturatingSucc]
  omega

/-- The last `n + 1` segments of a dotted name, where numbers are words; nothing if their start
underflows, or lies behind all segments. -/
def lastSegmentsInWords? (n : UInt64) (t : Text) : Option Text := do
  let segments := Text.splitOn '.' t
  let start ← startInWords? n (UInt64.ofNat segments.length)
  if start.toNat ≤ segments.length then some (Text.join "." (segments.drop start.toNat)) else none

/-- If words can count the segments, their end is the one that numbers of any size give. -/
theorem lastSegmentsInWords?_eq (h : Text.IsCut '.' t segments)
    (hcount : segments.length ≤ Parameter.maxSegments) (n : UInt64) :
    lastSegmentsInWords? n t = some (lastSegments n.toNat t) := by
  have hlength : (UInt64.ofNat segments.length).toNat = segments.length :=
    UInt64.toNat_ofNat_of_lt' (Nat.lt_of_le_of_lt hcount (by decide))
  obtain ⟨start, hstart, hplace⟩ := exists_startInWords? n (UInt64.ofNat segments.length)
  rw [hlength] at hplace
  have hinside : start.toNat ≤ segments.length := hplace ▸ Nat.sub_le _ _
  simp only [lastSegmentsInWords?, h.splitOn_eq, hstart, Option.bind_eq_bind, Option.bind_some]
  rw [if_pos hinside, lastSegments_eq h, hplace]

/-! ### Parameters -/

namespace Parameter

/-- A text keeps as many of its last segments as are asked for, or all if there are fewer; what is
left is all of the text, or an end of it right behind a dot.  To shorten a text twice is to shorten
it once to the smaller number, so neither the order nor a repetition matters.  And as long as words
can count the segments, none overflows or underflows on the way, however many are asked for. -/
theorem lastSegments_shortens (t : Text) :
    ∃ segments, Text.IsCut '.' t segments ∧ segments.length = t.count '.' + 1 ∧
      (∀ n, ∃ dropped kept, segments = dropped ++ kept ∧
        kept.length = min (n + 1) segments.length ∧
        (lastSegments n).apply t = Text.join "." kept) ∧
      (∀ n, (lastSegments n).apply t <:+ t ∧
        ((lastSegments n).apply t = t ∨ '.' :: (lastSegments n).apply t <:+ t)) ∧
      (∀ a b, (lastSegments b).apply ((lastSegments a).apply t) =
        (lastSegments (min a b)).apply t) ∧
      (∀ a b, (lastSegments b).apply ((lastSegments a).apply t) =
        (lastSegments a).apply ((lastSegments b).apply t)) ∧
      (∀ a, (lastSegments a).apply ((lastSegments a).apply t) = (lastSegments a).apply t) ∧
      (segments.length ≤ maxSegments → ∀ n : UInt64,
        lastSegmentsInWords? n t = some ((lastSegments n.toNat).apply t)) := by
  have hcut := Text.isCut_splitOn '.' t
  generalize Text.splitOn '.' t = segments at hcut
  refine ⟨segments, hcut, hcut.length_eq, ?kept, ?suffix, ?least, ?order, ?again, ?words⟩
  case kept =>
    intro n
    refine ⟨_, _, (List.take_append_drop (segments.length - (n + 1)) segments).symm, ?_,
      lastSegments_eq hcut n⟩
    rw [List.length_drop]
    omega
  case suffix =>
    intro n
    have hend := hcut.suffix_drop (start_lt_length hcut n)
    rw [apply, lastSegments_eq hcut]
    refine ⟨?_, hend⟩
    rcases hend with hwhole | hdot
    · exact hwhole ▸ List.suffix_refl _
    · exact (List.suffix_cons _ _).trans hdot
  case least =>
    intro a b
    exact lastSegments_lastSegments a b t
  case order =>
    intro a b
    simp only [apply, lastSegments_lastSegments, Nat.min_comm]
  case again =>
    intro a
    simp only [apply, lastSegments_lastSegments, Nat.min_self]
  case words =>
    intro hcount n
    exact lastSegmentsInWords?_eq hcut hcount n

/-- Empty segments at both ends and in the middle count like others, up to the largest word. -/
theorem lastSegments_shortens_amid_dots :
    let t : Text := ".a..b."
    t.count '.' + 1 ≤ maxSegments ∧
      lastSegmentsInWords? 0 t = some [] ∧
      lastSegmentsInWords? 2 t = some ".b.".toList ∧
      lastSegmentsInWords? (UInt64.ofNat maxSegments) t = some t ∧
      (lastSegments 3).apply ((lastSegments 1).apply t) = "b.".toList := by
  intro t
  have hcount : t.count '.' + 1 ≤ maxSegments := by decide
  obtain ⟨segments, -, hlength, -, -, hleast, -, -, hwords⟩ := lastSegments_shortens t
  have hwords := hwords (hlength ▸ hcount)
  exact ⟨hcount, (hwords 0).trans (by decide), (hwords 2).trans (by decide),
    (hwords _).trans (by decide), (hleast 1 3).trans (by decide)⟩

end Parameter

end TraceText
