import TraceText.Text.Basic

/-!
# White space

The Unicode property `White_Space`, which decides what trimming removes and which lines are blank.

## Main definitions

* `Text.isBlank` — the characters of the property
* `Text.trimStart`, `Text.trim` — a text without the blanks at its start, or at both its ends
-/

namespace TraceText.Text

/-- The characters with the Unicode property `White_Space`. -/
def isBlank (c : Char) : Bool :=
  let n := c.toNat
  (9 ≤ n && n ≤ 13) || n == 0x20 || n == 0x85 || n == 0xA0 || n == 0x1680 ||
    (0x2000 ≤ n && n ≤ 0x200A) || n == 0x2028 || n == 0x2029 || n == 0x202F || n == 0x205F ||
    n == 0x3000

/-- A text without the blanks at its start. -/
def trimStart (t : Text) : Text := t.dropWhile isBlank

/-- A text without the blanks at its end. -/
def trimEnd (t : Text) : Text := (t.reverse.dropWhile isBlank).reverse

/-- A text without the blanks at its two ends. -/
def trim (t : Text) : Text := trimEnd (trimStart t)

@[simp] theorem trimStart_nil : trimStart [] = [] := rfl

@[simp] theorem trim_nil : trim [] = [] := rfl

theorem trimStart_eq_nil_iff {t : Text} : trimStart t = [] ↔ ∀ c ∈ t, isBlank c = true := by
  induction t with
  | nil => simp
  | cons c rest ih =>
    by_cases h : isBlank c = true
    · have : trimStart (c :: rest) = trimStart rest := List.dropWhile_cons_of_pos h
      rw [this, ih]
      simp [h]
    · simp [trimStart, h]

end TraceText.Text
