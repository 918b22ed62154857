import Mathlib.Algebra.Group.Nat.Defs
import Mathlib.Data.List.Induction
import Mathlib.Data.List.TakeWhile
import TraceText.Decimal.Basic

/-!
# Numerals

A number is written without needless zeros, and all digits without needless zeros are how some
number is written.  A number that fits into a given number of digits can also be written with
exactly so many, filled up with zeros, and is read back from them, whatever follows.

## Main definitions

* `Decimal.IsNumeral` — digits without needless zeros

## Main results

* `Decimal.digits_value` — a numeral is what its value is written as
* `Decimal.spanDigits_eq_iff` — digits end where something else follows
* `Decimal.readDigits_padded` — a number of fixed width is read back
-/

namespace TraceText.Decimal

/-! ### Numerals without needless zeros -/

/-- Digits, of which a zero is the first only if it is alone. -/
structure IsNumeral (ds : Text) : Prop where
  ne_nil : ds ≠ []
  isDigit : ∀ c ∈ ds, c.isDigit = true
  alone : ds.head? = some '0' → ds = ['0']

theorem value_concat (ds : Text) (c : Char) :
    value (ds ++ [c]) = 10 * value ds + (c.toNat - '0'.toNat) := by
  rw [value, Nat.ofDigitChars_append, Nat.ofDigitChars_cons, Nat.ofDigitChars_nil, value]

/-- A digit is what its value is written as. -/
theorem digits_of_isDigit {c : Char} (h : c.isDigit = true) :
    c.toNat - '0'.toNat < 10 ∧ digits (c.toNat - '0'.toNat) = [c] := by
  obtain ⟨hlow, hhigh⟩ := Char.isDigit_iff_toNat.mp h
  have hzero : '0'.toNat = 48 := rfl
  have hnine : '9'.toNat = 57 := rfl
  have hlt : c.toNat - '0'.toNat < 10 := by omega
  refine ⟨hlt, ?_⟩
  rw [digits, Nat.toDigits_of_lt_base hlt]
  have hnat : (c.toNat - '0'.toNat).digitChar.toNat = c.toNat := by
    rw [Nat.toNat_digitChar_of_lt_ten hlt]
    omega
  rw [Char.toNat_inj.mp hnat]

/-- A numeral is what its value is written as. -/
theorem digits_value {ds : Text} (h : IsNumeral ds) : digits (value ds) = ds := by
  -- the last digit is split off
  induction ds using List.reverseRecOn with
  | nil => exact absurd rfl h.ne_nil
  | append_singleton ds c ih =>
    obtain ⟨hlt, hc⟩ := digits_of_isDigit (h.isDigit c (by simp))
    rw [value_concat]
    cases ds with
    | nil => simpa using hc
    | cons first rest =>
      have hfirst : first ≠ '0' := by
        rintro rfl
        simpa using h.alone rfl
      have hds : IsNumeral (first :: rest) :=
        ⟨List.cons_ne_nil _ _, fun d hd => h.isDigit d (List.mem_append_left _ hd),
          fun hhead => absurd (Option.some.inj hhead) hfirst⟩
      have hpos : 0 < value (first :: rest) := by
        -- no other numeral than that of zero begins with a zero
        rw [Nat.pos_iff_ne_zero]
        intro hzero
        have hwritten := ih hds
        rw [hzero] at hwritten
        exact hfirst (List.cons.inj hwritten).1.symm
      rw [digits, ← Nat.toDigits_append_toDigits (by decide) hpos hlt]
      exact congrArg₂ (· ++ ·) (ih hds) hc

/-- Digits end where something else follows. -/
theorem spanDigits_eq_iff {t ds rest : Text} :
    spanDigits t = (ds, rest) ↔
      (∀ c ∈ ds, c.isDigit = true) ∧ (∀ c ∈ rest.head?, c.isDigit = false) ∧ t = ds ++ rest := by
  constructor
  · intro h
    obtain ⟨rfl, rfl⟩ := Prod.mk.inj h
    refine ⟨fun c hc => List.mem_takeWhile_imp hc, ?_, List.takeWhile_append_dropWhile.symm⟩
    intro c hc
    have hstop := List.head?_dropWhile_not Char.isDigit t
    rw [Option.mem_def.mp hc] at hstop
    simpa using hstop
  · intro h
    obtain ⟨hds, hrest, rfl⟩ := h
    rw [spanDigits, List.takeWhile_append_of_pos hds, List.dropWhile_append_of_pos hds]
    cases rest with
    | nil => rw [List.takeWhile_nil, List.dropWhile_nil, List.append_nil]
    | cons c rest =>
      have hc : ¬ c.isDigit = true := by simp [hrest c rfl]
      rw [List.takeWhile_cons_of_neg hc, List.dropWhile_cons_of_neg hc, List.append_nil]

/-! ### Numerals of fixed width -/

theorem length_digits_le {width n : Nat} (hwidth : 0 < width) (h : n < 10 ^ width) :
    (digits n).length ≤ width :=
  (Nat.length_toDigits_le_iff (by decide) hwidth).mpr h

theorem length_padded {width n : Nat} (hwidth : 0 < width) (h : n < 10 ^ width) :
    (padded width n).length = width := by
  have hle := length_digits_le hwidth h
  rw [padded, List.length_append, List.length_replicate]
  omega

/-- Zeros in front do not change a number. -/
theorem value_replicate_append (n : Nat) (ds : Text) :
    value (List.replicate n '0' ++ ds) = value ds := by
  have hzeros : Nat.ofDigitChars 10 (List.replicate n '0') 0 = 0 := by
    induction n with
    | zero => rfl
    | succ n ih =>
      rw [List.replicate_succ, Nat.ofDigitChars_cons]
      exact ih
  rw [value, Nat.ofDigitChars_append, hzeros]
  rfl

@[simp] theorem value_padded (width n : Nat) : value (padded width n) = n := by
  rw [padded, value_replicate_append, value_digits]

/-- A number of fixed width is read back, whatever follows. -/
theorem readDigits_padded {width n : Nat} (hwidth : 0 < width) (h : n < 10 ^ width)
    (rest : Text) : readDigits width width (padded width n ++ rest) = some (n, rest) := by
  have hlength := length_padded hwidth h
  have hdigits : (padded width n).takeWhile Char.isDigit = padded width n :=
    List.takeWhile_eq_self_iff.mpr fun _ => isDigit_of_mem_padded
  rw [readDigits, List.take_left' hlength, hdigits]
  simp only [hlength, Nat.lt_irrefl, if_false, value_padded, List.drop_left' hlength]

/-- Digits end where something else follows. -/
theorem spanDigits_padded (width n : Nat) {c : Char} (hc : c.isDigit = false) (rest : Text) :
    spanDigits (padded width n ++ c :: rest) = (padded width n, c :: rest) := by
  refine spanDigits_eq_iff.mpr ⟨fun _ => isDigit_of_mem_padded, ?_, rfl⟩
  rintro _ ⟨⟩
  exact hc

end TraceText.Decimal
