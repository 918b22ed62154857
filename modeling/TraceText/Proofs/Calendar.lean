import Mathlib.Algebra.Ring.Nat
import TraceText.Calendar

/-!
# Dates and their numbers

Every day number is the number of a date that exists, namely of the one that `Date.ofNumber` finds.
The year is found because the days before a year grow by the length of each year, and month and day
because the lengths of the months of a year add up to the length of the year.

## Main results

* `daysBeforeYear_yearOfDay` — a day lies in the year that is found for it
* `Date.number_ofNumber` — the date of a number has that number
* `Date.isValid_ofNumber` — the date of a number exists
-/

namespace TraceText

/-! ### Years -/

/-- The number of days of a year. -/
def yearLength (year : Int) : Nat := if isLeapYear year then 366 else 365

theorem daysBeforeYear_add_one (year : Int) :
    daysBeforeYear (year + 1) = daysBeforeYear year + yearLength year := by
  have hleap : isLeapYear year = true ↔ year % 4 = 0 ∧ (year % 100 ≠ 0 ∨ year % 400 = 0) := by
    simp [isLeapYear]
  unfold daysBeforeYear yearLength
  by_cases h : isLeapYear year = true
  · rw [if_pos h]
    rw [hleap] at h
    omega
  · rw [if_neg h]
    rw [hleap] at h
    omega

/-- The mean length of a year bounds the year of a day from below, and at most two years follow. -/
theorem daysBeforeYear_mean (n : Int) :
    daysBeforeYear (400 * n / 146097) ≤ n ∧ n < daysBeforeYear (400 * n / 146097 + 3) := by
  unfold daysBeforeYear
  omega

/-- A day lies in the year that is found for it. -/
theorem daysBeforeYear_yearOfDay (n : Int) :
    daysBeforeYear (yearOfDay n) ≤ n ∧ n < daysBeforeYear (yearOfDay n + 1) := by
  obtain ⟨hlow, hhigh⟩ := daysBeforeYear_mean n
  unfold yearOfDay
  dsimp only
  generalize 400 * n / 146097 = low at hlow hhigh ⊢
  by_cases h₁ : n < daysBeforeYear (low + 1)
  · rw [if_pos h₁]
    exact ⟨hlow, h₁⟩
  · rw [if_neg h₁]
    by_cases h₂ : n < daysBeforeYear (low + 2)
    · rw [if_pos h₂]
      exact ⟨Int.not_lt.mp h₁, by rwa [Int.add_assoc]⟩
    · rw [if_neg h₂]
      exact ⟨Int.not_lt.mp h₂, by rwa [Int.add_assoc]⟩

/-! ### Months -/

theorem sum_monthLengths (year : Int) :
    (monthLengths (isLeapYear year)).sum = yearLength year := by
  unfold yearLength
  cases isLeapYear year <;> rfl

/-- A day of a year lies in the month that is found for it, behind the months before. -/
theorem splitMonths_spec {lengths : List Nat} {r : Nat} (h : r < lengths.sum) :
    ∃ length, lengths[(splitMonths lengths r).1]? = some length ∧
      (splitMonths lengths r).2 < length ∧
      (lengths.take (splitMonths lengths r).1).sum + (splitMonths lengths r).2 = r := by
  induction lengths generalizing r with
  | nil => exact absurd h (Nat.not_lt_zero r)
  | cons first rest ih =>
    rw [splitMonths]
    by_cases hfirst : r < first
    · rw [if_pos hfirst]
      exact ⟨first, rfl, hfirst, by simp⟩
    · rw [if_neg hfirst]
      rw [List.sum_cons] at h
      have hrest : r - first < rest.sum := by omega
      obtain ⟨length, hlength, hday, hsum⟩ := ih hrest
      generalize splitMonths rest (r - first) = found at hlength hday hsum ⊢
      refine ⟨length, hlength, hday, ?_⟩
      dsimp only
      rw [List.take_succ_cons, List.sum_cons]
      omega

namespace Date

/-- The place of a day in its year. -/
theorem lt_yearLength (n : Int) :
    (n - daysBeforeYear (yearOfDay n)).toNat < yearLength (yearOfDay n) := by
  obtain ⟨hfirst, hlast⟩ := daysBeforeYear_yearOfDay n
  rw [daysBeforeYear_add_one] at hlast
  omega

@[simp] theorem year_ofNumber (n : Int) : (ofNumber n).year = yearOfDay n := rfl

/-- The date of a number exists. -/
theorem isValid_ofNumber (n : Int) : (ofNumber n).isValid = true := by
  have hplace := lt_yearLength n
  rw [← sum_monthLengths] at hplace
  obtain ⟨length, hlength, hday, -⟩ := splitMonths_spec hplace
  have hmonth : (ofNumber n).monthLength = length := by
    simp only [monthLength, ofNumber, List.getD_eq_getElem?_getD, List.getElem?_cons_succ, hlength,
      Option.getD_some]
  have hpos : 1 ≤ (ofNumber n).day := Nat.succ_pos _
  have hle : (ofNumber n).day ≤ length := hday
  simp [isValid, hmonth, hpos, hle]

/-- The date of a number has that number. -/
theorem number_ofNumber (n : Int) : (ofNumber n).number = n := by
  have hplace := lt_yearLength n
  rw [← sum_monthLengths] at hplace
  obtain ⟨-, -, -, hsum⟩ := splitMonths_spec hplace
  have hordinal : (ofNumber n).ordinal = (n - daysBeforeYear (yearOfDay n)).toNat + 1 := by
    rw [← hsum]
    rfl
  obtain ⟨hfirst, -⟩ := daysBeforeYear_yearOfDay n
  rw [number, hordinal, year_ofNumber]
  omega

end Date

end TraceText
