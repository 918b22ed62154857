import TraceText.Instant.Freeform
import TraceText.Proofs.Calendar
import TraceText.Proofs.Decimal

/-!
# Instants are read back from their text

What calendar and clock show determines the instant, in every zone.  The text of an instant names
date and time with numbers of fixed width, the year with four digits if it is one of 0 to 9999, the
fraction with just enough digits, and a leap second as the second 60; so the reader finds all of
them again.

## Main definitions

* `Instant.year` — the year in which an instant lies
* `Instant.HasFourDigitYear` — the year is written with four digits

## Main results

* `LocalTime.toInstant?_toLocal` — what calendar and clock show determines the instant
* `Rfc3339.readFraction_fractionText` — a fraction of a second is read back
* `Instant.parse_rfc3339` — an instant is read back from its text
-/

namespace TraceText

/-! ### Calendar and clock -/

theorem Date.month_day_le {d : Date} (h : d.isValid = true) : d.month ≤ 12 ∧ d.day ≤ 31 := by
  have hlengths : ∀ leap, ∀ length ∈ monthLengths leap, length ≤ 31 := by decide
  simp only [isValid, Bool.and_eq_true, decide_eq_true_eq, monthLength,
    List.getD_eq_getElem?_getD] at h
  obtain ⟨hpos, hle⟩ := h
  cases hlength : (0 :: monthLengths (isLeapYear d.year))[d.month]? with
  | none =>
    rw [hlength, Option.getD_none] at hle
    exact absurd (Nat.le_trans hpos hle) (Nat.not_succ_le_zero 0)
  | some length =>
    rw [hlength, Option.getD_some] at hle
    obtain ⟨hmonth, -⟩ := List.getElem?_eq_some_iff.mp hlength
    have hmonth' : d.month < 13 := hmonth
    have hlength' : length ≤ 31 := by
      rcases List.mem_cons.mp (List.mem_of_getElem? hlength) with rfl | hmem
      · exact Nat.zero_le 31
      · exact hlengths _ length hmem
    exact ⟨Nat.le_of_lt_succ hmonth', Nat.le_trans hle hlength'⟩

namespace Instant

/-- The year in which an instant lies, in universal time. -/
def year (t : Instant) : Int := (t.toLocal 0).date.year

/-- The year is written with four digits and no sign. -/
def HasFourDigitYear (t : Instant) : Prop := 0 ≤ t.year ∧ t.year ≤ 9999

/-- The clock shows hours, minutes and seconds of a day. -/
theorem clock_toLocal (t : Instant) (offset : Int) :
    (t.toLocal offset).hour < 24 ∧ (t.toLocal offset).minute < 60 ∧
      (t.toLocal offset).second < 60 := by
  have hday : ((t.seconds + offset) % secondsPerDay).toNat < 86400 := by
    unfold secondsPerDay
    omega
  simp only [toLocal]
  omega

theorem isValid_toLocal {t : Instant} {offset : Int}
    (h : earliestYear ≤ (t.toLocal offset).date.year ∧
      (t.toLocal offset).date.year ≤ latestYear) : (t.toLocal offset).isValid = true := by
  have hdate : (t.toLocal offset).date.isValid = true := Date.isValid_ofNumber _
  obtain ⟨hhour, hminute, hsecond⟩ := t.clock_toLocal offset
  simp [LocalTime.isValid, h, hdate, hhour, hminute, hsecond]

end Instant

/-- What calendar and clock show determines the instant, if the calendar knows the year. -/
theorem LocalTime.toInstant?_toLocal {t : Instant} {offset : Int}
    (h : earliestYear ≤ (t.toLocal offset).date.year ∧
      (t.toLocal offset).date.year ≤ latestYear) :
    (t.toLocal offset).toInstant? offset = some t := by
  have hnumber : (t.toLocal offset).date.number - Date.epoch =
      (t.seconds + offset) / secondsPerDay := by
    simp only [Instant.toLocal, Date.number_ofNumber]
    omega
  rw [toInstant?, if_pos (Instant.isValid_toLocal h), Instant.ofParts?_eq_some_iff, hnumber]
  refine ⟨?_, rfl⟩
  -- the seconds of the day are the remainder
  simp only [Instant.toLocal, secondsPerDay]
  omega

/-! ### Parts of the text -/

namespace Rfc3339

/-- The digits of a fraction end where something else follows. -/
theorem readFraction_padded {width n : Nat} (hwidth : 0 < width) (hnine : width ≤ 9)
    (h : n < 10 ^ width) {c : Char} (hc : c.isDigit = false) (rest : Text) :
    readFraction ('.' :: Decimal.padded width n ++ c :: rest) =
      some (n * 10 ^ (9 - width), c :: rest) := by
  have hlength := Decimal.length_padded hwidth h
  have hne : Decimal.padded width n ≠ [] :=
    List.ne_nil_of_length_pos (Nat.lt_of_lt_of_eq hwidth hlength.symm)
  have htake : (Decimal.padded width n).take 9 = Decimal.padded width n :=
    List.take_of_length_le (Nat.le_trans (Nat.le_of_eq hlength) hnine)
  rw [List.cons_append, readFraction, Decimal.spanDigits_padded width n hc]
  dsimp only
  rw [if_neg hne, htake, nanosOfDigits, Decimal.value_padded, hlength]
  rfl

/-- A fraction of a second is read back from the digits that it needs. -/
theorem readFraction_fractionText {nanos : Nat} (h : nanos < nanosPerSecond) (rest : Text) :
    readFraction (fractionText nanos ++ 'Z' :: rest) = some (nanos, 'Z' :: rest) := by
  unfold nanosPerSecond at h
  unfold fractionText
  by_cases h₀ : nanos = 0
  · rw [if_pos h₀, h₀]
    rfl
  rw [if_neg h₀]
  by_cases h₃ : nanos % 1000000 = 0
  · rw [if_pos h₃, readFraction_padded (by decide) (by decide) (by omega) (by decide)]
    exact congrArg (fun n => some (n, _)) (Nat.div_mul_cancel (Nat.dvd_of_mod_eq_zero h₃))
  rw [if_neg h₃]
  by_cases h₆ : nanos % 1000 = 0
  · rw [if_pos h₆, readFraction_padded (by decide) (by decide) (by omega) (by decide)]
    exact congrArg (fun n => some (n, _)) (Nat.div_mul_cancel (Nat.dvd_of_mod_eq_zero h₆))
  · rw [if_neg h₆, readFraction_padded (by decide) (by decide) (by omega) (by decide)]
    exact congrArg (fun n => some (n, _)) (Nat.mul_one nanos)

/-- A leap second is read back from the second 60, wherever the clock shows the seconds of universal
time. -/
theorem withSeconds_toLocal (t : Instant) {offset : Int} (hoffset : offset % 60 = 0) :
    let l := t.toLocal offset
    withSeconds l.date l.hour l.minute (l.second + l.nanos / nanosPerSecond)
      (l.nanos % nanosPerSecond) = l := by
  intro l
  have hsecond : l.second < 60 := (t.clock_toLocal offset).2.2
  have hnanos : l.nanos < 2 * nanosPerSecond := t.nanos_lt
  have hpos : 0 < nanosPerSecond := by decide
  by_cases hleap : nanosPerSecond ≤ l.nanos
  · -- the leap second follows the last second of its minute
    have hlast : l.second = 59 := by
      have hends := t.leap_ends_minute hleap
      simp only [l, Instant.toLocal, secondsPerDay]
      omega
    have hdiv : l.nanos / nanosPerSecond = 1 := by
      rw [Nat.div_eq_iff hpos]
      omega
    have hmod : nanosPerSecond + l.nanos % nanosPerSecond = l.nanos := by
      have hparts := Nat.div_add_mod l.nanos nanosPerSecond
      rwa [hdiv, Nat.mul_one] at hparts
    rw [hdiv, hlast, withSeconds, if_pos rfl, hmod, ← hlast]
  · have hdiv : l.nanos / nanosPerSecond = 0 := Nat.div_eq_of_lt (Nat.lt_of_not_le hleap)
    have hmod : l.nanos % nanosPerSecond = l.nanos := Nat.mod_eq_of_lt (Nat.lt_of_not_le hleap)
    rw [hdiv, hmod, Nat.add_zero, withSeconds, if_neg (Nat.ne_of_lt hsecond)]

@[simp] theorem expect_self (c : Char) (rest : Text) : expect c (c :: rest) = some rest :=
  if_pos rfl

theorem bind_expect_self {α : Type} (c : Char) (rest : Text) (f : Text → Option α) :
    (expect c (c :: rest) >>= f) = f rest := by
  rw [expect_self]
  rfl

theorem bind_readDigits_padded {α : Type} {width n : Nat} (hwidth : 0 < width)
    (h : n < 10 ^ width) (rest : Text) (f : Nat × Text → Option α) :
    (Decimal.readDigits width width (Decimal.padded width n ++ rest) >>= f) = f (n, rest) := by
  rw [Decimal.readDigits_padded hwidth h]
  rfl

@[simp] theorem yearText_of_fourDigits {year : Int} (h : 0 ≤ year ∧ year ≤ 9999) :
    yearText year = Decimal.padded 4 year.toNat := if_pos h

/-- The parts of a text are read one after another. -/
theorem read_parts {year month day hour minute second nanos : Nat} {fraction zone : Text}
    {offset : Int} (hyear : year < 10 ^ 4) (hmonth : month < 10 ^ 2) (hday : day < 10 ^ 2)
    (hhour : hour < 10 ^ 2) (hminute : minute < 10 ^ 2) (hsecond : second < 10 ^ 2)
    (hfraction : readFraction (fraction ++ zone) = some (nanos, zone))
    (hzone : readOffset zone = some (offset, [])) :
    read (Decimal.padded 4 year ++ '-' :: Decimal.padded 2 month ++ '-' :: Decimal.padded 2 day ++
      'T' :: (Decimal.padded 2 hour ++ ':' :: Decimal.padded 2 minute ++ ':' ::
        Decimal.padded 2 second ++ fraction) ++ zone) =
      (withSeconds ⟨year, month, day⟩ hour minute second nanos).toInstant? offset := by
  have hwidth : 0 < 2 := Nat.two_pos
  have hseparator (rest : Text) : (expect 'T' ('T' :: rest)).or
      ((expect 't' ('T' :: rest)).or (expect ' ' ('T' :: rest))) = expect 'T' ('T' :: rest) := by
    rw [expect_self, Option.some_or]
  simp only [List.append_assoc, List.cons_append]
  rw [read, bind_readDigits_padded (Nat.succ_pos 3) hyear]
  dsimp only
  rw [bind_expect_self, bind_readDigits_padded hwidth hmonth]
  dsimp only
  rw [bind_expect_self, bind_readDigits_padded hwidth hday]
  dsimp only
  rw [hseparator, bind_expect_self, bind_readDigits_padded hwidth hhour]
  dsimp only
  rw [bind_expect_self, bind_readDigits_padded hwidth hminute]
  dsimp only
  rw [bind_expect_self, bind_readDigits_padded hwidth hsecond]
  dsimp only
  rw [hfraction, Option.bind_eq_bind, Option.bind_some]
  dsimp only
  rw [hzone]
  -- nothing is left behind the offset, so the condition at the end holds
  rfl

/-- An instant is read back from what calendar and clock show in a zone that keeps the minutes of
universal time, if fraction and zone are read back where they stand. -/
theorem read_toLocal {t : Instant} {offset : Int} {fraction zone : Text}
    (hoffset : offset % 60 = 0)
    (hyear : 0 ≤ (t.toLocal offset).date.year ∧ (t.toLocal offset).date.year ≤ 9999)
    (hfraction : readFraction (fraction ++ zone) =
      some ((t.toLocal offset).nanos % nanosPerSecond, zone))
    (hzone : readOffset zone = some (offset, [])) :
    let l := t.toLocal offset
    read (dateText l.date ++ 'T' :: (Decimal.padded 2 l.hour ++ ':' :: Decimal.padded 2 l.minute ++
      ':' :: Decimal.padded 2 (l.second + l.nanos / nanosPerSecond) ++ fraction) ++ zone) =
      some t := by
  dsimp only
  have hback : (t.toLocal offset).toInstant? offset = some t := LocalTime.toInstant?_toLocal
    ⟨Int.le_trans (by decide) hyear.1, Int.le_trans hyear.2 (by decide)⟩
  have hseconds := withSeconds_toLocal t hoffset
  obtain ⟨hhour, hminute, hsecond⟩ := t.clock_toLocal offset
  have hdate : (t.toLocal offset).date.isValid = true := Date.isValid_ofNumber _
  obtain ⟨hmonth, hday⟩ := Date.month_day_le hdate
  -- a leap second adds one to the seconds
  have hleap : (t.toLocal offset).nanos / nanosPerSecond < 2 := by
    have hnanos : (t.toLocal offset).nanos < 2 * nanosPerSecond := t.nanos_lt
    exact Nat.div_lt_of_lt_mul (by rwa [Nat.mul_comm])
  have hcast : (((t.toLocal offset).date.year.toNat : Nat) : Int) = (t.toLocal offset).date.year :=
    Int.toNat_of_nonneg hyear.1
  rw [dateText, yearText_of_fourDigits hyear,
    read_parts (by omega) (by omega) (by omega) (by omega) (by omega) (by omega) hfraction hzone,
    hcast]
  exact (congrArg (LocalTime.toInstant? · offset) hseconds).trans hback

/-- An instant is read back from its text. -/
theorem read_rfc3339 {t : Instant} (h : t.HasFourDigitYear) : read t.rfc3339 = some t := by
  have hbelow : (t.toLocal 0).nanos % nanosPerSecond < nanosPerSecond := Nat.mod_lt _ (by decide)
  exact read_toLocal (Int.zero_emod 60) h (readFraction_fractionText hbelow []) rfl

end Rfc3339

/-- An instant is read back from its text. -/
theorem Instant.parse_rfc3339 {t : Instant} (h : t.HasFourDigitYear) :
    Instant.parse t.rfc3339 = .ok t := by
  rw [Instant.parse, Rfc3339.read_rfc3339 h]

/-- Different instants have different texts. -/
theorem Instant.rfc3339_inj {t u : Instant} (ht : t.HasFourDigitYear) (hu : u.HasFourDigitYear)
    (h : t.rfc3339 = u.rfc3339) : t = u := by
  have hread := congrArg Rfc3339.read h
  rw [Rfc3339.read_rfc3339 ht, Rfc3339.read_rfc3339 hu] at hread
  exact Option.some.inj hread

end TraceText
