import TraceText.Proofs.DatePattern.Pieces
import TraceText.Proofs.Instant.ReadBack
import TraceText.Proofs.Template.Grammar

/-!
# Instants are read back from date patterns

A date pattern that shows year, month, day and time of day to the nanosecond, and behind them the
distance to universal time, loses nothing.  A distance is shown in hours and minutes, so the clock
of the zone has to show the seconds of universal time; and the year has to be one of four digits
where the clock stands, whatever it is in universal time.

## Main definitions

* `Zone.KeepsMinutes` — a zone whose clock shows the seconds of universal time
* `DatePattern.complete` — the pattern that shows everything

## Main results

* `TimeField.readOffset_offsetText` — a distance in whole minutes is read back
* `DatePattern.complete_read_back` — an instant is read back from the complete pattern
-/

namespace TraceText

/-- The clock of a zone is less than a day away from universal time, by a whole number of
minutes. -/
def Zone.KeepsMinutes (zone : Zone) : Prop := zone.offset.natAbs < 86400 ∧ zone.offset % 60 = 0

instance (zone : Zone) : Decidable zone.KeepsMinutes :=
  inferInstanceAs (Decidable (zone.offset.natAbs < 86400 ∧ zone.offset % 60 = 0))

/-! ### The distance to universal time -/

/-- A sign, hours and minutes are read as the distance that they tell. -/
theorem Rfc3339.readOffset_signed {c : Char} {sign : Int} {hours minutes : Nat}
    (hsign : ∀ rest, readSign (c :: rest) = some (sign, rest)) (hhours : hours < 24)
    (hminutes : minutes < 60) :
    readOffset (c :: Decimal.padded 2 hours ++ ':' :: Decimal.padded 2 minutes) =
      some (sign * (hours * 3600 + minutes * 60 : Nat), []) := by
  have hread : Decimal.readDigits 2 2 (Decimal.padded 2 minutes) = some (minutes, []) := by
    have hread := Decimal.readDigits_padded (n := minutes) Nat.two_pos (by omega) []
    rwa [List.append_nil] at hread
  -- the letter that means no distance is no sign
  have hletter : c ≠ 'Z' ∧ c ≠ 'z' := by
    constructor
    all_goals
      rintro rfl
      cases hsign []
  rw [List.cons_append, readOffset.eq_3 _ (fun _ h => hletter.1 (List.cons.inj h).1)
    (fun _ h => hletter.2 (List.cons.inj h).1), hsign, Option.bind_eq_bind, Option.bind_some]
  dsimp only
  rw [bind_readDigits_padded Nat.two_pos (by omega)]
  dsimp only
  rw [bind_expect_self, hread, Option.bind_eq_bind, Option.bind_some]
  exact if_pos ⟨hhours, hminutes⟩

/-- A distance of whole minutes is read back. -/
theorem TimeField.readOffset_offsetText {zone : Zone} (h : zone.KeepsMinutes) :
    Rfc3339.readOffset (offsetText true zone.offset) = some (zone.offset, []) := by
  obtain ⟨hday, hminutes⟩ := h
  -- rounding to minutes changes nothing, and less than a day has less than 24 hours
  rw [offsetText, if_pos rfl, List.append_assoc, List.singleton_append]
  by_cases hsign : zone.offset < 0
  · rw [if_pos hsign, Rfc3339.readOffset_signed (fun _ => rfl) (by omega) (by omega)]
    refine congrArg (fun offset => some (offset, [])) ?_
    omega
  · rw [if_neg hsign, Rfc3339.readOffset_signed (fun _ => rfl) (by omega) (by omega)]
    refine congrArg (fun offset => some (offset, [])) ?_
    omega

/-- Nine digits of a fraction are read back in front of a distance, because it begins with a
sign. -/
theorem TimeField.readFraction_offsetText {n : Nat} (h : n < nanosPerSecond) (colon : Bool)
    (offset : Int) :
    Rfc3339.readFraction ('.' :: Decimal.padded 9 n ++ offsetText colon offset) =
      some (n, offsetText colon offset) := by
  obtain ⟨c, rest, htext, hc⟩ : ∃ c rest, offsetText colon offset = c :: rest ∧
      c.isDigit = false := by
    refine ⟨_, _, rfl, ?_⟩
    split_ifs <;> decide
  rw [htext, Rfc3339.readFraction_padded (by decide) (Nat.le_refl 9) h hc]
  exact congrArg (fun n => some (n, _)) (Nat.mul_one n)

namespace DatePattern

/-! ### The complete pattern -/

/-- The pattern that shows date, time of day to the nanosecond, and distance to universal time. -/
def complete : Text := "yyyy-MM-dd'T'HH:mm:ss.SSSSSSSSSXXX"

open FormatItem TimeField in
/-- What the complete pattern shows. -/
def completeItems : List FormatItem :=
  [field year, literal '-', field month2, literal '-', field day2, literal 'T', field hour2,
    literal ':', field minute2, literal ':', field second2, literal '.', field nanos,
    field offsetColon]

theorem items_complete : items complete = .ok completeItems := by
  have hspells : Spells [.run 'y' 4, .mark '-', .run 'M' 2, .mark '-', .run 'd' 2, .quoted "T",
      .run 'H' 2, .mark ':', .run 'm' 2, .mark ':', .run 's' 2, .mark '.', .run 'S' 9, .run 'X' 3]
      complete := by
    decide +kernel
  exact items_of_spells hspells

/-- The complete pattern is accepted in every zone. -/
theorem parse_complete (zone : Zone) :
    Parameter.parse zone ("dt:".toList ++ complete) =
      .ok (.timestamp ⟨complete, completeItems.flatMap FormatItem.write, zone⟩) := by
  have hformat : toFormat complete = .ok (completeItems.flatMap FormatItem.write) := by
    rw [toFormat_eq, items_complete]
    rfl
  rw [Parameter.parse_date, hformat]

/-- The complete pattern shows the date, the letter `T`, the time of day with nine digits for the
fraction, and the distance to universal time. -/
theorem format_completeItems (zone : Zone) (t : Instant) :
    let l := t.toLocal zone.offset
    zone.format (completeItems.flatMap FormatItem.write) t =
      Rfc3339.dateText l.date ++ 'T' :: (Decimal.padded 2 l.hour ++ ':' ::
        Decimal.padded 2 l.minute ++ ':' ::
        Decimal.padded 2 (l.second + l.nanos / nanosPerSecond) ++
        '.' :: Decimal.padded 9 (l.nanos % nanosPerSecond)) ++
        TimeField.offsetText true zone.offset := by
  rw [Zone.format_flatMap_write]
  simp [completeItems, FormatItem.text, TimeField.text, Rfc3339.dateText]

/-- An instant is read back, leap seconds included, from what the complete pattern shows of it in a
zone that keeps the minutes of universal time, if its year has four digits there. -/
theorem complete_read_back {zone : Zone} (hzone : zone.KeepsMinutes) {t : Instant}
    (hyear : 0 ≤ (t.toLocal zone.offset).date.year ∧ (t.toLocal zone.offset).date.year ≤ 9999) :
    ∃ f : TimestampFormat, Parameter.parse zone ("dt:".toList ++ complete) = .ok (.timestamp f) ∧
      Instant.parse (f.write t) = .ok t := by
  have hbelow : (t.toLocal zone.offset).nanos % nanosPerSecond < nanosPerSecond :=
    Nat.mod_lt _ (by decide)
  have hfraction := TimeField.readFraction_offsetText hbelow true zone.offset
  have hread := Rfc3339.read_toLocal hzone.2 hyear hfraction
    (TimeField.readOffset_offsetText hzone)
  refine ⟨_, parse_complete zone, ?_⟩
  rw [Instant.parse, TimestampFormat.write, format_completeItems, hread]

/-- A leap second that lies in the year 10000 of universal time, but not yet five and a half hours
to the west. -/
theorem complete_read_back_rollover :
    let zone : Zone := .fixed (-19800)
    let t : Instant :=
      ⟨253402302599, 1500000000, by decide, by decide, by decide, by decide⟩
    zone.KeepsMinutes ∧ t.year = 10000 ∧
      (0 ≤ (t.toLocal zone.offset).date.year ∧ (t.toLocal zone.offset).date.year ≤ 9999) ∧
      ∃ f : TimestampFormat, Parameter.parse zone ("dt:".toList ++ complete) = .ok (.timestamp f) ∧
        f.write t = "9999-12-31T18:59:60.500000000-05:30".toList ∧
        Instant.parse (f.write t) = .ok t := by
  intro zone t
  have hzone : zone.KeepsMinutes := by decide
  have hyear : 0 ≤ (t.toLocal zone.offset).date.year ∧
      (t.toLocal zone.offset).date.year ≤ 9999 := by
    decide +kernel
  obtain ⟨f, hparse, hback⟩ := complete_read_back hzone hyear
  -- the pattern determines the format, and so the text
  have hf : f = ⟨complete, completeItems.flatMap FormatItem.write, zone⟩ := by
    rw [parse_complete] at hparse
    cases hparse
    rfl
  have hshown : f.write t = "9999-12-31T18:59:60.500000000-05:30".toList := by
    rw [hf, TimestampFormat.write, Zone.format_flatMap_write]
    decide +kernel
  exact ⟨hzone, by decide +kernel, hyear, f, hparse, hshown, hback⟩

end DatePattern

end TraceText
