import Mathlib.Data.Rat.Floor
import Mathlib.Tactic.Ring
import TraceText.Proofs.Instant.Timeline
import TraceText.Record.Basic

/-!
# The instants of ticks

A clock that counts ticks tells by a number of ticks an exact time: its origin and as many seconds
as the ticks behind the origin take, a rational number.  Rounded to nanoseconds towards the origin,
this time is an instant, if the calendar reaches so far.  It is decoded as long as it lies no
further from the origin than 64 bits can count nanoseconds, which is some 292 years; a clock that
counts milliseconds from 1970 on loses the instants behind the year 2262, which a count of
milliseconds by itself does tell.

## Main definitions

* `towardsZero` — a rational number without its fraction
* `TickClock.elapsed` — how long a clock takes to show a number of ticks
* `TickClock.Tells` — the instant that ticks tell
* `TickClock.Reaches` — the distance of ticks from the origin can be counted

## Main results

* `TickClock.toInstant?_eq_some_iff` — what ticks are decoded as
* `TickClock.decodes_within_reach` — ticks are decoded as what they tell, within reach
-/

namespace TraceText

/-- A rational number without its fraction. -/
def towardsZero (q : ℚ) : Int := if 0 ≤ q then ⌊q⌋ else ⌈q⌉

/-- A quotient without its fraction is what division of integers gives. -/
theorem towardsZero_div (a : Int) {b : Int} (hb : 0 < b) : towardsZero (a / b) = a.tdiv b := by
  obtain ⟨n, rfl⟩ := Int.eq_ofNat_of_zero_le hb.le
  have hn : (0 : ℚ) < ((n : Int) : ℚ) := by exact_mod_cast hb
  have hsign : 0 ≤ (a : ℚ) / ((n : Int) : ℚ) ↔ 0 ≤ a := by
    rw [le_div_iff₀ hn, zero_mul]
    exact_mod_cast Iff.rfl
  rw [towardsZero]
  by_cases ha : 0 ≤ a
  · rw [if_pos (hsign.mpr ha), Int.cast_natCast, Rat.floor_intCast_div_natCast,
      Int.tdiv_eq_ediv_of_nonneg ha]
  · have hneg : 0 ≤ -a := by omega
    rw [if_neg (mt hsign.mp ha), Int.cast_natCast, Rat.ceil_intCast_div_natCast,
      ← Int.tdiv_eq_ediv_of_nonneg hneg, Int.neg_tdiv, Int.neg_neg]

namespace TickClock

variable {clock : TickClock} {ticks : Int} {t : Instant}

/-- The seconds that a clock takes from its origin until it shows `ticks`. -/
def elapsed (clock : TickClock) (ticks : Int) : ℚ :=
  ((ticks : ℚ) - clock.originTicks) / clock.ticksPerSecond

/-- The same in nanoseconds, rounded towards the origin. -/
def elapsedNanos (clock : TickClock) (ticks : Int) : Int :=
  towardsZero (clock.elapsed ticks * nanosPerSecond)

/-- The exact time of `ticks`, rounded to nanoseconds towards the origin, is the instant `t`. -/
def Tells (clock : TickClock) (ticks : Int) (t : Instant) : Prop :=
  clock.originTime.LiesAt (clock.elapsedNanos ticks) t

/-- The distance from the origin, in nanoseconds, is an integer of 64 bits. -/
def Reaches (clock : TickClock) (ticks : Int) : Prop :=
  -2 ^ 63 ≤ clock.elapsedNanos ticks ∧ clock.elapsedNanos ticks < 2 ^ 63

theorem elapsedNanos_eq (h : 0 < clock.ticksPerSecond) (ticks : Int) :
    clock.elapsedNanos ticks =
      ((ticks - clock.originTicks) * 1000000000).tdiv clock.ticksPerSecond := by
  rw [elapsedNanos, ← towardsZero_div _ h]
  -- nothing is rounded before the end, so it does not matter when the rate divides
  congr 1
  have hrate : (clock.ticksPerSecond : ℚ) ≠ 0 := by exact_mod_cast h.ne'
  simp only [elapsed, nanosPerSecond]
  push_cast
  ring

/-- Ticks are decoded as the instant that they tell, if it lies within reach. -/
theorem toInstant?_eq_some_iff (h : 0 < clock.ticksPerSecond) :
    clock.toInstant? ticks = some t ↔ clock.Reaches ticks ∧ clock.Tells ticks t := by
  have hbound : Int.pow 2 63 = 2 ^ 63 := rfl
  rw [toInstant?, if_neg (Int.not_le.mpr h), Reaches, Tells, elapsedNanos_eq h,
    ← Instant.add_eq_some_iff]
  simp only [hbound, Option.ite_none_right_eq_some]

/-! ### Milliseconds -/

/-- The clock that counts milliseconds from the beginning of 1970. -/
def milliseconds : TickClock := ⟨1000, 0, .epoch⟩

theorem elapsedNanos_milliseconds (raw : Int) : milliseconds.elapsedNanos raw = raw * 1000000 := by
  rw [elapsedNanos_eq (by decide)]
  simp only [milliseconds]
  have hscale : (raw - 0) * 1000000000 = raw * 1000000 * 1000 := by ring
  rw [hscale, Int.mul_tdiv_cancel _ (by decide)]

theorem reaches_milliseconds_iff {raw : Int} :
    milliseconds.Reaches raw ↔ raw.natAbs ≤ 9223372036854 := by
  rw [Reaches, elapsedNanos_milliseconds]
  omega

/-- Milliseconds tell the same instant whether a clock counts them or not. -/
theorem tells_milliseconds_iff {raw : Int} :
    milliseconds.Tells raw t ↔ TimestampUnit.epochMillis.toInstant? raw = some t := by
  have hleap : milliseconds.originTime.isLeap = false := rfl
  rw [Tells, elapsedNanos_milliseconds, Instant.liesAt_iff_of_not_isLeap hleap,
    TimestampUnit.toInstant?, Instant.ofNanos?_eq_some_iff]
  simp [milliseconds, Instant.epoch]

/-- Ticks of a clock that runs are decoded as the instant that they tell, as far as 64 bits count
the nanoseconds from the origin, and not at all beyond.  So the clock that counts milliseconds from
1970 decodes them as a count of milliseconds by itself is decoded, but not beyond that bound. -/
theorem decodes_within_reach (h : 0 < clock.ticksPerSecond) (ticks : Int) :
    (∀ t, (TimestampUnit.ticks clock).toInstant? ticks = some t ↔
      clock.Reaches ticks ∧ clock.Tells ticks t) ∧
    (clock = milliseconds → (TimestampUnit.ticks clock).toInstant? ticks =
      if ticks.natAbs ≤ 9223372036854 then TimestampUnit.epochMillis.toInstant? ticks
      else none) := by
  have hdecodes (t : Instant) : (TimestampUnit.ticks clock).toInstant? ticks = some t ↔
      clock.Reaches ticks ∧ clock.Tells ticks t := toInstant?_eq_some_iff h
  refine ⟨hdecodes, ?_⟩
  rintro rfl
  ext t
  rw [hdecodes, reaches_milliseconds_iff, tells_milliseconds_iff, Option.ite_none_right_eq_some]

/-- Two thirds of a second behind the middle of the leap second at the end of 2016. -/
theorem decodes_out_of_leapSecond :
    let clock : TickClock :=
      ⟨3, 5, ⟨1483228799, 1500000000, by decide, by decide, by decide, by decide⟩⟩
    let t : Instant := ⟨1483228800, 166666666, by decide, by decide, by decide, by decide⟩
    0 < clock.ticksPerSecond ∧ (TimestampUnit.ticks clock).toInstant? 7 = some t ∧
      clock.Reaches 7 ∧ clock.Tells 7 t := by
  intro clock t
  have hrate : 0 < clock.ticksPerSecond := by decide
  have hdecoded : (TimestampUnit.ticks clock).toInstant? 7 = some t := by decide
  exact ⟨hrate, hdecoded, ((decodes_within_reach hrate 7).1 t).mp hdecoded⟩

/-- The first millisecond of April 2262 that is out of reach: it is told by the clock that counts
milliseconds, and decoded as a mere count of milliseconds, but not as ticks of this clock. -/
theorem not_decoded_beyond_reach :
    ∃ t, 0 < milliseconds.ticksPerSecond ∧ milliseconds.Tells 9223372036855 t ∧
      TimestampUnit.epochMillis.toInstant? 9223372036855 = some t ∧
      (TimestampUnit.ticks milliseconds).toInstant? 9223372036855 = none := by
  have hdecoded : TimestampUnit.epochMillis.toInstant? 9223372036855 =
      some ⟨9223372036, 855000000, by decide, by decide, by decide, by decide⟩ := by
    decide
  exact ⟨_, by decide, tells_milliseconds_iff.mpr hdecoded, hdecoded, by decide⟩

end TickClock

end TraceText
