import Mathlib.Algebra.Order.Floor.Ring
import Mathlib.Order.Interval.Set.UnorderedInterval
import Mathlib.Tactic.Linarith
import TraceText.Proofs.Instant.Order
import TraceText.Proofs.Record.TickClock

/-!
# Ticks in order

A clock that runs decodes ticks in their order, and whatever lies between ticks that it decodes.
Rounding towards the origin could still give two ticks one instant; it does not if the clock counts
no more than a billion ticks a second, because then each tick takes a nanosecond at least.

The distance from the origin is computed in words of 128 bits.  They are wide enough for all ticks,
origins and rates of 64 bits, so no step of the computation overflows.

## Main definitions

* `TickClock.exactNanos` — the exact time of ticks, in nanoseconds since 1970
* `FitsWord`, `TickClock.inWords?` — decoding in words of bounded width, where overflows are noticed

## Main results

* `towardsZero_mono`, `towardsZero_lt` — rounding keeps order, and tells apart what differs by one
* `TickClock.inWords?_eq` — no step of decoding overflows
* `TickClock.decodes_in_order` — ticks are decoded in order, without gaps, and nearly exactly
-/

namespace TraceText

/-! ### Rounding towards zero -/

section TowardsZero

variable {p q : ℚ}

theorem towardsZero_of_nonneg (h : 0 ≤ q) : towardsZero q = ⌊q⌋ := if_pos h

theorem towardsZero_neg (q : ℚ) : towardsZero (-q) = -towardsZero q := by
  unfold towardsZero
  rcases lt_trichotomy q 0 with hneg | rfl | hpos
  · rw [if_pos (by linarith), if_neg (by linarith), Int.floor_neg]
  · simp
  · rw [if_neg (by linarith), if_pos hpos.le, Int.ceil_neg]

theorem towardsZero_of_nonpos (h : q ≤ 0) : towardsZero q = ⌈q⌉ := by
  rw [← neg_neg q, towardsZero_neg, towardsZero_of_nonneg (neg_nonneg.mpr h), Int.ceil_neg]

theorem towardsZero_mono (h : p ≤ q) : towardsZero p ≤ towardsZero q := by
  rcases le_total 0 p with hp | hp
  · rw [towardsZero_of_nonneg hp, towardsZero_of_nonneg (hp.trans h)]
    exact Int.floor_le_floor h
  rcases le_total q 0 with hq | hq
  · rw [towardsZero_of_nonpos hp, towardsZero_of_nonpos hq]
    exact Int.ceil_le_ceil h
  · -- zero lies between the two
    rw [towardsZero_of_nonpos hp, towardsZero_of_nonneg hq]
    calc ⌈p⌉ ≤ 0 := Int.ceil_le.mpr (by simpa using hp)
      _ ≤ ⌊q⌋ := Int.floor_nonneg.mpr hq

/-- On one side of zero, numbers that differ by one are not rounded to the same integer. -/
theorem towardsZero_lt (h : p + 1 ≤ q) (hside : 0 ≤ p ∨ q ≤ 0) :
    towardsZero p < towardsZero q := by
  rcases hside with hp | hq
  · rw [towardsZero_of_nonneg hp, towardsZero_of_nonneg (by linarith), ← Int.add_one_le_iff,
      ← Int.floor_add_one]
    exact Int.floor_le_floor h
  · rw [towardsZero_of_nonpos (by linarith), towardsZero_of_nonpos hq, ← Int.add_one_le_iff,
      ← Int.ceil_add_one]
    exact Int.ceil_le_ceil h

/-- Rounding takes less than one away, and does not pass zero. -/
theorem towardsZero_spec (q : ℚ) :
    (towardsZero q : ℚ) ∈ Set.uIcc 0 q ∧ |q - towardsZero q| < 1 := by
  rw [Set.mem_uIcc, abs_lt]
  rcases le_total 0 q with hq | hq
  · rw [towardsZero_of_nonneg hq]
    have hzero : (0 : ℚ) ≤ ⌊q⌋ := by exact_mod_cast Int.floor_nonneg.mpr hq
    have hle := Int.floor_le q
    have hlt := Int.lt_floor_add_one q
    exact ⟨.inl ⟨hzero, hle⟩, by linarith, by linarith⟩
  · rw [towardsZero_of_nonpos hq]
    have hzero : (⌈q⌉ : ℚ) ≤ 0 := by exact_mod_cast Int.ceil_le.mpr (by simpa using hq)
    have hle := Int.le_ceil q
    have hlt := Int.ceil_lt_add_one q
    exact ⟨.inr ⟨hle, hzero⟩, by linarith, by linarith⟩

end TowardsZero

/-! ### Words -/

/-- An integer that a word of so many bits with a sign can hold. -/
def FitsWord (bits : Nat) (i : Int) : Prop := -2 ^ (bits - 1) ≤ i ∧ i < 2 ^ (bits - 1)

instance (bits : Nat) (i : Int) : Decidable (FitsWord bits i) :=
  inferInstanceAs (Decidable (-2 ^ (bits - 1) ≤ i ∧ i < 2 ^ (bits - 1)))

/-- A result in a word, or nothing if the word overflows. -/
def word? (bits : Nat) (i : Int) : Option Int := if FitsWord bits i then some i else none

theorem word?_of_fitsWord {bits : Nat} {i : Int} (h : FitsWord bits i) : word? bits i = some i :=
  if_pos h

namespace TickClock

variable {clock : TickClock} {ticks a b : Int} {t : Instant}

/-- The instant of ticks, where each step is taken in a word of the width that is provided for it;
nothing at all if a word overflows.  A distance beyond 64 bits is no overflow: it has no instant. -/
def inWords? (clock : TickClock) (ticks : Int) : Option (Option Instant) :=
  if clock.ticksPerSecond ≤ 0 then some none
  else do
    let difference ← word? 128 (ticks - clock.originTicks)
    let product ← word? 128 (difference * 1000000000)
    let quotient ← word? 128 (product.tdiv clock.ticksPerSecond)
    return if FitsWord 64 quotient then clock.originTime.add quotient else none

/-- In words of 128 bits all ticks are decoded as with integers of any size. -/
theorem inWords?_eq (hticks : FitsWord 64 ticks) (horigin : FitsWord 64 clock.originTicks) :
    clock.inWords? ticks = some (clock.toInstant? ticks) := by
  unfold FitsWord at hticks horigin
  by_cases hrate : clock.ticksPerSecond ≤ 0
  · rw [inWords?, toInstant?, if_pos hrate, if_pos hrate]
  have hdifference : FitsWord 128 (ticks - clock.originTicks) := by
    unfold FitsWord
    omega
  have hproduct : FitsWord 128 ((ticks - clock.originTicks) * 1000000000) := by
    unfold FitsWord
    omega
  have hquotient :
      FitsWord 128 (((ticks - clock.originTicks) * 1000000000).tdiv clock.ticksPerSecond) := by
    -- a quotient is no larger than what is divided
    have hle := Int.natAbs_tdiv_le_natAbs ((ticks - clock.originTicks) * 1000000000)
      clock.ticksPerSecond
    unfold FitsWord at hproduct ⊢
    omega
  rw [inWords?, toInstant?, if_neg hrate, if_neg hrate]
  simp only [Option.bind_eq_bind, Option.bind_some, word?_of_fitsWord hdifference,
    word?_of_fitsWord hproduct, word?_of_fitsWord hquotient]
  exact congrArg some (if_congr Iff.rfl rfl rfl)

/-! ### Order -/

/-- The exact time that ticks tell, in nanoseconds since 1970. -/
def exactNanos (clock : TickClock) (ticks : Int) : ℚ :=
  clock.originTime.epochNanos + clock.elapsed ticks * nanosPerSecond

theorem elapsed_mono (h : 0 < clock.ticksPerSecond) (hab : a ≤ b) :
    clock.elapsed a ≤ clock.elapsed b := by
  have hrate : (0 : ℚ) < clock.ticksPerSecond := by exact_mod_cast h
  have hcast : (a : ℚ) ≤ b := by exact_mod_cast hab
  unfold elapsed
  exact div_le_div_of_nonneg_right (by linarith) hrate.le

theorem elapsedNanos_mono (h : 0 < clock.ticksPerSecond) (hab : a ≤ b) :
    clock.elapsedNanos a ≤ clock.elapsedNanos b := by
  apply towardsZero_mono
  exact mul_le_mul_of_nonneg_right (elapsed_mono h hab) (Nat.cast_nonneg _)

@[simp] theorem elapsed_originTicks : clock.elapsed clock.originTicks = 0 := by
  simp [elapsed]

/-- A tick takes a nanosecond at least if no more than a billion of them make a second. -/
theorem elapsed_add_nano_le (h : 0 < clock.ticksPerSecond)
    (hslow : clock.ticksPerSecond ≤ nanosPerSecond) (hab : a < b) :
    clock.elapsed a * nanosPerSecond + 1 ≤ clock.elapsed b * nanosPerSecond := by
  have hrate : (0 : ℚ) < clock.ticksPerSecond := by exact_mod_cast h
  have hcast : (a : ℚ) + 1 ≤ b := by exact_mod_cast hab
  have hscale : (clock.ticksPerSecond : ℚ) ≤ nanosPerSecond := by exact_mod_cast hslow
  have hnano : 1 ≤ (1 : ℚ) / clock.ticksPerSecond * nanosPerSecond := by
    rw [div_mul_eq_mul_div, one_mul, one_le_div hrate]
    exact hscale
  have hstep : clock.elapsed a + 1 / clock.ticksPerSecond ≤ clock.elapsed b := by
    unfold elapsed
    rw [← add_div]
    exact div_le_div_of_nonneg_right (by linarith) hrate.le
  calc clock.elapsed a * nanosPerSecond + 1
      ≤ (clock.elapsed a + 1 / clock.ticksPerSecond) * nanosPerSecond := by
        rw [add_mul]
        linarith
    _ ≤ clock.elapsed b * nanosPerSecond :=
        mul_le_mul_of_nonneg_right hstep (Nat.cast_nonneg _)

theorem elapsedNanos_lt (h : 0 < clock.ticksPerSecond)
    (hslow : clock.ticksPerSecond ≤ nanosPerSecond) (hab : a < b) :
    clock.elapsedNanos a < clock.elapsedNanos b := by
  have hnanos : (0 : ℚ) ≤ nanosPerSecond := Nat.cast_nonneg _
  -- ticks on one side of the origin stay apart
  have hbehind (a b : Int) (hab : a < b) (ha : clock.originTicks ≤ a) :
      clock.elapsedNanos a < clock.elapsedNanos b := by
    apply towardsZero_lt (elapsed_add_nano_le h hslow hab)
    left
    apply mul_nonneg _ hnanos
    simpa using elapsed_mono h ha
  have hbefore (a b : Int) (hab : a < b) (hb : b ≤ clock.originTicks) :
      clock.elapsedNanos a < clock.elapsedNanos b := by
    apply towardsZero_lt (elapsed_add_nano_le h hslow hab)
    right
    apply mul_nonpos_of_nonpos_of_nonneg _ hnanos
    simpa using elapsed_mono h hb
  -- and ticks on different sides stay apart from the origin
  by_cases ha : clock.originTicks ≤ a
  · exact hbehind a b hab ha
  by_cases hb : b ≤ clock.originTicks
  · exact hbefore a b hab hb
  · calc clock.elapsedNanos a
        < clock.elapsedNanos clock.originTicks := hbefore a _ (by omega) le_rfl
      _ < clock.elapsedNanos b := hbehind _ b (by omega) le_rfl

/-- Outside of leap seconds, the instant of ticks is their exact time but for less than a nanosecond
that is missing towards the origin. -/
theorem Tells.epochNanos (hleap : clock.originTime.isLeap = false) (h : clock.Tells ticks t) :
    (t.epochNanos : ℚ) ∈ Set.uIcc (clock.originTime.epochNanos : ℚ) (clock.exactNanos ticks) ∧
      |clock.exactNanos ticks - t.epochNanos| < 1 := by
  obtain ⟨hplace, -⟩ := (Instant.liesAt_iff_of_not_isLeap hleap).mp h
  have htotal : (t.epochNanos : ℚ) =
      clock.originTime.epochNanos + towardsZero (clock.elapsed ticks * nanosPerSecond) := by
    exact_mod_cast hplace
  obtain ⟨hbetween, hnear⟩ := towardsZero_spec (clock.elapsed ticks * nanosPerSecond)
  -- all that is missing, the truncation has taken away
  rw [htotal, exactNanos, add_sub_add_left_eq_sub]
  refine ⟨?_, hnear⟩
  rw [Set.mem_uIcc] at hbetween ⊢
  rcases hbetween with h | h
  · left
    constructor <;> linarith [h.1, h.2]
  · right
    constructor <;> linarith [h.1, h.2]

/-- A clock that runs decodes all ticks between two that it decodes, in their order, and to
different instants if a tick takes a nanosecond at least.  Unless the origin is in a leap second,
an instant differs from the exact time by less than a nanosecond, towards the origin.  And whatever
the ticks, their origin and the rate are, no word overflows. -/
theorem decodes_in_order (clock : TickClock) :
    (0 < clock.ticksPerSecond →
      (∀ a b c first last, a ≤ b → b ≤ c →
        clock.toInstant? a = some first → clock.toInstant? c = some last →
        ∃ t, clock.toInstant? b = some t ∧ first ≤ t ∧ t ≤ last ∧
          (clock.ticksPerSecond ≤ nanosPerSecond → (a < b → first < t) ∧ (b < c → t < last))) ∧
      (clock.originTime.isLeap = false → ∀ ticks t, clock.toInstant? ticks = some t →
        (t.epochNanos : ℚ) ∈
            Set.uIcc (clock.originTime.epochNanos : ℚ) (clock.exactNanos ticks) ∧
          |clock.exactNanos ticks - t.epochNanos| < 1)) ∧
    ∀ ticks, FitsWord 64 ticks → FitsWord 64 clock.originTicks →
      clock.inWords? ticks = some (clock.toInstant? ticks) := by
  refine ⟨fun hrate => ⟨?order, ?exact⟩, fun ticks => inWords?_eq⟩
  case order =>
    intro a b c first last hab hbc hfirst hlast
    obtain ⟨hreachesA, htellsA⟩ := (toInstant?_eq_some_iff hrate).mp hfirst
    obtain ⟨hreachesC, htellsC⟩ := (toInstant?_eq_some_iff hrate).mp hlast
    have hleft := elapsedNanos_mono hrate hab
    have hright := elapsedNanos_mono hrate hbc
    obtain ⟨t, htells⟩ := Instant.exists_liesAt_of_between htellsA htellsC hleft hright
    -- what lies between two distances of 64 bits fits 64 bits
    have hreaches : clock.Reaches b :=
      ⟨hreachesA.1.trans hleft, hright.trans_lt hreachesC.2⟩
    refine ⟨t, (toInstant?_eq_some_iff hrate).mpr ⟨hreaches, htells⟩,
      (htellsA.le_iff htells).mpr hleft, (htells.le_iff htellsC).mpr hright, ?_⟩
    intro hslow
    constructor
    · intro hlt
      exact (htellsA.lt_iff htells).mpr (elapsedNanos_lt hrate hslow hlt)
    · intro hlt
      exact (htells.lt_iff htellsC).mpr (elapsedNanos_lt hrate hslow hlt)
  case exact =>
    intro hleap ticks t ht
    exact ((toInstant?_eq_some_iff hrate).mp ht).2.epochNanos hleap

/-- Around the middle of the leap second at the end of 2016, a third of a second before and two
thirds behind; the least tick of 64 bits, far out of reach; and a third of a second before 1970. -/
theorem decodes_in_order_across_leapSecond :
    let clock : TickClock :=
      ⟨3, 5, ⟨1483228799, 1500000000, by decide, by decide, by decide, by decide⟩⟩
    let first : Instant := ⟨1483228799, 1166666667, by decide, by decide, by decide, by decide⟩
    let last : Instant := ⟨1483228800, 166666666, by decide, by decide, by decide, by decide⟩
    let before : Instant := ⟨-1, 666666667, by decide, by decide, by decide, by decide⟩
    clock.toInstant? 4 = some first ∧ clock.toInstant? 7 = some last ∧
      (∃ t, clock.toInstant? 5 = some t ∧ first < t ∧ t < last) ∧
      clock.inWords? (-2 ^ 63) = some none ∧
      (⟨3, 0, .epoch⟩ : TickClock).toInstant? (-1) = some before ∧
      |(⟨3, 0, .epoch⟩ : TickClock).exactNanos (-1) - before.epochNanos| < 1 := by
  intro clock first last before
  have hfirst : clock.toInstant? 4 = some first := by decide
  have hlast : clock.toInstant? 7 = some last := by decide
  have hbefore : (⟨3, 0, .epoch⟩ : TickClock).toInstant? (-1) = some before := by decide
  obtain ⟨hruns, hwords⟩ := decodes_in_order clock
  obtain ⟨t, ht, -, -, hstrict⟩ :=
    (hruns (by decide)).1 4 5 7 first last (by decide) (by decide) hfirst hlast
  obtain ⟨hafter, huntil⟩ := hstrict (by decide)
  refine ⟨hfirst, hlast, ⟨t, ht, hafter (by decide), huntil (by decide)⟩,
    hwords _ (by decide) (by decide), hbefore, ?_⟩
  exact (((decodes_in_order ⟨3, 0, .epoch⟩).1 (by decide)).2 rfl (-1) before hbefore).2

end TickClock

end TraceText
