import Mathlib.Algebra.Ring.Int.Defs
import TraceText.Instant.Basic

/-!
# Distances between instants

An instant is moved by nanoseconds on a timeline that knows no leap second but the one in which the
instant itself lies.  So moving an instant is described by the place that every instant has on this
timeline: the instant that is reached is the one that lies at the given distance.

## Main definitions

* `Instant.epochNanos` — the time of an instant in nanoseconds since 1970
* `Instant.place` — the place of an instant on the timeline of another
* `Instant.LiesAt` — an instant lies at a distance from another

## Main results

* `Instant.ofNanos?_eq_some_iff` — the instant that nanoseconds since 1970 tell
* `Instant.add_eq_some_iff` — an instant is moved to the one that lies at this distance
-/

namespace TraceText.Instant

variable {origin t : Instant} {delta : Int}

/-- The time of an instant outside of leap seconds, in nanoseconds since 1970. -/
def epochNanos (t : Instant) : Int := t.seconds * nanosPerSecond + t.nanos

/-- The place of `t` in nanoseconds, where every minute has 60 seconds, but the leap second in which
`origin` lies, if it lies in one, takes a second of its own. -/
def place (origin t : Instant) : Int :=
  t.seconds * nanosPerSecond + t.nanos +
    if origin.isLeap ∧ origin.seconds < t.seconds then (nanosPerSecond : Int) else 0

/-- `t` lies `delta` nanoseconds behind `origin`, or before it if `delta` is negative.  It lies in
no leap second but that of `origin`. -/
structure LiesAt (origin : Instant) (delta : Int) (t : Instant) : Prop where
  place_eq : origin.place t = origin.place origin + delta
  leap : t.isLeap → origin.isLeap ∧ t.seconds = origin.seconds

theorem isLeap_iff : t.isLeap = true ↔ nanosPerSecond ≤ t.nanos := decide_eq_true_iff

theorem place_of_not_isLeap (h : origin.isLeap = false) :
    origin.place t = t.seconds * nanosPerSecond + t.nanos := by
  simp [place, h]

theorem place_self : origin.place origin = origin.seconds * nanosPerSecond + origin.nanos := by
  simp [place]

/-- Nanoseconds since the beginning of 1970 tell the instant outside of leap seconds that has as
many, if there is one. -/
theorem ofNanos?_eq_some_iff {total : Int} :
    ofNanos? total = some t ↔
      t.seconds * nanosPerSecond + t.nanos = total ∧ t.isLeap = false := by
  rw [ofNanos?, ofParts?_eq_some_iff, ← Bool.not_eq_true, isLeap_iff]
  unfold nanosPerSecond
  omega

/-- From an instant outside of leap seconds, distances are differences of the seconds since 1970. -/
theorem liesAt_iff_of_not_isLeap (h : origin.isLeap = false) :
    origin.LiesAt delta t ↔
      t.seconds * nanosPerSecond + t.nanos =
          origin.seconds * nanosPerSecond + origin.nanos + delta ∧ t.isLeap = false := by
  constructor
  · rintro ⟨hplace, hleap⟩
    rw [place_self, place_of_not_isLeap h] at hplace
    refine ⟨hplace, Bool.eq_false_iff.mpr fun ht => ?_⟩
    exact absurd (hleap ht).1 (Bool.eq_false_iff.mp h)
  · rintro ⟨hplace, hleap⟩
    rw [← place_of_not_isLeap h, ← place_self] at hplace
    exact ⟨hplace, fun ht => absurd ht (Bool.eq_false_iff.mp hleap)⟩

/-- From an instant in a leap second, this second counts for what lies behind it. -/
theorem liesAt_iff_of_isLeap (h : origin.isLeap = true) :
    origin.LiesAt delta t ↔
      t.seconds * nanosPerSecond + t.nanos +
          (if origin.seconds < t.seconds then (nanosPerSecond : Int) else 0) =
        origin.seconds * nanosPerSecond + origin.nanos + delta ∧
      (nanosPerSecond ≤ t.nanos → t.seconds = origin.seconds) := by
  rw [← isLeap_iff, ← place_self]
  constructor
  · rintro ⟨hplace, hleap⟩
    exact ⟨by simpa [place, h] using hplace, fun ht => (hleap ht).2⟩
  · rintro ⟨hplace, hleap⟩
    exact ⟨by simpa [place, h] using hplace, fun ht => ⟨h, hleap ht⟩⟩

/-- A distance consists of whole seconds and of a part of a second with the same sign. -/
theorem whole_and_part (delta : Int) :
    nanosPerSecond * delta.tdiv nanosPerSecond + delta.tmod nanosPerSecond = delta ∧
      (0 ≤ delta → 0 ≤ delta.tmod nanosPerSecond) ∧ (delta ≤ 0 → delta.tmod nanosPerSecond ≤ 0) ∧
      -nanosPerSecond < delta.tmod nanosPerSecond ∧
      delta.tmod nanosPerSecond < nanosPerSecond := by
  have hpos : (0 : Int) < nanosPerSecond := by decide
  refine ⟨Int.mul_tdiv_add_tmod _ _, Int.tmod_nonneg _, ?_, Int.lt_tmod_of_pos _ hpos,
    Int.tmod_lt_of_pos _ hpos⟩
  intro h
  have hneg := Int.tmod_nonneg (nanosPerSecond : Int) (Int.neg_nonneg_of_nonpos h)
  rw [Int.neg_tmod] at hneg
  omega

/-- Out of a leap second an instant is moved to the one that lies at this distance. -/
theorem add_eq_some_iff_of_isLeap (h : origin.isLeap = true) :
    origin.add delta = some t ↔ origin.LiesAt delta t := by
  have hnanos := isLeap_iff.mp h
  have horigin := origin.nanos_lt
  have ht := t.nanos_lt
  obtain ⟨hsum, hpos, hneg, hlow, hhigh⟩ := whole_and_part delta
  rw [add, if_pos h, liesAt_iff_of_isLeap h]
  generalize delta.tdiv nanosPerSecond = whole at hsum ⊢
  generalize delta.tmod nanosPerSecond = part at hsum hpos hneg hlow hhigh ⊢
  by_cases hbehind : 0 < whole ∨ 2 * nanosPerSecond ≤ origin.nanos + part
  · -- the rest of the leap second is passed
    rw [if_pos hbehind, ofNanos?_eq_some_iff, Bool.eq_false_iff, Ne, isLeap_iff]
    unfold nanosPerSecond at *
    omega
  rw [if_neg hbehind]
  by_cases hbefore : whole < 0
  · -- a second or more back there is nothing to pass
    rw [if_pos hbefore, ofNanos?_eq_some_iff, Bool.eq_false_iff, Ne, isLeap_iff]
    unfold nanosPerSecond at *
    omega
  · rw [if_neg hbefore, ofParts?_eq_some_iff]
    unfold nanosPerSecond at *
    omega

/-- An instant is moved to the one that lies at this distance, if there is one. -/
theorem add_eq_some_iff : origin.add delta = some t ↔ origin.LiesAt delta t := by
  by_cases h : origin.isLeap = true
  · exact add_eq_some_iff_of_isLeap h
  · rw [add, if_neg h, liesAt_iff_of_not_isLeap (Bool.eq_false_iff.mpr h), ofNanos?_eq_some_iff]

end TraceText.Instant
