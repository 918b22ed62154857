import Mathlib.Order.Lattice
import TraceText.Proofs.Instant.Timeline

/-!
# The order of instants

Instants are ordered by their seconds and, within a second, by their nanoseconds; so a leap second
keeps its place between two minutes.  Moving an instant respects this order, also out of a leap
second: the further it is moved, the later is the instant that is reached, and every distance
between two that lead to an instant leads to one as well.

## Main results

* `Instant.LiesAt.lt_iff`, `Instant.LiesAt.le_iff` — instants are ordered as their distances
* `Instant.exists_liesAt_of_between` — no distance between two that are reached is left out
-/

namespace TraceText.Instant

/-- Instants are ordered in time. -/
instance : LinearOrder Instant where
  le_refl t := by
    rw [le_iff]
    omega
  le_trans t u v htu huv := by
    rw [le_iff] at *
    omega
  le_antisymm t u htu hut := by
    rw [le_iff] at *
    apply ext <;> omega
  le_total t u := by
    rw [le_iff, le_iff]
    omega
  toDecidableLE := inferInstance

variable {origin t u : Instant} {delta near far : Int}

theorem lt_iff :
    t < u ↔ t.seconds < u.seconds ∨ t.seconds = u.seconds ∧ t.nanos < u.nanos := by
  rw [← not_le, le_iff]
  omega

/-- Of two instants that lie at distances from the same origin, the earlier one lies before the
other by its distance too. -/
theorem LiesAt.lt_iff (ht : origin.LiesAt near t) (hu : origin.LiesAt far u) :
    t < u ↔ near < far := by
  have htnanos := t.nanos_lt
  have hunanos := u.nanos_lt
  rw [Instant.lt_iff]
  by_cases hleap : origin.isLeap = true
  · -- a second that takes twice its time is not passed by either instant, or by both, or by `u`
    rw [liesAt_iff_of_isLeap hleap] at ht hu
    unfold nanosPerSecond at *
    omega
  · rw [liesAt_iff_of_not_isLeap (Bool.eq_false_iff.mpr hleap), ← Bool.not_eq_true, isLeap_iff]
      at ht hu
    unfold nanosPerSecond at *
    omega

theorem LiesAt.le_iff (ht : origin.LiesAt near t) (hu : origin.LiesAt far u) :
    t ≤ u ↔ near ≤ far := by
  rw [← not_lt, hu.lt_iff ht, Int.not_lt]

/-- A number of nanoseconds since 1970 whose second lies between those of two instants is that of
an instant. -/
theorem exists_of_between (t u : Instant) (total : Int) (htu : t.seconds ≤ total / nanosPerSecond)
    (hut : total / nanosPerSecond ≤ u.seconds) :
    ∃ v : Instant, v.seconds * nanosPerSecond + v.nanos = total ∧ v.nanos < nanosPerSecond := by
  have hlow := t.earliest_le
  have hhigh := u.le_latest
  let v : Instant := ⟨total / nanosPerSecond, (total % nanosPerSecond).toNat, by omega, by omega,
    by unfold nanosPerSecond; omega, by unfold nanosPerSecond; omega⟩
  refine ⟨v, ?_, ?_⟩
  · change total / nanosPerSecond * nanosPerSecond + (total % nanosPerSecond).toNat = total
    unfold nanosPerSecond
    omega
  · change (total % nanosPerSecond).toNat < nanosPerSecond
    unfold nanosPerSecond
    omega

/-- Between two instants at distances from the same origin, an instant lies at every distance. -/
theorem exists_liesAt_of_between (ht : origin.LiesAt near t) (hu : origin.LiesAt far u)
    (hnear : near ≤ delta) (hfar : delta ≤ far) : ∃ v, origin.LiesAt delta v := by
  have htnanos := t.nanos_lt
  have hunanos := u.nanos_lt
  obtain ⟨total, htotal⟩ : ∃ total : Int,
      total = origin.seconds * nanosPerSecond + origin.nanos + delta := ⟨_, rfl⟩
  by_cases hleap : origin.isLeap = true
  · simp only [liesAt_iff_of_isLeap hleap, ← htotal] at ht hu ⊢
    have hstart := isLeap_iff.mp hleap
    -- the place looked for precedes the leap second with its own second, is in them, or follows
    by_cases hbefore : total < origin.seconds * nanosPerSecond
    · obtain ⟨v, hplace, hnanos⟩ := exists_of_between t u total
        (by unfold nanosPerSecond at *; omega) (by unfold nanosPerSecond at *; omega)
      refine ⟨v, ?_⟩
      unfold nanosPerSecond at *
      omega
    by_cases hwithin : total < (origin.seconds + 2) * nanosPerSecond
    · refine ⟨⟨origin.seconds, (total - origin.seconds * nanosPerSecond).toNat,
        origin.earliest_le, origin.le_latest, by unfold nanosPerSecond at *; omega,
        fun _ => origin.leap_ends_minute hstart⟩, ?_⟩
      simp only [Int.lt_irrefl, if_false, implies_true, and_true]
      unfold nanosPerSecond at *
      omega
    · obtain ⟨v, hplace, hnanos⟩ := exists_of_between t u (total - nanosPerSecond)
        (by unfold nanosPerSecond at *; omega) (by unfold nanosPerSecond at *; omega)
      refine ⟨v, ?_⟩
      unfold nanosPerSecond at *
      omega
  · simp only [liesAt_iff_of_not_isLeap (Bool.eq_false_iff.mpr hleap), Bool.eq_false_iff, ne_eq,
      isLeap_iff, ← htotal] at ht hu ⊢
    obtain ⟨v, hplace, hnanos⟩ := exists_of_between t u total
      (by unfold nanosPerSecond at *; omega) (by unfold nanosPerSecond at *; omega)
    exact ⟨v, hplace, Nat.not_le.mpr hnanos⟩

end TraceText.Instant
