import TraceText.Proofs.Instant.Order
import TraceText.Proofs.Traversal
import TraceText.Record.Basic
import TraceText.Window

/-!
# How far back a window reaches

The window of a range begins a duration before the present, to the nanosecond.  There are two ways
to refuse a duration: it is longer than instants can be moved, or the instant where the window would
begin lies before the first year.  The second way covers the first, because instants can be moved by
more than there is time.  So a range is refused exactly if it is none, or if the present less its
duration lies before all instants; no duration is taken for a shorter one.

## Main definitions

* `Instant.earliest` — the first of all instants
* `Window.IsNoLonger` — a range is no longer than another one; a star is longer than any duration

## Main results

* `Instant.exists_add_neg_iff` — how far back an instant can be moved
* `Window.ofRange_exact` — which ranges are refused, and which records the others admit
-/

namespace TraceText

namespace Instant

/-- The first of all instants. -/
def earliest : Instant where
  seconds := earliestSecond
  nanos := 0
  earliest_le := Int.le_refl _
  le_latest := epoch.earliest_le.trans epoch.le_latest
  nanos_lt := epoch.nanos_lt
  leap_ends_minute := nofun

theorem earliest_le_all (t : Instant) : earliest ≤ t := by
  have hseconds := t.earliest_le
  rw [le_iff]
  change earliestSecond < t.seconds ∨ earliestSecond = t.seconds ∧ 0 ≤ t.nanos
  omega

variable {now cutoff : Instant}

/-- Out of a leap second, an instant is moved back by exactly as many nanoseconds. -/
theorem add_neg_eq_some_iff (h : now.isLeap = false) {back : Nat} :
    now.add (-back) = some cutoff ↔
      cutoff.epochNanos = now.epochNanos - back ∧ cutoff.isLeap = false := by
  rw [add_eq_some_iff, liesAt_iff_of_not_isLeap h, epochNanos, epochNanos, Int.sub_eq_add_neg]

/-- It can be moved back as long as there is time before it. -/
theorem exists_add_neg_iff (h : now.isLeap = false) {back : Nat} :
    (∃ cutoff, now.add (-back) = some cutoff) ↔
      earliest.epochNanos ≤ now.epochNanos - back := by
  have hnow : now.nanos < nanosPerSecond := by
    rw [← Bool.not_eq_true, isLeap_iff] at h
    omega
  have hstart : earliest.epochNanos = earliestSecond * nanosPerSecond := Int.add_zero _
  simp only [add_neg_eq_some_iff h]
  constructor
  · rintro ⟨cutoff, hcutoff, -⟩
    have hseconds := cutoff.earliest_le
    rw [← hcutoff, hstart, epochNanos]
    unfold nanosPerSecond
    omega
  · intro hback
    -- the second that is looked for lies between the first one and that of `now`
    obtain ⟨cutoff, hcutoff, hnanos⟩ := exists_of_between earliest now (now.epochNanos - back)
      (by
        change earliestSecond ≤ _
        rw [hstart] at hback
        unfold nanosPerSecond at *
        omega)
      (by
        rw [epochNanos]
        unfold nanosPerSecond at *
        omega)
    refine ⟨cutoff, hcutoff, ?_⟩
    rw [← Bool.not_eq_true, isLeap_iff]
    omega

/-- Instants can be moved by more than there is time. -/
theorem lt_earliest_of_maxReach_lt {back : Nat} (h : Window.maxReach < back) :
    now.epochNanos - back < earliest.epochNanos := by
  have hreach : (latestSecond - earliestSecond + 2) * nanosPerSecond ≤ Window.maxReach := by
    decide
  have hseconds := now.le_latest
  have hnanos := now.nanos_lt
  have hstart : earliest.epochNanos = earliestSecond * nanosPerSecond := Int.add_zero _
  rw [hstart, epochNanos]
  unfold nanosPerSecond at *
  omega

end Instant

namespace Window

variable {range : Text} {now : Instant} {d : Duration}

/-! ### Windows of ranges -/

/-- A range has no duration exactly if it is a star between blanks. -/
theorem readRange_eq_none_iff : readRange range = .ok none ↔ Text.trim range = ['*'] := by
  unfold readRange
  dsimp only
  split
  · next hstar => exact iff_of_true rfl hstar
  · next hstar =>
    refine iff_of_false ?_ hstar
    split <;> nofun

/-- The window of a duration begins by it before the present. -/
theorem ofRange_of_duration (h : readRange range = .ok (some d)) {w : Window} :
    ofRange range now = .ok w ↔
      d.nanos ≤ maxReach ∧ ∃ cutoff, now.add (-d.nanos) = some cutoff ∧ w = since cutoff := by
  rw [ofRange, h, bind_eq_ok_iff]
  simp only [Except.ok.injEq, exists_eq_left']
  by_cases hreach : maxReach < d.nanos
  · -- it is too long to be moved by
    rw [if_pos hreach]
    exact iff_of_false nofun fun hle => absurd hle.1 (Nat.not_le.mpr hreach)
  · rw [if_neg hreach]
    cases now.add (-d.nanos) with
    | none =>
      refine iff_of_false nofun ?_
      rintro ⟨-, _, ⟨⟩, -⟩
    | some cutoff =>
      constructor
      · rintro ⟨⟩
        exact ⟨Nat.not_lt.mp hreach, cutoff, rfl, rfl⟩
      · rintro ⟨-, _, ⟨⟩, rfl⟩
        rfl

/-- Stars and durations give windows. -/
theorem ofRange_eq_ok_iff {w : Window} :
    ofRange range now = .ok w ↔
      readRange range = .ok none ∧ w = unbounded ∨
        ∃ d, readRange range = .ok (some d) ∧ d.nanos ≤ maxReach ∧
          ∃ cutoff, now.add (-d.nanos) = some cutoff ∧ w = since cutoff := by
  constructor
  · intro h
    obtain ⟨duration, hrange, hw⟩ := bind_eq_ok_iff.mp h
    cases duration with
    | none => exact .inl ⟨hrange, (Except.ok.inj hw).symm⟩
    | some d => exact .inr ⟨d, hrange, (ofRange_of_duration hrange).mp h⟩
  · rintro (⟨hrange, rfl⟩ | ⟨d, hrange, hw⟩)
    · rw [ofRange, hrange]
      rfl
    · exact (ofRange_of_duration hrange).mpr hw

/-- Only a duration that reaches before all instants gives no window. -/
theorem exists_ofRange_iff (hnow : now.isLeap = false) :
    (∃ w, ofRange range now = .ok w) ↔
      readRange range = .ok none ∨
        ∃ d, readRange range = .ok (some d) ∧
          Instant.earliest.epochNanos ≤ now.epochNanos - d.nanos := by
  simp only [ofRange_eq_ok_iff]
  constructor
  · rintro ⟨_, ⟨hstar, -⟩ | ⟨d, hrange, -, cutoff, hcutoff, -⟩⟩
    · exact .inl hstar
    · exact .inr ⟨d, hrange, (Instant.exists_add_neg_iff hnow).mp ⟨cutoff, hcutoff⟩⟩
  · rintro (hstar | ⟨d, hrange, hback⟩)
    · exact ⟨_, .inl ⟨hstar, rfl⟩⟩
    · obtain ⟨cutoff, hcutoff⟩ := (Instant.exists_add_neg_iff hnow).mpr hback
      have hreach : d.nanos ≤ maxReach := by
        by_contra hfar
        have hbefore : now.epochNanos - d.nanos < Instant.earliest.epochNanos :=
          Instant.lt_earliest_of_maxReach_lt (Nat.not_le.mp hfar)
        exact absurd hback (Int.not_le.mpr hbefore)
      exact ⟨_, .inr ⟨d, hrange, hreach, cutoff, hcutoff, rfl⟩⟩

/-- A window admits what ends no earlier than a duration before the present. -/
theorem admits_iff (hnow : now.isLeap = false) {w : Window} (h : ofRange range now = .ok w)
    (ending : Instant) :
    w.admits ending = true ↔
      Text.trim range = ['*'] ∨
        ∃ d cutoff, readRange range = .ok (some d) ∧
          cutoff.epochNanos = now.epochNanos - d.nanos ∧ cutoff.isLeap = false ∧
          cutoff ≤ ending := by
  rw [← readRange_eq_none_iff]
  rcases ofRange_eq_ok_iff.mp h with ⟨hstar, rfl⟩ | ⟨d, hrange, -, cutoff, hcutoff, rfl⟩
  · exact iff_of_true rfl (.inl hstar)
  · obtain ⟨hplace, hleap⟩ := (Instant.add_neg_eq_some_iff hnow).mp hcutoff
    rw [admits_since, decide_eq_true_eq, hrange]
    constructor
    · intro hle
      exact .inr ⟨d, cutoff, rfl, hplace, hleap, hle⟩
    · rintro (hstar | ⟨_, other, ⟨⟩, hother, hleap, hle⟩)
      · cases hstar
      -- there is only one instant at this distance
      have hsame := (Instant.add_neg_eq_some_iff hnow).mpr ⟨hother, hleap⟩
      obtain rfl : cutoff = other := Option.some.inj (hcutoff.symm.trans hsame)
      exact hle

/-! ### Longer ranges -/

/-- One range is no longer than another one.  A star is longer than any duration. -/
def IsNoLonger (range longer : Text) : Prop :=
  ∀ d', readRange longer = .ok (some d') → ∃ d, readRange range = .ok (some d) ∧ d.nanos ≤ d'.nanos

theorem IsNoLonger.admits {longer : Text} (hlonger : IsNoLonger range longer) {w w' : Window}
    (h : ofRange range now = .ok w) (h' : ofRange longer now = .ok w') {ending : Instant}
    (hadmits : w.admits ending = true) : w'.admits ending = true := by
  rcases ofRange_eq_ok_iff.mp h' with ⟨-, rfl⟩ | ⟨d', hrange', -, cutoff', hcutoff', rfl⟩
  · rfl
  obtain ⟨d, hrange, hle⟩ := hlonger d' hrange'
  rcases ofRange_eq_ok_iff.mp h with ⟨hstar, -⟩ | ⟨_, hrange'', -, cutoff, hcutoff, rfl⟩
  · rw [hrange] at hstar
    cases hstar
  rw [hrange] at hrange''
  cases hrange''
  rw [admits_since, decide_eq_true_eq] at hadmits ⊢
  -- of two instants before the present, the one at the larger distance is the earlier one
  rw [Instant.add_eq_some_iff] at hcutoff hcutoff'
  have hearlier : cutoff' ≤ cutoff := (hcutoff'.le_iff hcutoff).mpr (by omega)
  exact hearlier.trans hadmits

/-- A range is refused if it is none, or if the present less its duration lies before all instants.
Otherwise its window admits, to the nanosecond, what ends at the present less the duration or later,
and everything if the range is a star.  So a longer range admits whatever a shorter one does. -/
theorem ofRange_exact (hnow : now.isLeap = false) (range : Text) :
    ((∃ e, ofRange range now = .error e) ↔
        (∃ e, readRange range = .error e) ∨
          ∃ d, readRange range = .ok (some d) ∧
            now.epochNanos - d.nanos < Instant.earliest.epochNanos) ∧
      (∀ w, ofRange range now = .ok w → ∀ r : Record, w.admits r.endTime = true ↔
        Text.trim range = ['*'] ∨
          ∃ d cutoff, readRange range = .ok (some d) ∧
            cutoff.epochNanos = now.epochNanos - d.nanos ∧ cutoff.isLeap = false ∧
            cutoff ≤ r.endTime) ∧
      ∀ longer, IsNoLonger range longer → ∀ w w', ofRange range now = .ok w →
        ofRange longer now = .ok w' → ∀ r : Record, w.admits r.endTime = true →
          w'.admits r.endTime = true := by
  refine ⟨?refused, ?admitted, ?longer⟩
  case refused =>
    rw [exists_error_iff, exists_ofRange_iff hnow]
    cases readRange range with
    | error e => simp
    | ok duration => cases duration <;> simp
  case admitted =>
    intro w h r
    exact admits_iff hnow h r.endTime
  case longer =>
    intro longer hlonger w w' h h' r hadmits
    exact hlonger.admits h h' hadmits

/-- From the beginning of 1970 a window can reach back to the first of all instants, so that it
admits everything, but not by a nanosecond more. -/
theorem ofRange_exact_at_earliest :
    let farthest : Text := "8334601228800s"
    let beyond : Text := "8334601228800s 1ns"
    Instant.epoch.isLeap = false ∧ ofRange farthest .epoch = .ok (since .earliest) ∧
      (∀ r : Record, (since .earliest).admits r.endTime = true) ∧
      ∃ e, ofRange beyond .epoch = .error e := by
  intro farthest beyond
  have hleap : Instant.epoch.isLeap = false := rfl
  have hfarthest : ofRange farthest .epoch = .ok (since .earliest) := by decide +kernel
  have hread : readRange farthest = .ok (some ⟨8334601228800000000000⟩) := by decide +kernel
  have hbeyond : readRange beyond = .ok (some ⟨8334601228800000000001⟩) := by decide +kernel
  refine ⟨hleap, hfarthest, ?_, ?_⟩
  · intro r
    apply ((ofRange_exact hleap farthest).2.1 _ hfarthest r).mpr
    exact .inr ⟨_, .earliest, hread, by decide, rfl, Instant.earliest_le_all r.endTime⟩
  · exact (ofRange_exact hleap beyond).1.mpr (.inr ⟨_, hbeyond, by decide⟩)

end Window

end TraceText
