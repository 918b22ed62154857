import TraceText.Duration
import TraceText.Instant.Basic

/-!
# Time windows

A range tells how far back from the present a window reaches: a duration, or a star for no bound.
The window admits what ends at or after its cutoff.

## Main definitions

* `Window` — an optional cutoff; `Window.admits`
* `RangeError` — why a text is no range
* `Window.readRange` — the duration of a range
* `Window.ofRange` — the window of a range at a given present time
-/

namespace TraceText

/-- A window in time, open to the future. -/
structure Window where
  /-- The earliest end that is admitted, if there is a bound. -/
  cutoff : Option Instant
  deriving DecidableEq, Inhabited

/-- Why a range gives no window, with the range as it is reported. -/
structure RangeError where
  range : Text
  reason : Text
  deriving DecidableEq, Repr

/-- The wording of a refused range. -/
def RangeError.message (e : RangeError) : Text :=
  "Invalid range '" ++ e.range ++ "': " ++ e.reason

namespace Window

/-- The window without a bound. -/
def unbounded : Window := ⟨none⟩

/-- The window that begins at an instant. -/
def since (cutoff : Instant) : Window := ⟨some cutoff⟩

/-- Whether something that ends at this instant is admitted. -/
def admits (w : Window) (ending : Instant) : Bool :=
  match w.cutoff with
  | some cutoff => decide (cutoff ≤ ending)
  | none => true

@[simp] theorem admits_unbounded (ending : Instant) : unbounded.admits ending = true := rfl

@[simp] theorem admits_since (cutoff ending : Instant) :
    (since cutoff).admits ending = decide (cutoff ≤ ending) := rfl

/-- The duration of a range, none for a star.  Blanks around it and letter case do not matter. -/
def readRange (range : Text) : Except RangeError (Option Duration) :=
  let trimmed := Text.trim range
  if trimmed = ['*'] then .ok none
  else match Duration.read (Text.lower trimmed) with
    | .ok d => .ok (some d)
    | .error e => .error ⟨trimmed, e.message⟩

/-- The longest duration, in nanoseconds, by which an instant can be moved. -/
def maxReach : Nat := (Nat.pow 2 63 - 1) * 1000000

/-- The window of a range that reaches back from `now`. -/
def ofRange (range : Text) (now : Instant) : Except RangeError Window := do
  match ← readRange range with
  | none => return unbounded
  | some d =>
    if maxReach < d.nanos then throw ⟨range, "duration is too large"⟩
    match now.add (-d.nanos) with
    | some cutoff => return since cutoff
    | none => throw ⟨range, "duration reaches before the supported time range"⟩

end Window

end TraceText
