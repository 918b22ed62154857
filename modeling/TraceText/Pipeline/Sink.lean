import TraceText.IoError

/-!
# Outputs with bounded room

An output accepts bytes until its room is used up; a write that does not fit is accepted as far as
there is room and then fails.

## Main definitions

* `Sink` — an output; `Sink.write`
-/

namespace TraceText

/-- An output. -/
structure Sink where
  /-- What has been accepted. -/
  accepted : Array UInt8
  /-- How many more bytes are accepted, if there is a bound. -/
  room : Option Nat
  /-- The failure of a write that does not fit. -/
  writeError : IoError
  /-- The failure of every flush, if flushing fails. -/
  flushError : Option IoError
  deriving DecidableEq, Inhabited

namespace Sink

/-- An output without a bound that never fails. -/
def unbounded : Sink := ⟨#[], none, default, none⟩

/-- Bytes accepted by an output, as far as there is room, and the failure if there is too little. -/
def write (s : Sink) (bytes : List UInt8) : Sink × Option IoError :=
  match s.room with
  | none => ({ s with accepted := s.accepted ++ bytes }, none)
  | some n =>
    if bytes.length ≤ n then
      ({ s with accepted := s.accepted ++ bytes, room := some (n - bytes.length) }, none)
    else
      ({ s with accepted := s.accepted ++ bytes.take n, room := some 0 }, some s.writeError)

theorem accepted_write_of_room_eq_none {s : Sink} (h : s.room = none) (bytes : List UInt8) :
    (s.write bytes).1.accepted.toList = s.accepted.toList ++ bytes ∧ (s.write bytes).2 = none := by
  simp [write, h]

theorem accepted_write_of_room_eq_some {s : Sink} {n : Nat} (h : s.room = some n)
    (bytes : List UInt8) :
    (s.write bytes).1.accepted.toList = s.accepted.toList ++ bytes.take n ∧
      ((s.write bytes).2 = none ↔ bytes.length ≤ n) := by
  by_cases hb : bytes.length ≤ n
  · simp [write, h, hb, List.take_of_length_le hb]
  · simp [write, h, hb]

end Sink

end TraceText
