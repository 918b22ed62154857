import TraceText.Proofs.Record.Scalar
import TraceText.Proofs.Record.Times

/-!
# Decoded records are well formed

Whatever line a record is decoded from, the record has distinct names on each level, and below its
top none that begins with a dollar sign.  Its numbers are those that 64 bits hold: integers with a
sign, larger ones only as natural numbers, and floats that are finite.  All its ticks are counted on
one clock, the standard one if the line gives none.

## Main definitions

* `Json.Fits` — a number fits 64 bits
* `Value.IsWellFormed` — what holds of every value in a record

## Main results

* `Json.StandsAt.fits` — numbers are read only if they fit
* `Value.Mirrors.isWellFormed` — decoding passes well-formedness on, level by level
* `Record.decode_wellFormed` — decoded records are well formed
-/

namespace TraceText

open KeyedTree

/-! ### Numbers in a line -/

/-- A number fits 64 bits: an integer with or without a sign, and a float is finite. -/
def Json.Fits : Json → Prop
  | .int i => minInt ≤ i ∧ i ≤ maxNat
  | .float x => x.IsFinite
  | _ => True

/-- A number is read only if it fits 64 bits. -/
theorem Json.StandsAt.fits {line place : Text} {json : Json} (h : StandsAt line place json) :
    json.Fits := by
  obtain ⟨-, depth, rest, hread⟩ := h
  cases depth with
  | zero => cases hread
  | succ depth =>
    cases json with
    | int i =>
      have hnumber := readNumber_of_readValue (.inl ⟨i, rfl⟩) hread
      obtain ⟨lit, hlit, -, -⟩ := readNumber_eq_int_iff.mp hnumber
      exact ⟨hlit.low, hlit.high⟩
    | float x =>
      have hnumber := readNumber_of_readValue (.inr ⟨x, rfl⟩) hread
      rcases readNumber_cases hnumber with ⟨_, heq⟩ | ⟨_, hfinite, heq⟩
      · cases heq
      · cases heq
        exact hfinite
    | _ => trivial

/-! ### Values of a record -/

/-- What holds of every value in a record whose ticks are counted on a given clock.  Only integers
with a sign can be declared to be timestamps. -/
def Value.IsWellFormed (clock : TickClock) : Value → Prop
  | .int i declared =>
    Json.minInt ≤ i ∧ i ≤ Json.maxInt ∧ ∀ unit ∈ declared, unit = .epochMillis ∨ unit = .ticks clock
  | .natural n => Json.maxInt < n ∧ n ≤ Json.maxNat
  | .float x => x.IsFinite
  | .object _ _ fields => (fields.map Prod.fst).Nodup ∧ ∀ field ∈ fields, field.1.head? ≠ some '$'
  | _ => True

/-- Neither the place of an item nor a name that an object keeps begins with a dollar sign. -/
theorem Json.head?_ne_of_mem_children {json : Json} {child : Text × Json}
    (h : child ∈ json.children) : child.1.head? ≠ some '$' := by
  cases json with
  | array items =>
    obtain ⟨p, -, rfl⟩ := List.mem_map.mp h
    intro hdollar
    exact absurd (Decimal.isDigit_of_mem_digits (List.mem_of_mem_head? hdollar)) (by decide)
  | object members =>
    change child ∈ if isMarked members then [] else plainMembers members at h
    split at h
    · cases h
    · exact of_decide_eq_true (List.mem_filter.mp h).2
  | _ => cases h

namespace Value

variable {clock : TickClock} {line place : Text} {json : Json} {value : Value}

/-- The fields of a value have the names that are found in a line. -/
theorem Mirrors.names_fields (h : Mirrors clock json value)
    (hnames : (json.children.map Prod.fst).Nodup) :
    (value.children.map Prod.fst).Nodup ∧
      ∀ field ∈ value.children, field.1.head? ≠ some '$' := by
  have hchildren := h.aligned_children
  constructor
  · rw [hchildren.keys_eq]
    exact hnames
  · intro field hfield
    obtain ⟨child, hchild, hname, -⟩ := hchildren.exists_of_mem hfield
    rw [hname]
    exact Json.head?_ne_of_mem_children hchild

/-- What stands in a line is decoded to a well-formed value. -/
theorem Mirrors.isWellFormed (h : Mirrors clock json value)
    (hplace : Json.StandsAt line place json) (hnames : (json.children.map Prod.fst).Nodup) :
    value.IsWellFormed clock := by
  have hfields := h.names_fields hnames
  have hfits := hplace.fits
  cases h with
  | int hsmall =>
    refine ⟨hfits.1, hsmall, ?_⟩
    intro unit hunit
    cases hunit
  | @natural i hlarge =>
    have hnat : (i.toNat : Int) = i := by
      have hmax : (0 : Int) ≤ Json.maxInt := by decide
      omega
    rw [IsWellFormed, hnat]
    exact ⟨hlarge, hfits.2⟩
  | float x => exact hfits
  | marked _ _ hvalue =>
    rcases cases_of_ofMarked hvalue with
      ⟨i, unit, rfl, hlookup, hsmall, hunit⟩ | ⟨_, rfl⟩ | ⟨_, rfl⟩
    · -- its number stands in the line as well
      obtain ⟨before, after, rfl, -⟩ := List.lookup_eq_some_iff.mp hlookup
      obtain ⟨_, hnumber⟩ := hplace.standIn (unit.marker, .int i) (by simp)
      refine ⟨hnumber.fits.1, hsmall, ?_⟩
      rintro _ ⟨⟩
      exact hunit
    · trivial
    · trivial
  | array _ => exact hfields
  | object _ _ _ => exact hfields
  | _ => trivial

end Value

/-! ### Records -/

namespace Record

/-- A record that is decoded from a line has distinct names and well-formed values at every depth.
All its ticks are counted on the clock that the line gives, or on the standard one, and without an
end it ends when it starts. -/
theorem decode_wellFormed {line : Text} {r : Record} (h : decode line = .ok r) :
    ∃ envelope clock,
      Json.readEnvelope (Text.trim line) = .ok envelope ∧ clockOf envelope.clock = .ok clock ∧
      (envelope.clock = none → clock = .standard) ∧
      (envelope.endTime = none → r.endTime = r.startTime) ∧
      (r.fields.map Prod.fst).Nodup ∧ ∀ p ∈ positionsIn r.fields, p.2.IsWellFormed clock := by
  obtain ⟨envelope, clock, henvelope, hclock, hkeys, -, hpositions, -⟩ := decode_keeps_tree h
  have hrecord : ofEnvelope envelope = .ok r := (decode_of_readEnvelope henvelope).symm.trans h
  obtain ⟨-, -, hend, -⟩ := ofEnvelope_eq_ok_iff.mp hrecord
  obtain ⟨hnames, hdistinct⟩ := Json.distinct_of_readEnvelope henvelope
  have hnodup : ∀ q ∈ positionsIn envelope.fields, (q.2.children.map Prod.fst).Nodup :=
    forall_mem_positionsIn_iff.mpr hdistinct
  refine ⟨envelope, clock, henvelope, hclock, ?_, ?_, hkeys ▸ hnames, ?_⟩
  · intro hnone
    rw [hnone] at hclock
    exact (Except.ok.inj hclock).symm
  · intro hnone
    rw [Envelope.GivesEnd, hnone] at hend
    exact hend
  · intro p hp
    obtain ⟨q, hq, -, hmirrors⟩ := hpositions.exists_of_mem hp
    -- it is decoded from what stands in the line and has distinct names
    obtain ⟨place, hplace⟩ := (Json.standIn_of_readEnvelope henvelope).positionsIn q hq
    exact hmirrors.isWellFormed hplace (hnodup q hq)

/-- A line without a clock and without an end, with a number above those that have a sign and a
float inside of an object, and with ticks. -/
theorem decode_wellFormed_nested :
    let line : Text := "\x7b\"type\":\"t\",\"startTime\":\"2024-03-05T10:00:00Z\",\"fields\":" ++
      "\x7b\"a\":\x7b\"$b\":1,\"c\":[9223372036854775808,0.1]\x7d," ++
      "\"d\":\x7b\"$ticks\":5\x7d\x7d\x7d"
    ∃ r, decode line = .ok r ∧ r.endTime = r.startTime ∧
      ((r.fields.get? "d").bind Value.decoded?).map Instant.rfc3339 =
        some "1970-01-01T00:00:00.000000005Z".toList ∧
      ∀ p ∈ positionsIn r.fields, p.2.IsWellFormed .standard := by
  intro line
  have hticks : (decode line).map (fun r =>
        ((r.fields.get? "d").bind Value.decoded?).map Instant.rfc3339) =
      .ok (some "1970-01-01T00:00:00.000000005Z".toList) := by
    decide +kernel
  have hnone : (Json.readEnvelope (Text.trim line)).map
      (fun e => (e.clock.isNone, e.endTime.isNone)) = .ok (true, true) := by
    decide +kernel
  obtain ⟨r, hr, htext⟩ := map_eq_ok_iff.mp hticks
  obtain ⟨envelope, clock, henvelope, -, hclock, hend, -, hvalues⟩ := decode_wellFormed hr
  obtain ⟨_, hread, hparts⟩ := map_eq_ok_iff.mp hnone
  obtain rfl := Except.ok.inj (henvelope.symm.trans hread)
  obtain ⟨hnoClock, hnoEnd⟩ := Prod.mk.inj hparts
  obtain rfl := hclock (Option.isNone_iff_eq_none.mp hnoClock)
  exact ⟨r, hr, hend (Option.isNone_iff_eq_none.mp hnoEnd), htext, hvalues⟩

end Record

end TraceText
