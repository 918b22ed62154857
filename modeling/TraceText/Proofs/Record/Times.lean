import TraceText.Proofs.Instant.ReadBack
import TraceText.Proofs.Record.Decoding
import TraceText.Template.Render

/-!
# Times of records

A line gives the times of its record as texts: the start, possibly an end, possibly the origin of
the clock on which ticks are counted, and instants among the fields.  Wherever such a text is one
that an instant is written as, the record has just this instant, and shows it by the same text.

## Main definitions

* `Envelope.GivesEnd`, `Envelope.GivesFields` — the end and the fields that an envelope describes
* `Value.IsShownAs`, `Record.ShowsTimes` — how times are shown

## Main results

* `Record.ofEnvelope_eq_ok_iff` — the record that an envelope describes, part by part
* `Record.times_read_back` — times that are written as instants are read as these instants, and
  shown by the same texts
-/

namespace TraceText

/-! ### The parts of an envelope -/

/-- The end of a record with a given start. -/
def Envelope.GivesEnd (e : Envelope) (startTime endTime : Instant) : Prop :=
  match e.endTime with
  | some text => Instant.parse text = .ok endTime
  | none => endTime = startTime

/-- The fields of a record, on the clock of the record. -/
def Envelope.GivesFields (e : Envelope) (fields : Fields) : Prop :=
  ∃ clock, Record.clockOf e.clock = .ok clock ∧ Record.fieldsOf clock e.fields = .ok fields

theorem Envelope.givesEnd_some {e : Envelope} {text : Text} (h : e.endTime = some text)
    {startTime endTime : Instant} :
    e.GivesEnd startTime endTime ↔ Instant.parse text = .ok endTime := by
  rw [GivesEnd, h]

theorem Envelope.givesFields_of_clockOf {e : Envelope} {clock : TickClock}
    (h : Record.clockOf e.clock = .ok clock) {fields : Fields} :
    e.GivesFields fields ↔ Record.fieldsOf clock e.fields = .ok fields := by
  constructor
  · rintro ⟨other, hother, hfields⟩
    obtain rfl := Except.ok.inj (h.symm.trans hother)
    exact hfields
  · intro hfields
    exact ⟨clock, h, hfields⟩

namespace Record

/-- The record that an envelope describes has its type, its start, its end and its fields. -/
theorem ofEnvelope_eq_ok_iff {e : Envelope} {r : Record} :
    ofEnvelope e = .ok r ↔
      r.eventType = e.eventType ∧ Instant.parse e.startTime = .ok r.startTime ∧
        e.GivesEnd r.startTime r.endTime ∧ e.GivesFields r.fields := by
  obtain ⟨eventType, startTime, endTime, fields⟩ := r
  unfold ofEnvelope Envelope.GivesEnd Envelope.GivesFields
  cases e.endTime with
  | none =>
    simp only [bind_eq_ok_iff, mapError_eq_ok_iff]
    constructor
    · rintro ⟨start, hstart, _, hend, clock, hclock, _, hfields, heq⟩
      cases hend
      cases heq
      exact ⟨rfl, hstart, rfl, clock, hclock, hfields⟩
    · rintro ⟨rfl, hstart, rfl, clock, hclock, hfields⟩
      exact ⟨_, hstart, _, rfl, clock, hclock, _, hfields, rfl⟩
  | some text =>
    simp only [bind_eq_ok_iff, mapError_eq_ok_iff]
    constructor
    · rintro ⟨start, hstart, _, hend, clock, hclock, _, hfields, heq⟩
      cases heq
      exact ⟨rfl, hstart, hend, clock, hclock, hfields⟩
    · rintro ⟨rfl, hstart, hend, clock, hclock, hfields⟩
      exact ⟨_, hstart, _, hend, clock, hclock, _, hfields, rfl⟩

/-- A line describes what its envelope describes. -/
theorem decode_of_readEnvelope {line : Text} {e : Envelope}
    (h : Json.readEnvelope (Text.trim line) = .ok e) : decode line = ofEnvelope e := by
  rw [decode, h]
  rfl

end Record

/-! ### The origin of a clock -/

/-- Nothing is added to an instant. -/
theorem Instant.add_zero (t : Instant) : t.add 0 = some t := by
  have hnanos := t.nanos_lt
  have hparts : ofParts? t.seconds t.nanos = some t := ofParts?_eq_some_iff.mpr ⟨rfl, rfl⟩
  unfold add
  by_cases hleap : t.isLeap = true
  · -- the fraction stays below the end of the leap second
    have hstays : ¬ 2 * (nanosPerSecond : Int) ≤ t.nanos := by omega
    simpa [hleap, hstays] using hparts
  · have hlt : t.nanos < nanosPerSecond := by simpa [isLeap] using hleap
    have hseconds : (t.seconds * nanosPerSecond + t.nanos + 0) / nanosPerSecond = t.seconds := by
      unfold nanosPerSecond at hlt ⊢
      omega
    have hfraction :
        ((t.seconds * nanosPerSecond + t.nanos + 0) % nanosPerSecond).toNat = t.nanos := by
      unfold nanosPerSecond at hlt ⊢
      omega
    rw [if_neg hleap, ofNanos?, hseconds, hfraction]
    exact hparts

/-- A clock that runs shows its origin at the tick of the origin. -/
theorem TickClock.toInstant?_originTicks {clock : TickClock} (h : 0 < clock.ticksPerSecond) :
    clock.toInstant? clock.originTicks = some clock.originTime := by
  have hdistance : ((clock.originTicks - clock.originTicks) * 1000000000).tdiv
      clock.ticksPerSecond = 0 := by
    rw [Int.sub_self, Int.zero_mul, Int.zero_tdiv]
  have hrange : -Int.pow 2 63 ≤ 0 ∧ 0 < Int.pow 2 63 := by decide
  simp only [toInstant?, if_neg (Int.not_le.mpr h), hdistance, if_pos hrange]
  exact clock.originTime.add_zero

/-! ### How times are shown -/

/-- The text by which a value is shown behind its name and in templates. -/
structure Value.IsShownAs (v : Value) (text : Text) : Prop where
  entry : ∀ depth, v.entry depth = text
  render : ∀ oneLine, (v.render oneLine).map Resolved.plain = some text

theorem Value.isShownAs_instant (t : Instant) : (Value.instant t).IsShownAs t.rfc3339 :=
  ⟨fun _ => rfl, fun _ => rfl⟩

/-- An integer that encodes an instant is shown as the instant. -/
theorem Value.isShownAs_of_decoded {i : Int} {unit : TimestampUnit} {t : Instant}
    (h : unit.toInstant? i = some t) : (Value.int i (some unit)).IsShownAs t.rfc3339 := by
  have hdecoded : (Value.int i (some unit)).decoded? = some t := h
  constructor
  · intro depth
    simp only [entry, hdecoded]
  · intro oneLine
    simp only [render, hdecoded]
    rfl

/-- The texts by which a record shows its start and its end: in its default text, and in templates
as far as no field has the name. -/
structure Record.ShowsTimes (r : Record) (startText endText : Text) : Prop where
  text : r.text = r.eventType ++ " \x7b\n  startTime = " ++ startText ++
    "\n  endTime = " ++ endText ++ "\n" ++ fieldsText 1 r.fields ++ "\x7d"
  ownStart : (r.ownTime? ⟨"startTime".toList, []⟩).map Resolved.plain = some startText
  ownEnd : (r.ownTime? ⟨"endTime".toList, []⟩).map Resolved.plain = some endText

theorem Record.showsTimes (r : Record) :
    r.ShowsTimes r.startTime.rfc3339 r.endTime.rfc3339 :=
  ⟨rfl, rfl, rfl⟩

namespace Record

/-- An instant is read back from its text, and no other instant has this text.  A line that gives
it as the start, the end or the origin of the clock is decoded as far as its other parts are, and
the record has this instant and shows it by the same text; so does an instant among the fields. -/
theorem times_read_back {t : Instant} (h : t.HasFourDigitYear) :
    Instant.parse t.rfc3339 = .ok t ∧
    (∀ u : Instant, u.HasFourDigitYear → u ≠ t → u.rfc3339 ≠ t.rfc3339) ∧
    (∀ line e, Json.readEnvelope (Text.trim line) = .ok e →
      (e.startTime = t.rfc3339 → ∀ r, decode line = .ok r ↔
        r.eventType = e.eventType ∧ r.startTime = t ∧ e.GivesEnd t r.endTime ∧
          e.GivesFields r.fields) ∧
      (e.endTime = some t.rfc3339 → ∀ r, decode line = .ok r ↔
        r.eventType = e.eventType ∧ Instant.parse e.startTime = .ok r.startTime ∧
          r.endTime = t ∧ e.GivesFields r.fields) ∧
      ∀ clock, e.clock = some clock → clock.originTime = some t.rfc3339 →
        ∀ r, decode line = .ok r ↔
          r.eventType = e.eventType ∧ Instant.parse e.startTime = .ok r.startTime ∧
            e.GivesEnd r.startTime r.endTime ∧
            fieldsOf ⟨clock.ticksPerSecond, clock.originTicks, t⟩ e.fields = .ok r.fields) ∧
    (∀ r : Record, r.startTime = t → r.ShowsTimes t.rfc3339 r.endTime.rfc3339) ∧
    (∀ r : Record, r.endTime = t → r.ShowsTimes r.startTime.rfc3339 t.rfc3339) ∧
    (∀ rate origin, 0 < rate →
      (Value.int origin (some (.ticks ⟨rate, origin, t⟩))).IsShownAs t.rfc3339) ∧
    ∀ clock members, members.lookup "$ticks".toList = none →
      members.lookup "$epochMillis".toList = none →
      members.lookup "$instant".toList = some (.str t.rfc3339) →
      Value.ofJson clock (.object members) = .ok (.instant t) ∧
        (Value.instant t).IsShownAs t.rfc3339 := by
  have hparse : Instant.parse t.rfc3339 = .ok t := Instant.parse_rfc3339 h
  have hread : ∀ u, (Instant.parse t.rfc3339 = .ok u) ↔ u = t := by
    intro u
    rw [hparse]
    exact ⟨fun heq => (Except.ok.inj heq).symm, fun heq => congrArg Except.ok heq.symm⟩
  refine ⟨hparse, ?_, ?_, ?_, ?_, ?_, ?_⟩
  · intro u hu hne htext
    exact hne (Instant.rfc3339_inj hu h htext)
  · intro line e hline
    simp only [decode_of_readEnvelope hline, ofEnvelope_eq_ok_iff]
    refine ⟨?_, ?_, ?_⟩
    · intro hstart r
      rw [hstart, hread]
      constructor
      · rintro ⟨htype, htime, hend, hfields⟩
        exact ⟨htype, htime, htime ▸ hend, hfields⟩
      · rintro ⟨htype, htime, hend, hfields⟩
        exact ⟨htype, htime, htime.symm ▸ hend, hfields⟩
    · intro hend r
      rw [Envelope.givesEnd_some hend, hread]
    · intro clock hclock horigin r
      have hclockOf : clockOf e.clock = .ok ⟨clock.ticksPerSecond, clock.originTicks, t⟩ := by
        rw [hclock, clockOf, horigin]
        dsimp only
        rw [hparse]
        rfl
      rw [Envelope.givesFields_of_clockOf hclockOf]
  · rintro r rfl
    exact r.showsTimes
  · rintro r rfl
    exact r.showsTimes
  · intro rate origin hrate
    apply Value.isShownAs_of_decoded
    exact TickClock.toInstant?_originTicks hrate
  · intro clock members hticks hmillis hinstant
    refine ⟨?_, Value.isShownAs_instant t⟩
    have hmarked : Value.ofMarked clock members = some (.ok (.instant t)) := by
      simp only [Value.ofMarked, hticks, hmillis, hinstant, Value.text?, hparse]
      rfl
    rw [Value.ofJson, hmarked]

/-- The middle of the leap second at the end of 2016, as the start of a record. -/
theorem times_read_back_leapSecond :
    let t : Instant := ⟨1483228799, 1500000000, by decide, by decide, by decide, by decide⟩
    let line : Text := "\x7b\"type\":\"t\",\"startTime\":\"2016-12-31T23:59:60.500Z\"\x7d"
    t.HasFourDigitYear ∧ t.rfc3339 = "2016-12-31T23:59:60.500Z".toList ∧
      Instant.parse "2016-12-31T23:59:60.500Z" = .ok t ∧
      ∃ r, decode line = .ok r ∧ r.startTime = t := by
  intro t line
  have hyear : t.HasFourDigitYear := by
    unfold Instant.HasFourDigitYear
    decide +kernel
  have htext : t.rfc3339 = "2016-12-31T23:59:60.500Z".toList := by decide +kernel
  have hstart : (Json.readEnvelope (Text.trim line)).map Envelope.startTime =
      .ok "2016-12-31T23:59:60.500Z".toList := by
    decide +kernel
  have hok : (decode line).isOk = true := by decide +kernel
  obtain ⟨hparse, -, hline, -⟩ := times_read_back hyear
  refine ⟨hyear, htext, htext ▸ hparse, ?_⟩
  obtain ⟨e, hread, hgiven⟩ := map_eq_ok_iff.mp hstart
  cases hdecode : decode line with
  | error e => rw [hdecode] at hok; cases hok
  | ok r =>
    obtain ⟨-, htime, -⟩ := ((hline line e hread).1 (hgiven.trans htext.symm) r).mp hdecode
    exact ⟨r, rfl, htime⟩

end Record

end TraceText
