import TraceText.Proofs.Template.Presence
import TraceText.Proofs.Template.Remaining

/-!
# Misapplied date patterns

A date pattern stands in front of the other parameters, and writes the instant that a placeholder
shows.  A placeholder that shows anything else is where rendering fails; one that shows nothing is
no fault.  There is no other way to fail, and the fault that is reported is the leftmost one.  So
whenever a record is rendered, each date pattern has written an instant or has met no value at all.

## Main definitions

* `Value.IsInstant`, `Value.ReadsAs` — values that stand for a point in time, and all others
* `Record.ShowsInstant`, `Record.ShowsText`, `Record.ShowsNothing` — what a reference shows
* `Placeholder.IsMisapplied` — a date pattern meets a value that is no instant

## Main results

* `Template.valueOf_eq_instant_iff`, `Template.valueOf_eq_text_iff`, `Template.valueOf_eq_none_iff`
  — a reference shows an instant, a text or nothing
* `Template.substitute_fails_iff` — a placeholder fails exactly if it is misapplied
* `Template.render_fails_iff_misapplied` — and so does a template
-/

namespace TraceText

/-! ### Values -/

namespace Value

/-- A value stands for a point in time, which it is or encodes. -/
inductive IsInstant : Value → Instant → Prop where
  | itself (t : Instant) : IsInstant (.instant t) t
  | decoded {i : Int} {unit : TimestampUnit} {t : Instant} (h : unit.toInstant? i = some t) :
      IsInstant (.int i (some unit)) t

/-- A value that stands for no point in time reads as a text, over several lines.  An integer that
is declared to be a timestamp is such a value if it encodes none. -/
inductive ReadsAs : Value → Text → Prop where
  | str (t : Text) : ReadsAs (.str t) t
  | bool (b : Bool) : ReadsAs (.bool b) (boolText b)
  | int (i : Int) : ReadsAs (.int i none) (Decimal.ofInt i)
  | undecodable {i : Int} {unit : TimestampUnit} (h : unit.toInstant? i = none) :
      ReadsAs (.int i (some unit)) (Decimal.ofInt i)
  | natural (n : Nat) : ReadsAs (.natural n) (Decimal.digits n)
  | float (x : Binary64) : ReadsAs (.float x) x.text
  | frames (entries : List Frame) : ReadsAs (.frames entries) (framesText false entries)
  | object (typeName : Text) (kind : ObjectKind) (fields : Fields) :
      ReadsAs (.object typeName kind fields) (objectText typeName fields)

variable {v : Value}

/-- An integer shows the instant that it encodes, and itself if there is none. -/
theorem render_int (oneLine : Bool) (i : Int) (declared : Option TimestampUnit) :
    (Value.int i declared).render oneLine =
      some (match (Value.int i declared).decoded? with
        | some t => .instant t
        | none => .int i) := by
  rw [render]
  cases (Value.int i declared).decoded? <;> rfl

/-- A value shows an instant exactly if it stands for it. -/
theorem render_eq_instant_iff {t : Instant} :
    v.render false = some (.instant t) ↔ v.IsInstant t := by
  constructor
  · intro h
    cases v with
    | int i declared =>
      rw [render_int] at h
      cases declared with
      | none => cases h
      | some unit =>
        apply IsInstant.decoded
        change some (match unit.toInstant? i with | some t => _ | none => _) = _ at h
        cases hdecoded : unit.toInstant? i with
        | none => rw [hdecoded] at h; cases h
        | some s => rw [hdecoded] at h; cases h; rfl
    | instant s =>
      cases h
      exact .itself t
    | _ => cases h
  · intro h
    cases h with
    | itself => rfl
    | decoded h => rw [render_int, decoded?, h]

/-- A value shows something else exactly if it reads as this text. -/
theorem render_eq_text_iff {text : Text} :
    (∃ x, v.render false = some x ∧ (∀ t, x ≠ .instant t) ∧ x.plain = text) ↔ v.ReadsAs text := by
  constructor
  · intro h
    obtain ⟨x, hx, hno, htext⟩ := h
    subst htext
    cases v with
    | null => cases hx
    | str t => cases hx; exact .str t
    | bool b => cases hx; exact .bool b
    | int i declared =>
      rw [render_int] at hx
      cases hdecoded : (Value.int i declared).decoded? with
      | some t =>
        rw [hdecoded] at hx
        exact absurd (Option.some.inj hx).symm (hno t)
      | none =>
        rw [hdecoded] at hx
        cases hx
        cases declared with
        | none => exact .int i
        | some unit => exact .undecodable hdecoded
    | natural n => cases hx; exact .natural n
    | float x => cases hx; exact .float x
    | instant t => cases hx; exact absurd rfl (hno t)
    | object typeName kind fields => cases hx; exact .object typeName kind fields
    | frames entries => cases hx; exact .frames entries
  · intro h
    cases h with
    | undecodable h =>
      refine ⟨.int _, ?_, by simp, rfl⟩
      rw [render_int, decoded?, h]
    | _ => exact ⟨_, rfl, by simp, rfl⟩

end Value

/-! ### References -/

section References

variable (source : Text) (r : Record)

/-- A reference to a field, or to a time of the record itself, that shows an instant. -/
inductive Record.ShowsInstant : Reference → Instant → Prop where
  | field {path : FieldPath} {v : Value} {t : Instant} (hshows : r.Shows path v)
      (h : v.IsInstant t) : ShowsInstant (.field path) t

/-- A reference shows a text, in a template that is written as `source`: the type of the event, the
remaining fields, or a value that is present and no instant. -/
inductive Record.ShowsText : Reference → Text → Prop where
  | eventName : ShowsText .eventName r.eventType
  | remaining : ShowsText .remaining (r.listWithout (Marker.namedFields source))
  | field {path : FieldPath} {v : Value} {text : Text} (hshows : r.Shows path v)
      (h : v.ReadsAs text) : ShowsText (.field path) text

/-- A reference to a field that is missing shows nothing. -/
inductive Record.ShowsNothing : Reference → Prop where
  | field {path : FieldPath} (hlacks : r.fields.Lacks path.segments)
      (hown : ∀ i, ¬ r.HasOwnTime path i) : ShowsNothing (.field path)

/-- A placeholder begins with a date pattern, but shows the text `found`. -/
def Placeholder.IsMisapplied (p : Placeholder) (found : Text) : Prop :=
  (∃ f, p.parameters.head? = some (.timestamp f)) ∧ r.ShowsText source p.reference found

end References

namespace Template

variable {zone : Zone} {source : Text} {t : Template} {r : Record} {reference : Reference}

theorem valueOf_eq_none_iff : t.valueOf r reference = none ↔ r.ShowsNothing reference := by
  constructor
  · intro h
    cases reference with
    | eventName => cases h
    | remaining => cases h
    | field path =>
      obtain ⟨hlacks, hown⟩ := valueOf_field_eq_none_iff.mp h
      exact .field hlacks hown
  · intro h
    cases h with
    | field hlacks hown => exact valueOf_field_eq_none_iff.mpr ⟨hlacks, hown⟩

theorem valueOf_eq_instant_iff {i : Instant} :
    t.valueOf r reference = some (.instant i) ↔ r.ShowsInstant reference i := by
  constructor
  · intro h
    cases reference with
    | eventName => cases h
    | remaining => cases h
    | field path =>
      obtain ⟨v, hshows, hv⟩ := valueOf_field_eq_some_iff.mp h
      exact .field hshows (Value.render_eq_instant_iff.mp hv)
  · intro h
    cases h with
    | field hshows hv =>
      exact valueOf_field_eq_some_iff.mpr ⟨_, hshows, Value.render_eq_instant_iff.mpr hv⟩

theorem valueOf_eq_text_iff (h : compile zone source = .ok t) {text : Text} :
    (∃ x, t.valueOf r reference = some x ∧ (∀ i, x ≠ .instant i) ∧ x.plain = text) ↔
      r.ShowsText source reference text := by
  constructor
  · intro hvalue
    obtain ⟨x, hx, hno, htext⟩ := hvalue
    cases reference with
    | eventName =>
      cases hx
      subst htext
      exact .eventName
    | remaining =>
      rw [valueOf_remaining h] at hx
      cases hx
      subst htext
      exact .remaining
    | field path =>
      obtain ⟨v, hshows, hv⟩ := valueOf_field_eq_some_iff.mp hx
      exact .field hshows (Value.render_eq_text_iff.mp ⟨x, hv, hno, htext⟩)
  · intro hshows
    cases hshows with
    | eventName => exact ⟨_, rfl, by simp, rfl⟩
    | remaining => exact ⟨_, valueOf_remaining h r, by simp, rfl⟩
    | field hshows hv =>
      obtain ⟨x, hx, hno, htext⟩ := Value.render_eq_text_iff.mpr hv
      exact ⟨x, valueOf_field_eq_some_iff.mpr ⟨_, hshows, hx⟩, hno, htext⟩

/-- A placeholder fails exactly if it is misapplied, with the text that it shows. -/
theorem substitute_fails_iff (h : compile zone source = .ok t) {p : Placeholder} {e : RenderError} :
    p.substitute (t.valueOf r p.reference) = .error e ↔
      ∃ found, p.IsMisapplied source r found ∧ e = ⟨p.source, found⟩ := by
  rw [Placeholder.substitute_eq_error_iff]
  constructor
  · intro hfails
    obtain ⟨f, x, hdate, hx, hno, he⟩ := hfails
    exact ⟨x.plain, ⟨⟨f, hdate⟩, (valueOf_eq_text_iff h).mp ⟨x, hx, hno, rfl⟩⟩, he⟩
  · intro hmisapplied
    obtain ⟨found, ⟨⟨f, hdate⟩, hshows⟩, he⟩ := hmisapplied
    obtain ⟨x, hx, hno, htext⟩ := (valueOf_eq_text_iff h).mpr hshows
    exact ⟨f, x, hdate, hx, hno, htext ▸ he⟩

/-- There is a text for every other placeholder. -/
theorem substitute_succeeds_iff (h : compile zone source = .ok t) {p : Placeholder} :
    (∃ text, p.substitute (t.valueOf r p.reference) = .ok text) ↔
      ∀ found, ¬ p.IsMisapplied source r found := by
  constructor
  · intro hok found hmisapplied
    obtain ⟨text, htext⟩ := hok
    have hfails := (substitute_fails_iff h).mpr ⟨found, hmisapplied, rfl⟩
    rw [htext] at hfails
    cases hfails
  · intro hnone
    cases hresult : p.substitute (t.valueOf r p.reference) with
    | ok text => exact ⟨text, rfl⟩
    | error e =>
      obtain ⟨found, hmisapplied, -⟩ := (substitute_fails_iff h).mp hresult
      exact absurd hmisapplied (hnone found)

/-- A date pattern of a placeholder for which there is a text is the first parameter, and has met no
value or has written an instant, on which all the other parameters work. -/
theorem dates_of_substitute {p : Placeholder} {text : Text} {f : TimestampFormat}
    (horderly : p.IsOrderly) (hf : .timestamp f ∈ p.parameters)
    (hok : p.substitute (t.valueOf r p.reference) = .ok text) :
    ∃ rest, p.parameters = .timestamp f :: rest ∧
      (r.ShowsNothing p.reference ∨
        ∃ i, r.ShowsInstant p.reference i ∧ text = Parameter.applyAll rest (f.write i)) := by
  rcases horderly.cases with ⟨g, rest, hparameters, hrest⟩ | hnone
  · -- no other date pattern stands behind the first parameter
    have hfirst : f = g := by
      rw [hparameters] at hf
      rcases List.mem_cons.mp hf with heq | hbehind
      · exact Parameter.timestamp.inj heq
      · cases hrest _ hbehind
    subst hfirst
    refine ⟨rest, hparameters, ?_⟩
    cases hvalue : t.valueOf r p.reference with
    | none =>
      left
      exact valueOf_eq_none_iff.mp hvalue
    | some x =>
      right
      rw [hvalue, Placeholder.substitute_dated hparameters] at hok
      cases x with
      | instant i => exact ⟨i, valueOf_eq_instant_iff.mp hvalue, (Except.ok.inj hok).symm⟩
      | _ => cases hok
  · cases hnone _ hf

/-- Rendering fails exactly if some placeholder begins with a date pattern and shows a text, and it
fails as the leftmost such placeholder, with its source and that text.  Otherwise each date pattern
comes first in its placeholder and has written an instant, unless the placeholder shows nothing. -/
theorem render_fails_iff_misapplied (h : compile zone source = .ok t) (r : Record) :
    (∀ e, t.render r = .error e ↔
      ∃ before p after found, t.placeholders = before ++ p :: after ∧
        (∀ q ∈ before, ∀ text, ¬ q.IsMisapplied source r text) ∧
        p.IsMisapplied source r found ∧ e = ⟨p.source, found⟩) ∧
    ((∃ text, t.render r = .ok text) ↔
      ∀ p ∈ t.placeholders, ∀ found, ¬ p.IsMisapplied source r found) ∧
    ∀ text, t.render r = .ok text → ∃ texts, t.fill texts = text ∧
      List.Forall₂ (fun (p : Placeholder) text => ∀ f, .timestamp f ∈ p.parameters →
        ∃ rest, p.parameters = .timestamp f :: rest ∧
          (r.ShowsNothing p.reference ∨
            ∃ i, r.ShowsInstant p.reference i ∧ text = Parameter.applyAll rest (f.write i)))
        t.placeholders texts := by
  have hfails (e : RenderError) : t.render r = .error e ↔
      ∃ before p after found, t.placeholders = before ++ p :: after ∧
        (∀ q ∈ before, ∀ text, ¬ q.IsMisapplied source r text) ∧
        p.IsMisapplied source r found ∧ e = ⟨p.source, found⟩ := by
    simp only [render_eq_error_iff, substitute_fails_iff h, substitute_succeeds_iff h,
      exists_and_left]
  refine ⟨hfails, ?_, ?_⟩
  · constructor
    · -- every placeholder has got its text
      intro hok p hp
      obtain ⟨text, htext⟩ := hok
      obtain ⟨texts, -, hall⟩ := render_eq_ok_iff.mp htext
      exact (substitute_succeeds_iff h).mp (exists_forall₂_iff.mp ⟨texts, hall⟩ p hp)
    · intro hnone
      cases hresult : t.render r with
      | ok text => exact ⟨text, rfl⟩
      | error e =>
        obtain ⟨before, p, after, found, hplaceholders, -, hmisapplied, -⟩ := (hfails e).mp hresult
        have hp : p ∈ t.placeholders := by
          rw [hplaceholders]
          exact List.mem_append_right _ List.mem_cons_self
        exact absurd hmisapplied (hnone p hp found)
  · -- the order of parameters is known of each placeholder of a template that compiles
    intro text htext
    obtain ⟨texts, hfill, hall⟩ := render_eq_ok_iff.mp htext
    have horderly : ∀ p ∈ t.placeholders, p.IsOrderly := by
      intro p hp
      exact (denotes_of_mem_placeholders h hp).isOrderly
    refine ⟨texts, hfill, ((List.forall₂_and_left _ _).mpr ⟨horderly, hall⟩).imp ?_⟩
    intro p text hp f hf
    exact dates_of_substitute hp.1 hf hp.2

/-- In `{endTime,dt:yyyy}{a,dt:yyyy}{n,dt:yyyy,C}{eventName,dt:yyyy}` the first date pattern writes
a time of the record itself and the second one meets nothing.  The clock of `n` does not run, so the
third one is misapplied; the last one is so too, but it is not reported. -/
theorem render_fails_iff_misapplied_undecodable :
    let source : Text :=
      "\x7bendTime,dt:yyyy\x7d\x7ba,dt:yyyy\x7d\x7bn,dt:yyyy,C\x7d\x7beventName,dt:yyyy\x7d"
    let r : Record := ⟨"log.Info", .epoch, .epoch,
      [("n".toList, .int 7 (some (.ticks ⟨0, 0, .epoch⟩)))]⟩
    ∃ t, compile .utc source = .ok t ∧ t.render r = .error ⟨"n,dt:yyyy,C", "7"⟩ := by
  intro source r
  let year : Parameter := .timestamp ⟨"yyyy", "%Y", .utc⟩
  have ht : compile .utc source = .ok ⟨source,
      [([], ⟨"endTime,dt:yyyy", .field ⟨"endTime", []⟩, [year]⟩),
        ([], ⟨"a,dt:yyyy", .field ⟨"a", []⟩, [year]⟩),
        ([], ⟨"n,dt:yyyy,C", .field ⟨"n", []⟩, [year, .upperCase]⟩),
        ([], ⟨"eventName,dt:yyyy", .eventName, [year]⟩)], []⟩ := by
    decide +kernel
  obtain ⟨hfails, -, -⟩ := render_fails_iff_misapplied ht r
  refine ⟨_, ht, (hfails _).mpr ⟨[_, _], _, [_], _, rfl, ?_, ?_, rfl⟩⟩
  · intro q hq text hmisapplied
    have hpath : ∃ path : FieldPath, q.reference = .field path ∧ path.first ≠ "n".toList := by
      rcases List.mem_pair.mp hq with rfl | rfl
      · exact ⟨_, rfl, by decide⟩
      · exact ⟨_, rfl, by decide⟩
    obtain ⟨path, hpath, hfirst⟩ := hpath
    have hshows := hmisapplied.2
    rw [hpath] at hshows
    cases hshows with
    | field hshows hreads =>
      -- there is only the field `n`, and a time of the record is no text
      cases hshows with
      | field hleads _ =>
        have hsome := hleads.isSome_get?
        rw [Fields.get?_cons, if_neg hfirst] at hsome
        cases hsome
      | ownTime _ => cases hreads
  · exact ⟨⟨_, rfl⟩, .field (.field (.last rfl) (by simp)) (.undecodable rfl)⟩

end Template

end TraceText
