import TraceText.Proofs.Json.Integer
import TraceText.Proofs.Json.Place
import TraceText.Proofs.Record.Times
import TraceText.Proofs.Template.Misapplied

/-!
# Scalars read alike everywhere

A truth value, a number and an instant are shown by one text, wherever they are shown: behind the
name of the field in the default text of a record, by a placeholder without parameters, and in the
list of fields in one line.  An integer that is declared to be a timestamp is shown as the instant
that it encodes, or as it is if there is none.

In a record that is decoded from a line, an integer is shown by the very literal that stands for it
in the line.

## Main definitions

* `Value.IsScalar` — truth values, numbers and instants
* `Record.ShowsAlike` — a field is shown by one text in three ways
* `Value.IsWrittenIn`, `Value.IsDecodedAt` — the place in a line from which a value is decoded

## Main results

* `Value.IsScalar.exists_isShownAs` — a scalar is shown by one text
* `KeyedTree.Level.fieldsText_infix` — the text of a record has those of all nested fields in it
* `Record.scalar_shown_alike` — the three ways agree with each other, and with the line
-/

namespace TraceText

open KeyedTree

/-! ### Scalars -/

namespace Value

/-- A value is a truth value, a number or an instant. -/
inductive IsScalar : Value → Prop where
  | bool (b : Bool) : IsScalar (.bool b)
  | int (i : Int) (declared : Option TimestampUnit) : IsScalar (.int i declared)
  | natural (n : Nat) : IsScalar (.natural n)
  | float (x : Binary64) : IsScalar (.float x)
  | instant (t : Instant) : IsScalar (.instant t)

/-- A value is an integer, perhaps declared to be a timestamp. -/
inductive IsInteger : Value → Prop where
  | int (i : Int) (declared : Option TimestampUnit) : IsInteger (.int i declared)
  | natural (n : Nat) : IsInteger (.natural n)

variable {v : Value} {text : Text}

theorem IsShownAs.unique {other : Text} (h : v.IsShownAs text) (h' : v.IsShownAs other) :
    text = other :=
  (h.entry 0).symm.trans (h'.entry 0)

/-- An integer that encodes no instant is shown as it is. -/
theorem isShownAs_ofInt {i : Int} {declared : Option TimestampUnit}
    (h : ∀ t, ¬ (Value.int i declared).IsInstant t) :
    (Value.int i declared).IsShownAs (Decimal.ofInt i) := by
  have hnone : (Value.int i declared).decoded? = none := by
    cases declared with
    | none => rfl
    | some unit =>
      cases hdecoded : unit.toInstant? i with
      | none => exact hdecoded
      | some t => exact absurd (.decoded hdecoded) (h t)
  constructor
  · intro depth
    simp only [entry, hnone]
  · intro oneLine
    rw [render_int, hnone]
    rfl

theorem IsInstant.isShownAs {t : Instant} (h : v.IsInstant t) : v.IsShownAs t.rfc3339 := by
  cases h with
  | itself => exact isShownAs_instant t
  | decoded h => exact isShownAs_of_decoded h

/-- A scalar is shown by one text, behind its name and in templates. -/
theorem IsScalar.exists_isShownAs (h : v.IsScalar) : ∃ text, v.IsShownAs text := by
  cases h with
  | bool b => exact ⟨boolText b, fun _ => rfl, fun _ => rfl⟩
  | int i declared =>
    by_cases hinstant : ∃ t, (Value.int i declared).IsInstant t
    · obtain ⟨t, ht⟩ := hinstant
      exact ⟨_, ht.isShownAs⟩
    · exact ⟨_, isShownAs_ofInt (not_exists.mp hinstant)⟩
  | natural n => exact ⟨Decimal.digits n, fun _ => rfl, fun _ => rfl⟩
  | float x => exact ⟨x.text, fun _ => rfl, fun _ => rfl⟩
  | instant t => exact ⟨_, isShownAs_instant t⟩

end Value

/-! ### The three ways to show a field -/

theorem fieldsText_cons (depth : Nat) (field : Text × Value) (rest : Fields) :
    fieldsText depth (field :: rest) =
      indent depth ++ field.1 ++ " = ".toList ++ field.2.entry depth ++ "\n".toList ++
        fieldsText depth rest := rfl

theorem fieldsText_append (depth : Nat) (before after : Fields) :
    fieldsText depth (before ++ after) = fieldsText depth before ++ fieldsText depth after := by
  induction before with
  | nil => rfl
  | cons field before ih => simp only [List.cons_append, fieldsText_cons, ih, List.append_assoc]

/-- What a value holds is shown behind its name, one step further to the right. -/
theorem Value.fieldsText_infix_entry (v : Value) (depth : Nat) :
    fieldsText (depth + 1) v.children <:+: v.entry depth := by
  cases v with
  | object typeName kind fields =>
    exact ⟨typeName ++ " \x7b\n".toList, indent depth ++ "\x7d".toList, by simp [entry, children]⟩
  | _ => exact List.nil_infix

/-- Wherever a chain of keys leads in a record, the fields there are shown. -/
theorem KeyedTree.Level.fieldsText_infix {fields level : Fields} {keys : List Text}
    (h : Level fields keys level) (depth : Nat) :
    fieldsText (keys.length + depth) level <:+: fieldsText depth fields := by
  induction h generalizing depth with
  | top =>
    have hdepth : ([] : List Text).length + depth = depth := Nat.zero_add depth
    exact hdepth.symm ▸ List.infix_rfl
  | @inside fields level key keys v hlookup _ ih =>
    obtain ⟨before, after, rfl, -⟩ := List.lookup_eq_some_iff.mp hlookup
    -- a level is inside of a value, which is inside of the entry of its field
    have hinner := (ih (depth + 1)).trans (v.fieldsText_infix_entry depth)
    have hentry : v.entry depth <:+: fieldsText depth (before ++ (key, v) :: after) := by
      rw [fieldsText_append, fieldsText_cons]
      exact ⟨fieldsText depth before ++ indent depth ++ key ++ " = ".toList,
        "\n".toList ++ fieldsText depth after, by simp only [List.append_assoc]⟩
    rw [List.length_cons, Nat.add_assoc, Nat.add_comm 1 depth]
    exact hinner.trans hentry

/-- Of several fields with one name, the first is found. -/
theorem Fields.get?_of_forall_ne {before after : Fields} {key : Text} {v : Value}
    (hfirst : ∀ field ∈ before, field.1 ≠ key) :
    Fields.get? (before ++ (key, v) :: after) key = some v :=
  List.lookup_eq_some_iff.mpr
    ⟨before, after, rfl, fun field hfield => bne_iff_ne.mpr (hfirst field hfield).symm⟩

theorem Fields.not_leads_nil {keys : List Text} {v : Value} : ¬ Fields.Leads [] keys v := by
  intro h
  cases h with
  | last h => cases h
  | step h _ => cases h

/-- A field behind a chain of keys is found by the path with these keys. -/
theorem KeyedTree.Level.leads {fields level : Fields} {keys : List Text} {key : Text} {v : Value}
    (h : Level fields keys level) (hget : level.get? key = some v) :
    fields.Leads (keys ++ [key]) v := by
  induction h with
  | top => exact .last hget
  | @inside fields level first keys w hlookup _ ih =>
    cases w with
    | object typeName kind inner => exact .step hlookup (ih hget)
    | _ => exact absurd (ih hget) Fields.not_leads_nil

/-- A placeholder without parameters shows the field to which its path leads. -/
theorem Template.substitute_of_leads (t : Template) {r : Record} {p : Placeholder}
    {path : FieldPath} {v : Value} {x : Resolved} (hparameters : p.parameters = [])
    (hreference : p.reference = .field path) (hleads : r.fields.Leads path.segments v)
    (hx : v.render false = some x) :
    p.substitute (t.valueOf r p.reference) = .ok x.plain := by
  have hvalue : t.valueOf r p.reference = some x := by
    rw [hreference]
    refine valueOf_field_eq_some_iff.mpr ⟨v, .field hleads ?_, hx⟩
    rintro rfl
    cases hx
  rw [hvalue, Placeholder.substitute_undated (by simp [hparameters]), hparameters,
    Parameter.applyAll_nil]

/-- A field is shown by one text: behind its name in the default text of the record, by any
placeholder without parameters that names it, and behind its name in one line.  The keys `parents`
lead to the field, which stands between the fields `before` and `after`. -/
structure Record.ShowsAlike (r : Record) (parents : List Text) (before after : Fields) (key : Text)
    (v : Value) (text : Text) : Prop where
  default : fieldsText (parents.length + 1) before ++
    (indent (parents.length + 1) ++ key ++ " = ".toList ++ text ++ "\n".toList) ++
      fieldsText (parents.length + 1) after <:+: r.text
  placeholder : ∀ (t : Template) (p : Placeholder) (path : FieldPath), p.parameters = [] →
    p.reference = .field path → path.segments = parents ++ [key] →
    p.substitute (t.valueOf r p.reference) = .ok text
  compact : ∀ isIncluded : Text → Bool, isIncluded key = true →
    compactFields isIncluded (before ++ (key, v) :: after) =
      Text.join ", ".toList (compactEntries (before.filter fun field => isIncluded field.1) ++
        (key ++ ':' :: text) :: compactEntries (after.filter fun field => isIncluded field.1))

/-- Whatever is shown by one text behind its name and in templates is so wherever it is. -/
theorem Value.IsShownAs.showsAlike {r : Record} {parents : List Text} {before after : Fields}
    {key : Text} {v : Value} {text : Text} (h : v.IsShownAs text)
    (hlevel : Level r.fields parents (before ++ (key, v) :: after))
    (hfirst : ∀ field ∈ before, field.1 ≠ key) :
    r.ShowsAlike parents before after key v text := by
  constructor
  · have hfields : fieldsText 1 r.fields <:+: r.text :=
      ⟨_, "\x7d".toList, rfl⟩
    have hinfix := (hlevel.fieldsText_infix 1).trans hfields
    rw [fieldsText_append, fieldsText_cons, h.entry] at hinfix
    simpa only [List.append_assoc] using hinfix
  · intro t p path hparameters hreference hpath
    obtain ⟨x, hx, htext⟩ := Option.map_eq_some_iff.mp (h.render false)
    have hleads : r.fields.Leads path.segments v :=
      hpath ▸ hlevel.leads (Fields.get?_of_forall_ne hfirst)
    rw [← htext]
    exact t.substitute_of_leads hparameters hreference hleads hx
  · intro isIncluded hkey
    obtain ⟨x, hx, htext⟩ := Option.map_eq_some_iff.mp (h.render true)
    have hfield : compactField key (v.render true) = key ++ ':' :: text := by
      rw [compactField_render, Value.textInLine, hx, ← htext]
    have hincluded : ((key, v) :: after).filter (fun field => isIncluded field.1) =
        (key, v) :: after.filter fun field => isIncluded field.1 :=
      List.filter_cons_of_pos hkey
    rw [compactFields, List.filter_append, hincluded, compactEntries_eq_map, List.map_append,
      List.map_cons, hfield, ← compactEntries_eq_map, ← compactEntries_eq_map]

/-! ### Scalars in a line -/

/-- The member of an object that encodes a timestamp. -/
def TimestampUnit.marker : TimestampUnit → Text
  | .ticks _ => "$ticks"
  | .epochMillis => "$epochMillis"

namespace Value

/-- The part of a JSON value in which a value is written: the number behind a marker key, if it is
declared to be a timestamp, and the whole of it otherwise. -/
inductive IsWrittenIn : Value → Json → Json → Prop where
  | whole {v : Value} {json : Json} (h : ∀ i unit, v ≠ .int i (some unit)) : IsWrittenIn v json json
  | timestamp {i : Int} {unit : TimestampUnit} {members : List (Text × Json)} {number : Json}
      (h : members.lookup unit.marker = some number) :
      IsWrittenIn (.int i (some unit)) (.object members) number

/-- A line has a value behind a chain of keys, and the part of it in which a value of the record is
written stands at a place of the line. -/
def IsDecodedAt (v : Value) (line : Text) (parents : List Text) (key place : Text) : Prop :=
  ∃ (envelope : Envelope) (clock : TickClock) (members : List (Text × Json)) (json part : Json),
    Json.readEnvelope (Text.trim line) = .ok envelope ∧
    Record.clockOf envelope.clock = .ok clock ∧
    Level envelope.fields parents members ∧ members.lookup key = some json ∧
    Encodes clock json v ∧ v.IsWrittenIn json part ∧ Json.StandsAt (Text.trim line) place part

variable {clock : TickClock}

theorem eq_int_of_int64? {json : Json} {i : Int} (h : int64? json = some i) :
    json = .int i ∧ i ≤ Json.maxInt := by
  unfold int64? at h
  split at h
  · split at h
    · next hfits =>
      obtain rfl := Option.some.inj h
      exact ⟨rfl, hfits⟩
    · cases h
  · cases h

/-- An object with a marker key is decoded to a timestamp, which has its number behind the key, to
an instant or to a stack trace.  Ticks are counted on the given clock. -/
theorem cases_of_ofMarked {members : List (Text × Json)} {v : Value}
    (h : ofMarked clock members = some (.ok v)) :
    (∃ i unit, v = .int i (some unit) ∧ members.lookup unit.marker = some (.int i) ∧
        i ≤ Json.maxInt ∧ (unit = .epochMillis ∨ unit = .ticks clock)) ∨
      (∃ t, v = .instant t) ∨ ∃ entries, v = .frames entries := by
  unfold ofMarked at h
  split at h
  · next hlookup =>
    replace h := Option.some.inj h
    split at h
    · next hint =>
      cases h
      obtain ⟨rfl, hfits⟩ := eq_int_of_int64? hint
      exact .inl ⟨_, _, rfl, hlookup, hfits, .inr rfl⟩
    · cases h
  split at h
  · next hlookup =>
    replace h := Option.some.inj h
    split at h
    · next hint =>
      cases h
      obtain ⟨rfl, hfits⟩ := eq_int_of_int64? hint
      exact .inl ⟨_, _, rfl, hlookup, hfits, .inl rfl⟩
    · cases h
  split at h
  · replace h := Option.some.inj h
    split at h
    · obtain ⟨t, -, rfl⟩ := map_eq_ok_iff.mp h
      exact .inr (.inl ⟨t, rfl⟩)
    · cases h
  split at h
  · obtain ⟨entries, -, rfl⟩ := map_eq_ok_iff.mp (Option.some.inj h)
    exact .inr (.inr ⟨entries, rfl⟩)
  · cases h

/-- A timestamp is decoded from an object with its number behind its marker key. -/
theorem Encodes.exists_marker {json : Json} {i : Int} {unit : TimestampUnit}
    (h : Encodes clock json (.int i (some unit))) :
    ∃ members, json = .object members ∧ members.lookup unit.marker = some (.int i) := by
  cases mirrors_of_encodes h with
  | marked _ _ hvalue =>
    rcases cases_of_ofMarked hvalue with ⟨_, _, heq, hlookup, -⟩ | ⟨_, heq⟩ | ⟨_, heq⟩
    · cases heq
      exact ⟨_, rfl, hlookup⟩
    · cases heq
    · cases heq

/-- A value that is decoded is written in some part of what it is decoded from, and this part stands
in the line as well. -/
theorem Encodes.exists_isWrittenIn {line place : Text} {json : Json} {v : Value}
    (h : Encodes clock json v) (hplace : Json.StandsAt line place json) :
    ∃ part here, v.IsWrittenIn json part ∧ Json.StandsAt line here part := by
  by_cases htimestamp : ∃ i unit, v = .int i (some unit)
  · obtain ⟨i, unit, rfl⟩ := htimestamp
    obtain ⟨members, rfl, hlookup⟩ := h.exists_marker
    obtain ⟨before, after, rfl, -⟩ := List.lookup_eq_some_iff.mp hlookup
    obtain ⟨here, hhere⟩ := hplace.standIn (unit.marker, .int i) (by simp)
    exact ⟨.int i, here, .timestamp hlookup, hhere⟩
  · refine ⟨json, place, .whole ?_, hplace⟩
    intro i unit hv
    exact htimestamp ⟨i, unit, hv⟩

/-- What is written as an integer is this integer, declared to be a timestamp or not. -/
theorem IsWrittenIn.eq_int {json : Json} {v : Value} {i : Int} (h : v.IsWrittenIn json (.int i))
    (hencodes : Encodes clock json v) :
    (∃ declared, v = .int i declared) ∨ 0 ≤ i ∧ v = .natural i.toNat := by
  cases h with
  | whole _ =>
    cases mirrors_of_encodes hencodes with
    | int _ => exact .inl ⟨none, rfl⟩
    | natural hlarge =>
      have hmax : 0 ≤ Json.maxInt := by decide
      exact .inr ⟨by omega, rfl⟩
  | @timestamp _ unit _ _ h =>
    obtain ⟨members, heq, hlookup⟩ := hencodes.exists_marker
    cases heq
    obtain rfl := Json.int.inj (Option.some.inj (hlookup.symm.trans h))
    exact .inl ⟨some unit, rfl⟩

theorem IsWrittenIn.isInteger {json : Json} {v : Value} {i : Int}
    (h : v.IsWrittenIn json (.int i)) (hencodes : Encodes clock json v) : v.IsInteger := by
  rcases h.eq_int hencodes with ⟨declared, rfl⟩ | ⟨-, rfl⟩
  · exact .int i declared
  · exact .natural _

/-- And an integer is written as one. -/
theorem IsWrittenIn.exists_int {json part : Json} {v : Value} (h : v.IsWrittenIn json part)
    (hencodes : Encodes clock json v) (hv : v.IsInteger) : ∃ i, part = .int i := by
  cases h with
  | whole hplain =>
    cases mirrors_of_encodes hencodes with
    | int _ => exact ⟨_, rfl⟩
    | natural _ => exact ⟨_, rfl⟩
    | marked _ _ hvalue =>
      -- of what has a marker key, only timestamps are integers
      rcases cases_of_ofMarked hvalue with ⟨i, unit, rfl, -⟩ | ⟨_, rfl⟩ | ⟨_, rfl⟩
      · exact absurd rfl (hplain i unit)
      · cases hv
      · cases hv
    | _ => cases hv
  | timestamp h =>
    obtain ⟨members, heq, hlookup⟩ := hencodes.exists_marker
    cases heq
    exact ⟨_, Option.some.inj (h.symm.trans hlookup)⟩

/-- A value that is written as an integer is shown as this integer, unless it encodes an instant. -/
theorem IsWrittenIn.isShownAs {json : Json} {v : Value} {i : Int}
    (h : v.IsWrittenIn json (.int i)) (hencodes : Encodes clock json v)
    (hinstant : ∀ t, ¬ v.IsInstant t) : v.IsShownAs (Decimal.ofInt i) := by
  rcases h.eq_int hencodes with ⟨declared, rfl⟩ | ⟨hnonneg, rfl⟩
  · exact isShownAs_ofInt hinstant
  · have htext : Decimal.ofInt i = Decimal.digits i.toNat := by
      rw [← Decimal.ofInt_natCast, Int.toNat_of_nonneg hnonneg]
    rw [htext]
    exact ⟨fun _ => rfl, fun _ => rfl⟩

end Value

/-- Every field of a record that is decoded from a line, at whatever depth, is decoded from some
place of the line. -/
theorem Record.exists_isDecodedAt {r : Record} {line : Text} (hline : decode line = .ok r)
    {parents : List Text} {level : Fields} {key : Text} {v : Value}
    (hlevel : Level r.fields parents level) (hget : level.get? key = some v) :
    ∃ place, v.IsDecodedAt line parents key place := by
  obtain ⟨envelope, henvelope, hrecord⟩ := bind_eq_ok_iff.mp hline
  replace henvelope := mapError_eq_ok_iff.mp henvelope
  obtain ⟨clock, hclock, hfields⟩ := fieldsOf_of_ofEnvelope hrecord
  have hstep (json : Json) (v : Value) (h : Value.Encodes clock json v) :
      Aligned (Value.Encodes clock) (KeyedTree.children json) (KeyedTree.children v) :=
    (Value.mirrors_of_encodes h).aligned_children
  -- the same keys lead through the line and through the record
  obtain ⟨members, hmembers, haligned⟩ := hlevel.exists_aligned hstep (aligned_fieldsOf hfields)
  obtain ⟨json, hjson, hencodes⟩ := haligned.exists_lookup hget
  have hstand : Json.StandIn (Text.trim line) members :=
    hmembers.forall_mem (P := fun json => ∃ place, Json.StandsAt (Text.trim line) place json)
      (fun _ ⟨_, h⟩ => h.standIn_children) (Json.standIn_of_readEnvelope henvelope)
  obtain ⟨before, after, rfl, -⟩ := List.lookup_eq_some_iff.mp hjson
  obtain ⟨place, hplace⟩ := hstand (key, json) (by simp)
  obtain ⟨part, here, hpart, hhere⟩ := hencodes.exists_isWrittenIn hplace
  exact ⟨here, envelope, clock, _, json, part, henvelope, hclock, hmembers, hjson, hencodes, hpart,
    hhere⟩

namespace Record

/-- A scalar among the fields of a record, at whatever depth, is shown by one text in the default
text of the record, in templates and in one line; if it is an instant or encodes one, this is the
text of the instant.  In a record that is decoded from a line, it is decoded from some place of the
line.  If it encodes no instant, the literal of an integer stands at this place exactly if it is an
integer, and the literal is its text. -/
theorem scalar_shown_alike {r : Record} {parents : List Text} {before after : Fields} {key : Text}
    {v : Value} (hlevel : Level r.fields parents (before ++ (key, v) :: after))
    (hfirst : ∀ field ∈ before, field.1 ≠ key) (hscalar : v.IsScalar) :
    ∃ text, r.ShowsAlike parents before after key v text ∧
      (∀ t, v.IsInstant t → text = t.rfc3339) ∧
      ∀ line, decode line = .ok r →
        (∃ place, v.IsDecodedAt line parents key place) ∧
        ∀ place, v.IsDecodedAt line parents key place → (∀ t, ¬ v.IsInstant t) →
          ∀ lit, (∃ i, Json.LiteralAt place lit i) ↔ v.IsInteger ∧ text = lit := by
  obtain ⟨text, htext⟩ := hscalar.exists_isShownAs
  refine ⟨text, htext.showsAlike hlevel hfirst, fun t ht => htext.unique ht.isShownAs, ?_⟩
  intro line hline
  refine ⟨exists_isDecodedAt hline hlevel (Fields.get?_of_forall_ne hfirst), ?_⟩
  intro place hplace hinstant lit
  obtain ⟨_, clock, _, json, part, -, -, -, -, hencodes, hpart, -, depth, rest, hread⟩ := hplace
  cases depth with
  | zero => cases hread
  | succ depth =>
    -- an integer is shown by the literal by which it is read
    have hshown {lit : Text} {i : Int} (hi : Json.LiteralAt place lit i) (hpart' : part = .int i) :
        text = lit := by
      subst hpart'
      obtain ⟨_, hexact, -, -⟩ := hi
      rw [← hexact.ofInt_eq]
      exact htext.unique (hpart.isShownAs hencodes hinstant)
    constructor
    · intro hliteral
      obtain ⟨i, hi⟩ := hliteral
      obtain ⟨rest', hinteger⟩ := Json.readValue_eq_int_iff.mpr ⟨lit, hi⟩
      obtain ⟨rfl, -⟩ := Prod.mk.inj (Except.ok.inj (hread.symm.trans hinteger))
      exact ⟨hpart.isInteger hencodes, hshown hi rfl⟩
    · intro hinteger
      obtain ⟨hv, rfl⟩ := hinteger
      obtain ⟨i, rfl⟩ := hpart.exists_int hencodes hv
      obtain ⟨lit, hi⟩ := Json.readValue_eq_int_iff.mp ⟨rest, hread⟩
      exact ⟨i, hshown hi rfl ▸ hi⟩

/-- Whether decoding leads to a record with a single field, an object `a` that holds a truth value
as `b` and the largest integer of 64 bits as `n`. -/
def holdsLargest : Except DecodeError Record → Bool
  | .ok ⟨_, _, _, [(a, .object _ _ [(b, .bool true), (n, .natural i)])]⟩ =>
    decide (a = "a".toList ∧ b = "b".toList ∧ n = "n".toList ∧ i = 18446744073709551615)
  | _ => false

/-- The largest integer of 64 bits, inside of an object. -/
theorem scalar_shown_alike_largest :
    let line : Text := "\x7b\"type\":\"t\",\"startTime\":\"2024-03-05T10:00:00Z\"," ++
      "\"fields\":\x7b\"a\":\x7b\"b\":true,\"n\": 18446744073709551615\x7d\x7d\x7d"
    ∃ r place, decode line = .ok r ∧
      r.ShowsAlike ["a"] [("b", .bool true)] [] "n" (.natural 18446744073709551615)
        "18446744073709551615" ∧
      (Value.natural 18446744073709551615).IsDecodedAt line ["a"] "n" place ∧
      ∃ i, Json.LiteralAt place "18446744073709551615" i := by
  intro line
  have hshape : holdsLargest (decode line) = true := by decide +kernel
  unfold holdsLargest at hshape
  split at hshape
  · next eventType startTime endTime a typeName kind b n i hdecode =>
    obtain ⟨rfl, rfl, rfl, rfl⟩ := of_decide_eq_true hshape
    have hlevel : Level [("a".toList, Value.object typeName kind
        [("b".toList, .bool true), ("n".toList, .natural 18446744073709551615)])] ["a".toList]
          ([("b".toList, .bool true)] ++ ("n".toList, .natural 18446744073709551615) :: []) :=
      .inside rfl (.top _)
    obtain ⟨text, halike, -, hline⟩ := scalar_shown_alike
      (r := ⟨eventType, startTime, endTime, _⟩) hlevel (by decide) (.natural _)
    obtain ⟨⟨place, hplace⟩, hliteral⟩ := hline line hdecode
    have hshown := halike.placeholder ⟨[], [], []⟩ ⟨[], .field ⟨"a", ["n"]⟩, []⟩ _ rfl rfl rfl
    have htext : text = "18446744073709551615".toList := Except.ok.inj hshown.symm
    subst htext
    have hinstant (t : Instant) : ¬ (Value.natural 18446744073709551615).IsInstant t := by
      intro ht
      cases ht
    exact ⟨_, place, hdecode, halike, hplace,
      (hliteral place hplace hinstant _).mpr ⟨.natural _, rfl⟩⟩
  · cases hshape

end Record

end TraceText
