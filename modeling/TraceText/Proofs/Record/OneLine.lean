import TraceText.Proofs.Tree
import TraceText.Template.Render

/-!
# Fields in one line

Where a field is shown in one line, the line feeds of a string become spaces, and numbers, instants
and stack traces have none but those in the names of types and methods.  A short name is shown as it
stands, though.  So a line is broken exactly where the short name of an object is a string with a
line feed in it, or is taken from another object, whose text always has several lines.

## Main definitions

* `Value.NamesInLine`, `Fields.NamesInLine` — no name at any depth has a line feed
* `Value.BreaksLine` — a value shows, at some depth, a short name that breaks the line

## Main results

* `Value.lineFeed_mem_render` — the text of a value in one line has a line feed if and only if it
  shows a short name that does
* `Record.oneLine_breaks_iff` — the same for all fields of a record, and for lists of them
-/

namespace TraceText

open KeyedTree

/-! ### Texts without line feeds -/

namespace Text

theorem mem_join {c : Char} {sep : Text} (h : c ∉ sep) (pieces : List Text) :
    c ∈ join sep pieces ↔ ∃ piece ∈ pieces, c ∈ piece := by
  induction pieces with
  | nil => simp
  | cons piece rest ih =>
    cases rest with
    | nil => simp
    | cons next rest =>
      rw [join_cons_cons, List.mem_append, List.mem_append, ih]
      simp [h]

end Text

/-- Digits are no line feeds. -/
theorem lineFeed_not_mem_of_isDigit {t : Text} (h : ∀ c ∈ t, c.isDigit = true) : '\n' ∉ t := by
  intro hmem
  exact absurd (h '\n' hmem) (by decide)

namespace Decimal

theorem lineFeed_not_mem_digits (n : Nat) : '\n' ∉ digits n :=
  lineFeed_not_mem_of_isDigit fun _ => isDigit_of_mem_digits

theorem lineFeed_not_mem_padded (width n : Nat) : '\n' ∉ padded width n :=
  lineFeed_not_mem_of_isDigit fun _ => isDigit_of_mem_padded

theorem lineFeed_not_mem_ofInt (i : Int) : '\n' ∉ ofInt i := by
  unfold ofInt
  split
  · simp [lineFeed_not_mem_digits]
  · exact lineFeed_not_mem_digits _

theorem lineFeed_not_mem_point {ds : Text} (h : '\n' ∉ ds) (e : Int) : '\n' ∉ point ds e := by
  have htake : ∀ n, '\n' ∉ ds.take n := fun n hmem => h (List.mem_of_mem_take hmem)
  have hdrop : ∀ n, '\n' ∉ ds.drop n := fun n hmem => h (List.mem_of_mem_drop hmem)
  unfold point
  split
  · simp [h]
  · dsimp only
    split
    · simp [htake, hdrop]
    · simp [h]

end Decimal

theorem Binary64.lineFeed_not_mem_text (x : Binary64) : '\n' ∉ x.text := by
  cases x with
  | nan => decide
  | infinite negative => cases negative <;> decide
  | finite negative m q =>
    have hsign : ∀ t : Text, '\n' ∉ t → '\n' ∉ (if negative then ['-'] else [] : Text) ++ t := by
      intro t ht
      cases negative <;> simp [ht]
    simp only [text, Decimal.Layout.write]
    split
    · exact hsign _ (by decide)
    · exact hsign _ (Decimal.lineFeed_not_mem_point (Decimal.lineFeed_not_mem_digits _) _)

theorem Rfc3339.lineFeed_not_mem_dateText (d : Date) : '\n' ∉ dateText d := by
  have hyear : '\n' ∉ yearText d.year := by
    unfold yearText
    split
    · exact Decimal.lineFeed_not_mem_padded _ _
    · split <;> simp [Decimal.lineFeed_not_mem_padded]
  simp [dateText, hyear, Decimal.lineFeed_not_mem_padded]

theorem Rfc3339.lineFeed_not_mem_timeText (l : LocalTime) : '\n' ∉ timeText l := by
  have hfraction : ∀ n, '\n' ∉ fractionText n := by
    intro n
    unfold fractionText
    split
    · exact List.not_mem_nil
    · split
      · simp [Decimal.lineFeed_not_mem_padded]
      · split <;> simp [Decimal.lineFeed_not_mem_padded]
  simp [timeText, hfraction, Decimal.lineFeed_not_mem_padded]

theorem Instant.lineFeed_not_mem_rfc3339 (t : Instant) : '\n' ∉ t.rfc3339 := by
  simp [rfc3339, Rfc3339.lineFeed_not_mem_dateText, Rfc3339.lineFeed_not_mem_timeText]

theorem lineFeed_not_mem_boolText (b : Bool) : '\n' ∉ boolText b := by
  cases b <;> decide

/-! ### Names and short names -/

/-- The names that an entry of a stack trace shows have no line feed. -/
def Frame.InLine (f : Frame) : Prop := '\n' ∉ f.typeName ∧ '\n' ∉ f.method

theorem Frame.InLine.lineFeed_not_mem_text {f : Frame} (h : f.InLine) : '\n' ∉ f.text := by
  simp [text, h.1, h.2, Decimal.lineFeed_not_mem_ofInt]

theorem lineFeed_not_mem_join_frames {entries : List Frame} (h : ∀ f ∈ entries, f.InLine) :
    '\n' ∉ Text.join ", " (entries.map Frame.text) := by
  have hsep : '\n' ∉ (", " : Text) := by decide
  rw [Text.mem_join hsep]
  rintro ⟨piece, hpiece, hmem⟩
  obtain ⟨f, hf, rfl⟩ := List.mem_map.mp hpiece
  exact (h f hf).lineFeed_not_mem_text hmem

namespace Value

/-- The names that a value adds to those inside of it have no line feed. -/
def OwnNamesInLine : Value → Prop
  | .object _ _ fields => ∀ field ∈ fields, '\n' ∉ field.1
  | .frames entries => ∀ f ∈ entries, f.InLine
  | _ => True

/-- No name at any depth of a value has a line feed: neither those of fields nor those of types and
methods in stack traces. -/
def NamesInLine : Value → Prop := Everywhere OwnNamesInLine

theorem NamesInLine.field {typeName : Text} {kind : ObjectKind} {fields : Fields}
    (h : (object typeName kind fields).NamesInLine) {field : Text × Value}
    (hmem : field ∈ fields) : '\n' ∉ field.1 ∧ field.2.NamesInLine :=
  ⟨Everywhere.self h field hmem, Everywhere.child h hmem⟩

/-- A value that breaks the line where it is shown as a short name. -/
def IsBrokenName : Value → Prop
  | .str t => '\n' ∈ t
  | .object _ _ _ => True
  | _ => False

/-- A value shows, at some depth, a short name that breaks the line. -/
inductive BreaksLine : Value → Prop where
  | shortName {typeName : Text} {kind : ObjectKind} {fields : Fields} {name : Text} {value : Value}
      (hname : kind.nameField = some name) (hvalue : fields.get? name = some value)
      (hbroken : value.IsBrokenName) : BreaksLine (.object typeName kind fields)
  | field {typeName : Text} {fields : Fields} {name : Text} {value : Value}
      (hmem : (name, value) ∈ fields) (hbreaks : BreaksLine value) :
      BreaksLine (.object typeName .generic fields)

/-- As bare text, nothing has a line feed but a string with one in it and an object. -/
theorem lineFeed_mem_plain {v : Value} (h : v.OwnNamesInLine) :
    '\n' ∈ v.plain ↔ v.IsBrokenName := by
  cases v with
  | null => simp only [plain, IsBrokenName, iff_false]; decide
  | bool b => simp only [plain, IsBrokenName, iff_false]; exact lineFeed_not_mem_boolText b
  | int i declared =>
    simp only [plain, IsBrokenName, iff_false]
    exact Decimal.lineFeed_not_mem_ofInt i
  | natural n => simp only [plain, IsBrokenName, iff_false]; exact Decimal.lineFeed_not_mem_digits n
  | float x => simp only [plain, IsBrokenName, iff_false]; exact x.lineFeed_not_mem_text
  | str t => exact Iff.rfl
  | instant t => simp only [plain, IsBrokenName, iff_false]; exact t.lineFeed_not_mem_rfc3339
  | object typeName kind fields => simp [plain, objectText, IsBrokenName]
  | frames entries =>
    simp only [plain, IsBrokenName, iff_false]
    exact lineFeed_not_mem_join_frames h

end Value

theorem ObjectKind.shortName?_eq_some_iff {kind : ObjectKind} {fields : Fields} {t : Text} :
    kind.shortName? fields = some t ↔
      ∃ name value, kind.nameField = some name ∧ fields.get? name = some value ∧
        value ≠ .null ∧ value.plain = t := by
  unfold shortName?
  cases kind.nameField with
  | none => simp
  | some name =>
    cases hget : fields.get? name with
    | none => simp [hget]
    | some value => cases value <;> simp [hget]

theorem Fields.mem_of_get?_eq_some {fields : Fields} {name : Text} {value : Value}
    (h : fields.get? name = some value) : (name, value) ∈ fields := by
  induction fields with
  | nil => cases h
  | cons field rest ih =>
    obtain ⟨known, other⟩ := field
    rw [get?_cons] at h
    split at h
    · next heq =>
      subst heq
      obtain rfl : other = value := Option.some.inj h
      exact List.mem_cons_self
    · exact List.mem_cons_of_mem _ (ih h)

/-! ### Values in one line -/

theorem compactEntries_eq_map (fields : Fields) :
    compactEntries fields = fields.map fun field => compactField field.1 (field.2.render true) := by
  induction fields with
  | nil => simp [compactEntries]
  | cons field rest ih =>
    obtain ⟨name, value⟩ := field
    rw [compactEntries, ih, List.map_cons]

theorem lineFeed_mem_compactField {name : Text} (h : '\n' ∉ name) (value : Option Resolved) :
    '\n' ∈ compactField name value ↔ ∃ x, value = some x ∧ '\n' ∈ x.plain := by
  cases value with
  | none => simp [compactField, h]
  | some x => simp [compactField, h]

/-- Fields put together break the line where one of them does. -/
theorem lineFeed_mem_join_compactEntries {fields : Fields} (h : ∀ field ∈ fields, '\n' ∉ field.1) :
    '\n' ∈ Text.join ", " (compactEntries fields) ↔
      ∃ field ∈ fields, ∃ x, field.2.render true = some x ∧ '\n' ∈ x.plain := by
  have hsep : '\n' ∉ (", " : Text) := by decide
  rw [Text.mem_join hsep, compactEntries_eq_map]
  constructor
  · rintro ⟨piece, hpiece, hmem⟩
    obtain ⟨field, hfield, rfl⟩ := List.mem_map.mp hpiece
    exact ⟨field, hfield, (lineFeed_mem_compactField (h field hfield) _).mp hmem⟩
  · rintro ⟨field, hfield, hx⟩
    refine ⟨_, List.mem_map.mpr ⟨field, hfield, rfl⟩, ?_⟩
    exact (lineFeed_mem_compactField (h field hfield) _).mpr hx

namespace Value

/-- A short name breaks the line if it is a string with a line feed, or comes from an object. -/
theorem lineFeed_mem_shortName {kind : ObjectKind} (hkind : kind ≠ .generic) {typeName : Text}
    {fields : Fields} (h : (object typeName kind fields).NamesInLine) :
    (∃ t, kind.shortName? fields = some t ∧ '\n' ∈ t) ↔
      (object typeName kind fields).BreaksLine := by
  have hplain {name : Text} {value : Value} (hget : fields.get? name = some value) :
      '\n' ∈ value.plain ↔ value.IsBrokenName :=
    lineFeed_mem_plain (h.field (Fields.mem_of_get?_eq_some hget)).2.self
  constructor
  · rintro ⟨t, ht, hmem⟩
    obtain ⟨name, value, hname, hget, -, rfl⟩ := ObjectKind.shortName?_eq_some_iff.mp ht
    exact .shortName hname hget ((hplain hget).mp hmem)
  · intro hbreaks
    cases hbreaks with
    | @shortName _ _ _ name value hname hget hbroken =>
      -- a field that is null gives no short name, but it would not break the line either
      have hnull : value ≠ .null := by
        rintro rfl
        exact hbroken
      exact ⟨_, ObjectKind.shortName?_eq_some_iff.mpr ⟨name, value, hname, hget, hnull, rfl⟩,
        (hplain hget).mpr hbroken⟩
    | field => exact absurd rfl hkind

/-- A generic object breaks the line where one of its fields does. -/
theorem breaksLine_generic_iff {typeName : Text} {fields : Fields} :
    (object typeName .generic fields).BreaksLine ↔ ∃ field ∈ fields, field.2.BreaksLine := by
  constructor
  · intro h
    cases h with
    | shortName hname => cases hname
    | field hmem hbreaks => exact ⟨_, hmem, hbreaks⟩
  · rintro ⟨⟨name, value⟩, hmem, hbreaks⟩
    exact .field hmem hbreaks

/-- What is no object shows no short name. -/
theorem lineFeed_mem_render_of_atom {v : Value} {x : Resolved} (hrender : v.render true = some x)
    (hx : '\n' ∉ x.plain) (hatom : ¬ v.BreaksLine) :
    (∃ x, v.render true = some x ∧ '\n' ∈ x.plain) ↔ v.BreaksLine := by
  constructor
  · rintro ⟨y, hy, hmem⟩
    obtain rfl : x = y := Option.some.inj (hrender.symm.trans hy)
    exact absurd hmem hx
  · intro hbreaks
    exact absurd hbreaks hatom

/-- In one line, a value has a line feed if and only if it shows a short name that breaks the
line. -/
theorem lineFeed_mem_render {v : Value} (h : v.NamesInLine) :
    (∃ x, v.render true = some x ∧ '\n' ∈ x.plain) ↔ v.BreaksLine := by
  -- by induction on the value; only objects take more than one step
  induction v using Value.induction with
  | null =>
    simp only [render, reduceCtorEq, false_and, exists_false, false_iff]
    nofun
  | bool b =>
    exact lineFeed_mem_render_of_atom rfl (lineFeed_not_mem_boolText b) nofun
  | int i declared =>
    -- a timestamp is shown as its instant, if it encodes one
    cases hdecoded : (Value.int i declared).decoded? with
    | some t =>
      have hrender : (Value.int i declared).render true = some (.instant t) := by
        simp only [render, hdecoded]
      exact lineFeed_mem_render_of_atom hrender t.lineFeed_not_mem_rfc3339 nofun
    | none =>
      have hrender : (Value.int i declared).render true = some (.int i) := by
        simp only [render, hdecoded]
      exact lineFeed_mem_render_of_atom hrender (Decimal.lineFeed_not_mem_ofInt i) nofun
  | natural n =>
    exact lineFeed_mem_render_of_atom rfl (Decimal.lineFeed_not_mem_digits n) nofun
  | float x => exact lineFeed_mem_render_of_atom rfl x.lineFeed_not_mem_text nofun
  | str t =>
    -- spaces take the place of line feeds
    refine lineFeed_mem_render_of_atom rfl ?_ nofun
    simp only [if_true, Resolved.plain, List.mem_map, not_exists, not_and]
    intro c _
    split
    · decide
    · assumption
  | instant t => exact lineFeed_mem_render_of_atom rfl t.lineFeed_not_mem_rfc3339 nofun
  | object typeName kind fields ih =>
    by_cases hkind : kind = .generic
    · subst hkind
      have hnames : ∀ field ∈ fields, '\n' ∉ field.1 := fun field hfield => (h.field hfield).1
      have hfields : '\n' ∈ Text.join ", " (compactEntries fields) ↔
          ∃ field ∈ fields, field.2.BreaksLine := by
        rw [lineFeed_mem_join_compactEntries hnames]
        exact exists_congr fun field =>
          and_congr_right fun hfield => ih field hfield (h.field hfield).2
      rw [breaksLine_generic_iff, ← hfields]
      simp [render, Resolved.plain]
    · -- the fields do not show, but for the one that holds the short name
      have hrender : (object typeName kind fields).render true =
          (kind.shortName? fields).map .text := by
        simp [render, hkind]
      rw [← lineFeed_mem_shortName hkind h, hrender]
      constructor
      · rintro ⟨x, hx, hmem⟩
        obtain ⟨t, ht, rfl⟩ := Option.map_eq_some_iff.mp hx
        exact ⟨t, ht, hmem⟩
      · rintro ⟨t, ht, hmem⟩
        exact ⟨.text t, Option.map_eq_some_iff.mpr ⟨t, ht, rfl⟩, hmem⟩
  | frames entries =>
    have hjoin : '\n' ∉ Text.join ", " (entries.map Frame.text) :=
      lineFeed_not_mem_join_frames h.self
    refine lineFeed_mem_render_of_atom rfl ?_ nofun
    simpa [Resolved.plain, framesText] using hjoin

end Value

/-! ### Records in one line -/

/-- No name at any depth of the fields has a line feed. -/
def Fields.NamesInLine (fields : Fields) : Prop :=
  ∀ field ∈ fields, '\n' ∉ field.1 ∧ field.2.NamesInLine

/-- Fields in one line are broken by those that are included. -/
theorem lineFeed_mem_compactFields {fields : Fields} (h : fields.NamesInLine)
    (isIncluded : Text → Bool) :
    '\n' ∈ compactFields isIncluded fields ↔
      ∃ field ∈ fields, isIncluded field.1 = true ∧ field.2.BreaksLine := by
  have hnames : ∀ field ∈ fields.filter fun field => isIncluded field.1, '\n' ∉ field.1 :=
    fun field hfield => (h field (List.mem_filter.mp hfield).1).1
  rw [compactFields, lineFeed_mem_join_compactEntries hnames]
  simp only [List.mem_filter, and_assoc]
  refine exists_congr fun field => and_congr_right fun hfield => and_congr_right fun _ => ?_
  exact Value.lineFeed_mem_render (h field hfield).2

/-- As long as no name has a line feed, all that a record shows in one line stays on it, but for
short names that are strings with a line feed or objects: each value at any depth, and the fields
of the record that a caller or a template chooses to list. -/
theorem Record.oneLine_breaks_iff (r : Record) (h : r.fields.NamesInLine) :
    (∀ p ∈ positionsIn r.fields,
        ((∃ x, p.2.render true = some x ∧ '\n' ∈ x.plain) ↔ p.2.BreaksLine)) ∧
      (∀ isIncluded : Text → Bool, '\n' ∈ compactFields isIncluded r.fields ↔
        ∃ field ∈ r.fields, isIncluded field.1 = true ∧ field.2.BreaksLine) ∧
      ∀ t : Template, (∃ x, t.valueOf r .remaining = some x ∧ '\n' ∈ x.plain) ↔
        ∃ field ∈ r.fields, t.references field.1 = false ∧ field.2.BreaksLine := by
  refine ⟨?values, ?listed, ?remaining⟩
  case values =>
    intro p hp
    obtain ⟨field, hfield, q, hq, rfl⟩ := mem_positionsIn.mp hp
    have hnames : q.2.NamesInLine := (h field hfield).2.of_mem hq
    exact Value.lineFeed_mem_render hnames
  case listed =>
    exact lineFeed_mem_compactFields h
  case remaining =>
    intro t
    have hlisted := lineFeed_mem_compactFields h fun name => !t.references name
    simp only [Bool.not_eq_true'] at hlisted
    rw [← hlisted]
    simp [Template.valueOf, Resolved.plain]

/-- The fields of an event on a thread of the given name. -/
def onThread (name : Text) : Fields :=
  [("on", .object "object" .thread [("javaName", .str name)])]

theorem onThread_namesInLine (name : Text) : (onThread name).NamesInLine := by
  have hon : '\n' ∉ ("on" : Text) := by decide
  have hjavaName : '\n' ∉ ("javaName" : Text) := by decide
  intro field hfield
  obtain rfl := List.mem_singleton.mp hfield
  refine ⟨hon, everywhere_iff.mpr ⟨?own, ?below⟩⟩
  case own =>
    intro field hfield
    obtain rfl := List.mem_singleton.mp hfield
    exact hjavaName
  case below =>
    intro child hchild
    obtain rfl := List.mem_singleton.mp hchild
    exact everywhere_iff.mpr ⟨trivial, nofun⟩

/-- An ordinary name of a thread stays on the line. -/
theorem Record.oneLine_on_main :
    (onThread "main").NamesInLine ∧ '\n' ∉ compactFields (fun _ => true) (onThread "main") := by
  refine ⟨onThread_namesInLine _, fun hmem => ?_⟩
  obtain ⟨-, hlisted, -⟩ :=
    oneLine_breaks_iff ⟨"start", .epoch, .epoch, onThread "main"⟩ (onThread_namesInLine _)
  obtain ⟨field, hfield, -, hbreaks⟩ := (hlisted _).mp hmem
  obtain rfl := List.mem_singleton.mp hfield
  cases hbreaks with
  | shortName hname hvalue hbroken =>
    cases hname
    cases hvalue
    have hmain : '\n' ∉ ("main" : Text) := by decide
    exact hmain hbroken

/-- The name of a thread breaks the line, although no name of a field does. -/
theorem Record.oneLine_broken_by_thread :
    (onThread "a\nb").NamesInLine ∧
      compactFields (fun _ => true) (onThread "a\nb") = ("on:a\nb" : Text) :=
  ⟨onThread_namesInLine _, by decide⟩

end TraceText
