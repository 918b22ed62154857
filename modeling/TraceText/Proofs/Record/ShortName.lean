import TraceText.Proofs.Record.Scalar

/-!
# Named objects in one line

In one line an object of a named kind shows the value of its naming field as bare text.  This is
what the field itself would show there, as long as it is missing, null, a string without line feeds
or a scalar.  The exception is an integer that encodes an instant: the field shows the instant, but
the object shows the integer.

## Main definitions

* `ObjectKind.name?` — the value of the naming field of an object
* `Value.IsName` — values that name an object in one line

## Main results

* `Value.render_named` — a named object shows the bare text of its name
* `Value.IsName.map_plain_render_eq_iff` — bare text is what a name shows, unless it is a timestamp
* `Value.named_reads_as_name` — a named object reads like its name, with the same exception
-/

namespace TraceText

/-- The value of the field that holds the short name of an object, if there is such a field. -/
def ObjectKind.name? (kind : ObjectKind) (fields : Fields) : Option Value :=
  kind.nameField.bind fields.get?

theorem ObjectKind.name?_eq_some_iff {kind : ObjectKind} {fields : Fields} {v : Value} :
    kind.name? fields = some v ↔ ∃ key, kind.nameField = some key ∧ fields.get? key = some v :=
  Option.bind_eq_some_iff

/-- A short name is the bare text of the value in the naming field, unless this is null. -/
theorem ObjectKind.shortName?_eq_some_iff_name? {kind : ObjectKind} {fields : Fields} {t : Text} :
    kind.shortName? fields = some t ↔
      ∃ v, kind.name? fields = some v ∧ v ≠ .null ∧ v.plain = t := by
  rw [shortName?_eq_some_iff]
  constructor
  · rintro ⟨key, v, hkey, hget, hv⟩
    exact ⟨v, name?_eq_some_iff.mpr ⟨key, hkey, hget⟩, hv⟩
  · rintro ⟨v, hname, hv⟩
    obtain ⟨key, hkey, hget⟩ := name?_eq_some_iff.mp hname
    exact ⟨key, v, hkey, hget, hv⟩

/-- The text of an instant is no numeral. -/
theorem Instant.rfc3339_ne_ofInt (t : Instant) (i : Int) : t.rfc3339 ≠ Decimal.ofInt i := by
  intro h
  have htext : 'T' ∈ t.rfc3339 := by simp [rfc3339]
  rw [h] at htext
  have hdigits : 'T' ∉ Decimal.digits i.natAbs := fun hmem =>
    absurd (Decimal.isDigit_of_mem_digits hmem) (by decide)
  unfold Decimal.ofInt at htext
  split at htext
  · exact hdigits ((List.mem_cons.mp htext).resolve_left (by decide))
  · exact hdigits htext

/-- In a list of fields, only the text of a value counts. -/
theorem compactField_eq_iff {key : Text} {x y : Option Resolved} (h : x = none ↔ y = none) :
    compactField key x = compactField key y ↔ x.map Resolved.plain = y.map Resolved.plain := by
  cases x with
  | none =>
    rw [h.mp rfl]
    exact iff_of_true rfl rfl
  | some x =>
    cases y with
    | none => cases h.mpr rfl
    | some y => simp [compactField]

namespace Value

/-- A value names an object in one line: null, which gives no name, a string that stays on the line,
or a scalar. -/
inductive IsName : Value → Prop where
  | null : IsName .null
  | str {t : Text} (h : '\n' ∉ t) : IsName (.str t)
  | scalar {v : Value} (h : v.IsScalar) : IsName v

variable {v : Value}

/-- An integer that encodes an instant shows the instant, but its bare text is the integer. -/
theorem render_of_decoded {t : Instant} (h : v.decoded? = some t) (oneLine : Bool) :
    v.render oneLine = some (.instant t) ∧ ∃ i, v.plain = Decimal.ofInt i := by
  cases v with
  | int i declared =>
    rw [render_int, h]
    exact ⟨rfl, i, rfl⟩
  | _ => cases h

namespace IsName

/-- A name shows something in one line unless it is null. -/
theorem render_eq_none_iff (h : v.IsName) : v.render true = none ↔ v = .null := by
  cases h with
  | null => exact iff_of_true rfl rfl
  | str _ => exact iff_of_false nofun nofun
  | scalar hscalar =>
    obtain ⟨text, htext⟩ := hscalar.exists_isShownAs
    have hsome : v.render true ≠ none := by
      intro hnone
      have hshown := htext.render true
      rw [hnone] at hshown
      cases hshown
    refine iff_of_false hsome ?_
    rintro rfl
    cases hscalar

/-- In one line a name shows its bare text, unless it encodes an instant. -/
theorem map_plain_render_eq_iff (h : v.IsName) (hnull : v ≠ .null) :
    (v.render true).map Resolved.plain = some v.plain ↔ v.decoded? = none := by
  constructor
  · intro hshown
    rw [Option.eq_none_iff_forall_ne_some]
    intro t ht
    obtain ⟨hrender, i, hplain⟩ := render_of_decoded ht true
    rw [hrender, hplain] at hshown
    exact t.rfc3339_ne_ofInt i (Option.some.inj hshown)
  · intro hdecoded
    cases h with
    | null => exact absurd rfl hnull
    | @str t hline =>
      -- there is no line feed for which a space would have to stand
      have hkept : (t.map fun c => if c = '\n' then ' ' else c) = t := by
        conv_rhs => rw [← List.map_id t]
        refine List.map_congr_left fun c hc => if_neg ?_
        rintro rfl
        exact hline hc
      rw [render, if_pos rfl, hkept]
      rfl
    | scalar hscalar =>
      cases hscalar with
      | int i declared =>
        rw [render_int, hdecoded]
        rfl
      | _ => rfl

end IsName

section Named

variable {typeName : Text} {kind : ObjectKind} {fields : Fields}

/-- A named object shows the bare text of the value in its naming field, and nothing if there is
none or it is null. -/
theorem render_named (hkind : kind ≠ .generic) :
    (object typeName kind fields).render true = (kind.shortName? fields).map .text := by
  simp [render, hkind]

theorem render_named_of_name {v : Value} (hkind : kind ≠ .generic)
    (hname : kind.name? fields = some v) (hnull : v ≠ .null) :
    (object typeName kind fields).render true = some (.text v.plain) := by
  rw [render_named hkind, ObjectKind.shortName?_eq_some_iff_name?.mpr ⟨v, hname, hnull, rfl⟩]
  rfl

theorem render_named_eq_none_iff (hkind : kind ≠ .generic) :
    (object typeName kind fields).render true = none ↔ ∀ v ∈ kind.name? fields, v = .null := by
  rw [render_named hkind, Option.map_eq_none_iff]
  constructor
  · intro hnone v hv
    by_contra hnull
    have hshort := ObjectKind.shortName?_eq_some_iff_name?.mpr ⟨v, hv, hnull, rfl⟩
    rw [hnone] at hshort
    cases hshort
  · intro hnull
    rw [Option.eq_none_iff_forall_ne_some]
    intro t ht
    obtain ⟨v, hv, hne, -⟩ := ObjectKind.shortName?_eq_some_iff_name?.mp ht
    exact hne (hnull v hv)

/-- An object of a named kind reads in one line like the field that names it, by itself and in a
list of fields, if this field is missing, null, a string without line feeds or a scalar.  Only where
the field is a timestamp that encodes an instant the object shows the bare integer instead.  In any
case the object shows nothing exactly if the field does not. -/
theorem named_reads_as_name (typeName : Text) (hkind : kind ≠ .generic)
    (hname : ∀ v ∈ kind.name? fields, v.IsName) :
    let shown := (object typeName kind fields).render true
    let name := (kind.name? fields).bind (render true)
    (shown = none ↔ name = none) ∧
      (shown.map Resolved.plain = name.map Resolved.plain ↔
        ∀ v ∈ kind.name? fields, v.decoded? = none) ∧
      (∀ key, compactField key shown = compactField key name ↔
        ∀ v ∈ kind.name? fields, v.decoded? = none) ∧
      ∀ i unit t, kind.name? fields = some (.int i (some unit)) → unit.toInstant? i = some t →
        shown = some (.text (Decimal.ofInt i)) ∧ name = some (.instant t) := by
  intro shown name
  have habsent : shown = none ↔ name = none := by
    rw [render_named_eq_none_iff hkind, Option.bind_eq_none_iff]
    exact forall₂_congr fun v hv => ((hname v hv).render_eq_none_iff).symm
  have htext : shown.map Resolved.plain = name.map Resolved.plain ↔
      ∀ v ∈ kind.name? fields, v.decoded? = none := by
    cases hfield : kind.name? fields with
    | none =>
      have hnothing : name = none := by simp only [name, hfield, Option.bind_none]
      rw [habsent.mpr hnothing, hnothing]
      exact iff_of_true rfl nofun
    | some v =>
      have hshows : name = v.render true := by simp only [name, hfield, Option.bind_some]
      simp only [Option.mem_def, Option.some.injEq, forall_eq']
      by_cases hnull : v = .null
      · subst hnull
        have hnothing : name = none := hshows
        rw [habsent.mpr hnothing, hnothing]
        exact iff_of_true rfl rfl
      · have hplain : shown = some (.text v.plain) := render_named_of_name hkind hfield hnull
        rw [← (hname v hfield).map_plain_render_eq_iff hnull, hshows, hplain]
        exact eq_comm
  refine ⟨habsent, htext, fun key => (compactField_eq_iff habsent).trans htext, ?_⟩
  intro i unit t hfield ht
  refine ⟨render_named_of_name hkind hfield nofun, ?_⟩
  have hshows : name = (Value.int i (some unit)).render true := by
    simp only [name, hfield, Option.bind_some]
  have hdecoded : (Value.int i (some unit)).decoded? = some t := ht
  rw [hshows]
  exact (render_of_decoded hdecoded true).1

end Named

/-- A thread whose name is a timestamp of a clock that does not run. -/
theorem named_reads_as_name_undecodable :
    let fields : Fields := [("javaName".toList, .int 7 (some (.ticks ⟨0, 0, .epoch⟩)))]
    ObjectKind.thread ≠ .generic ∧
      (∀ v ∈ ObjectKind.thread.name? fields, v.IsName ∧ v.decoded? = none) ∧
      ((object "t" .thread fields).render true).map Resolved.plain = some "7".toList := by
  intro fields
  have hname : ∀ v ∈ ObjectKind.thread.name? fields, v.IsName ∧ v.decoded? = none := by
    rintro v ⟨⟩
    exact ⟨.scalar (.int _ _), rfl⟩
  have hkind : ObjectKind.thread ≠ .generic := nofun
  obtain ⟨-, htext, -⟩ := named_reads_as_name "t" hkind fun v hv => (hname v hv).1
  exact ⟨hkind, hname, htext.mpr fun v hv => (hname v hv).2⟩

/-- A thread is named by the first millisecond of 1970.  The field shows this instant, but the
thread shows the count of milliseconds. -/
theorem named_by_timestamp_reads_as_integer :
    let name : Value := .int 0 (some .epochMillis)
    let thread : Value := .object "object" .thread [("javaName".toList, name)]
    ofJson .standard (.object [("$kind".toList, .str "thread".toList),
        ("javaName".toList, .object [("$epochMillis".toList, .int 0)])]) = .ok thread ∧
      name.IsName ∧ (name.render true).map Resolved.plain = some "1970-01-01T00:00:00Z".toList ∧
      (thread.render true).map Resolved.plain = some "0".toList := by
  intro name thread
  exact ⟨rfl, .scalar (.int _ _), by decide +kernel, rfl⟩

end Value

end TraceText
