import TraceText.Proofs.Record.OneLine
import TraceText.Proofs.Template.Grammar
import TraceText.Template.Render

/-!
# Remaining fields

A template can list all fields of a record that it does not name.  A field counts as named if it is
the first step of a path anywhere in the template, before or behind the list.  Meta-tokens are no
paths, so a field with the name of one is listed unless a longer path begins at it.

## Main definitions

* `Marker.namedField?`, `Marker.namedFields` — the fields that the markers of a text name
* `Value.textInLine` — how a value reads in the list

## Main results

* `Template.references_iff` — a template refers to the fields that the markers of its text name
* `Template.remaining_lists_unnamed` — each field that is not named is listed once, in order
-/

namespace TraceText

namespace Marker

/-- The field that the body of a marker names: the first step of its path, unless it is a
meta-token. -/
def namedField? (body : Text) : Option Text :=
  if Reference.metaTokens.contains (nameOf body) then none
  else some ((nameOf body).takeWhile (· ≠ '.'))

/-- The fields that the markers of a text name. -/
def namedFields (source : Text) : List Text := (bodies source).filterMap namedField?

/-- A field with the name of a meta-token is named only by a longer path that begins at it. -/
theorem prefix_nameOf_of_mem_namedFields {source name : Text}
    (hmeta : name ∈ Reference.metaTokens) (h : name ∈ namedFields source) :
    ∃ body ∈ bodies source, name ++ ['.'] <+: nameOf body := by
  obtain ⟨body, hbody, hnamed⟩ := List.mem_filterMap.mp h
  unfold namedField? at hnamed
  split_ifs at hnamed with hno
  have hname : (nameOf body).takeWhile (· ≠ '.') = name := Option.some.inj hnamed
  have hsplit : name ++ (nameOf body).dropWhile (· ≠ '.') = nameOf body := by
    rw [← hname]
    exact List.takeWhile_append_dropWhile
  refine ⟨body, hbody, ?_⟩
  cases hrest : (nameOf body).dropWhile (· ≠ '.') with
  | nil =>
    -- then the whole name would be the meta-token
    rw [hrest, List.append_nil] at hsplit
    exact absurd (List.contains_iff_mem.mpr (hsplit ▸ hmeta)) hno
  | cons c rest =>
    have hstop := List.head?_dropWhile_not (fun c => decide (c ≠ '.')) (nameOf body)
    rw [hrest] at hstop
    have hc : c = '.' := by simpa using hstop
    rw [hrest, hc] at hsplit
    exact ⟨rest, by rw [← hsplit, List.append_assoc]; rfl⟩

end Marker

/-- How a value reads in a list of fields: in one line, or as `null` if there is nothing to show. -/
def Value.textInLine (v : Value) : Text :=
  match v.render true with
  | some x => x.plain
  | none => "null"

theorem compactField_render (name : Text) (v : Value) :
    compactField name (v.render true) = name ++ ':' :: v.textInLine := by
  unfold compactField Value.textInLine
  cases v.render true with
  | none => rfl
  | some x => simp

/-- The fields of a record but those with given names, each with its value in one line, separated
by commas. -/
def Record.listWithout (r : Record) (names : List Text) : Text :=
  Text.join ", " ((r.fields.filter fun field => !names.contains field.1).map
    fun field => field.1 ++ ':' :: field.2.textInLine)

/-- A name that stands for a field names its first step, and a meta-token names none. -/
theorem Placeholder.Denotes.fieldName?_eq {zone : Zone} {body : Text} {p : Placeholder}
    (h : Denotes zone body p) : p.reference.fieldName? = Marker.namedField? body := by
  have hreference := h.reference
  unfold Marker.namedField?
  generalize Marker.nameOf body = name at hreference ⊢
  generalize p.reference = reference at hreference ⊢
  cases hreference with
  | eventName => rfl
  | dots => rfl
  | remaining => rfl
  | field _ hmeta hsteps =>
    -- the first step of the path is what precedes the first dot of the name
    rw [if_neg (by rwa [List.contains_iff_mem]), ← Text.headD_splitOn, hsteps]
    rfl

/-- Exactly two names stand for the remaining fields. -/
theorem Placeholder.Denotes.reference_eq_remaining_iff {zone : Zone} {body : Text}
    {p : Placeholder} (h : Denotes zone body p) :
    p.reference = .remaining ↔
      Marker.nameOf body = "...".toList ∨ Marker.nameOf body = "remaining".toList := by
  have hreference := h.reference
  generalize Marker.nameOf body = name at hreference ⊢
  generalize p.reference = reference at hreference ⊢
  cases hreference with
  | eventName => decide
  | dots => simp
  | remaining => simp
  | field _ hmeta _ =>
    simp only [reduceCtorEq, false_iff, not_or]
    constructor
    · rintro rfl
      exact hmeta (by decide)
    · rintro rfl
      exact hmeta (by decide)

namespace Template

/-- A template refers to a field exactly if some marker of its text names it. -/
theorem references_iff {zone : Zone} {source : Text} {t : Template}
    (h : compile zone source = .ok t) (name : Text) :
    t.references name = true ↔ name ∈ Marker.namedFields source := by
  -- body by body, what the marker names is what its placeholder refers to
  have hnames : (Marker.bodies source).map Marker.namedField? =
      t.placeholders.map fun p => p.reference.fieldName? :=
    map_eq_map_of_forall₂ (fun body p hp => hp.fieldName?_eq.symm) (denotes_of_compile h)
  have hmem : name ∈ Marker.namedFields source ↔
      some name ∈ t.placeholders.map fun p => p.reference.fieldName? := by
    rw [← hnames, List.mem_map, Marker.namedFields, List.mem_filterMap]
  rw [hmem, references, List.any_eq_true, List.mem_map]
  simp only [decide_eq_true_eq]

/-- The remaining fields are all that no marker names, each once and in their order. -/
theorem valueOf_remaining {zone : Zone} {source : Text} {t : Template}
    (h : compile zone source = .ok t) (r : Record) :
    t.valueOf r .remaining = some (.text (r.listWithout (Marker.namedFields source))) := by
  have hunnamed : ∀ field : Text × Value,
      t.references field.1 = (Marker.namedFields source).contains field.1 := by
    intro field
    rw [Bool.eq_iff_iff, references_iff h, List.contains_iff_mem]
  simp only [valueOf, compactFields, compactEntries_eq_map, compactField_render, hunnamed,
    Record.listWithout]

/-- Wherever a list of the remaining fields stands in a template, and however it is spelled, it
shows each field at which no path of the template begins, with its value in one line.  Meta-tokens
are no paths, so a field with the name of one is left out only for a longer path. -/
theorem remaining_lists_unnamed {zone : Zone} {source : Text} {t : Template}
    (h : compile zone source = .ok t) (r : Record) :
    (∀ p ∈ t.placeholders,
      (p.reference = .remaining ↔
        Marker.nameOf p.source = "...".toList ∨ Marker.nameOf p.source = "remaining".toList) ∧
      (p.reference = .remaining → t.valueOf r p.reference =
        some (.text (r.listWithout (Marker.namedFields source))))) ∧
    (∀ name ∈ Reference.metaTokens, name ∈ Marker.namedFields source →
      ∃ body ∈ Marker.bodies source, name ++ ['.'] <+: Marker.nameOf body) := by
  refine ⟨?_, fun name => Marker.prefix_nameOf_of_mem_namedFields⟩
  intro p hp
  refine ⟨(denotes_of_mem_placeholders h hp).reference_eq_remaining_iff, ?_⟩
  intro hremaining
  rw [hremaining]
  exact valueOf_remaining h r

/-- Both lists in `{remaining}{eventName}{a.b,o}{ ... }` leave out the field `a` alone. -/
theorem remaining_lists_unnamed_twice :
    let r : Record := ⟨"log.Info", .epoch, .epoch,
      [("a".toList, .bool true), ("eventName".toList, .str "x\ny".toList), ("c".toList, .null)]⟩
    ∃ t, compile .utc "\x7bremaining\x7d\x7beventName\x7d\x7ba.b,o\x7d\x7b ... \x7d".toList =
        .ok t ∧
      t.placeholders.map Placeholder.reference =
        [.remaining, .eventName, .field ⟨"a".toList, ["b".toList]⟩, .remaining] ∧
      ∀ p ∈ t.placeholders, p.reference = .remaining →
        t.valueOf r p.reference = some (.text "eventName:x y, c:null".toList) := by
  intro r
  have hsplit : Marker.split
      "\x7bremaining\x7d\x7beventName\x7d\x7ba.b,o\x7d\x7b ... \x7d".toList =
        ([([], "remaining".toList), ([], "eventName".toList), ([], "a.b,o".toList),
          ([], " ... ".toList)], []) := by decide +kernel
  have ht : compile .utc
      "\x7bremaining\x7d\x7beventName\x7d\x7ba.b,o\x7d\x7b ... \x7d".toList =
        .ok ⟨"\x7bremaining\x7d\x7beventName\x7d\x7ba.b,o\x7d\x7b ... \x7d".toList,
          [([], ⟨"remaining".toList, .remaining, []⟩),
            ([], ⟨"eventName".toList, .eventName, []⟩),
            ([], ⟨"a.b,o".toList, .field ⟨"a".toList, ["b".toList]⟩, [.optional]⟩),
            ([], ⟨" ... ".toList, .remaining, []⟩)], []⟩ := by
    rw [compile_eq_map, hsplit]
    rfl
  have hnamed : Marker.namedFields
      "\x7bremaining\x7d\x7beventName\x7d\x7ba.b,o\x7d\x7b ... \x7d".toList = ["a".toList] := by
    rw [Marker.namedFields, Marker.bodies, hsplit]
    rfl
  have htext : r.listWithout ["a".toList] = "eventName:x y, c:null".toList := by decide +kernel
  refine ⟨_, ht, rfl, fun p hp hremaining => ?_⟩
  rw [((remaining_lists_unnamed ht r).1 p hp).2 hremaining, hnamed, htext]

end Template

end TraceText
