import TraceText.Proofs.Template.Marker
import TraceText.Template.Render

/-!
# Templates keep their text

A template that compiles still holds the text from which it was compiled: its literals, the sources
of its placeholders between braces, and its tail, in this order.  The placeholders stand exactly
where the leftmost markers are, so the parts of a template are determined by its text.

## Main definitions

* `Template.markers` — literals with the sources of the placeholders behind them

## Main results

* `Template.compile_eq_ok_iff` — a template that compiles is put together from the scan of its text
* `Template.markers_of_compile` — the markers of a template are those of its text
* `Template.compile_of_not_beginsAt` — a text without markers is a template without placeholders
-/

namespace TraceText

/-- The literals of a template, each with the source of the placeholder behind it. -/
def Template.markers (t : Template) : List (Text × Text) :=
  t.segments.map fun segment => (segment.1, segment.2.source)

theorem Placeholder.source_of_parse {zone : Zone} {body : Text} {p : Placeholder}
    (h : Placeholder.parse zone body = .ok p) : p.source = body := by
  unfold Placeholder.parse at h
  dsimp only at h
  split at h
  · cases h
  · next reference _ =>
    cases hparameters : parseParameters zone true (Text.splitOn ',' body).tail with
    | error e =>
      rw [hparameters] at h
      cases h
    | ok parameters =>
      rw [hparameters] at h
      cases h
      rfl

namespace Template

theorem parseSegments_cons (zone : Zone) (literal body : Text) (rest : List (Text × Text)) :
    parseSegments zone ((literal, body) :: rest) = (do
      let p ← Placeholder.parse zone body
      let segments ← parseSegments zone rest
      return (literal, p) :: segments) := rfl

/-- Parsing keeps literals and sources. -/
theorem map_source_of_parseSegments {zone : Zone} {markers : List (Text × Text)}
    {segments : List (Text × Placeholder)} (h : parseSegments zone markers = .ok segments) :
    segments.map (fun segment => (segment.1, segment.2.source)) = markers := by
  induction markers generalizing segments with
  | nil =>
    cases h
    rfl
  | cons marker rest ih =>
    obtain ⟨literal, body⟩ := marker
    rw [parseSegments_cons] at h
    cases hp : Placeholder.parse zone body with
    | error e =>
      rw [hp] at h
      cases h
    | ok p =>
      cases hrest : parseSegments zone rest with
      | error e =>
        rw [hp, hrest] at h
        cases h
      | ok segments' =>
        rw [hp, hrest] at h
        cases h
        rw [List.map_cons, ih hrest, Placeholder.source_of_parse hp]

theorem compile_eq_map (zone : Zone) (source : Text) :
    compile zone source = (parseSegments zone (Marker.split source).1).map fun segments =>
      ⟨source, segments, (Marker.split source).2⟩ := by
  unfold compile
  cases h : parseSegments zone (Marker.split source).1 <;> simp only [h] <;> rfl

/-- A template that compiles is put together from the scan of its text. -/
theorem compile_eq_ok_iff {zone : Zone} {source : Text} {t : Template} :
    compile zone source = .ok t ↔
      t.source = source ∧ t.tail = (Marker.split source).2 ∧
        parseSegments zone (Marker.split source).1 = .ok t.segments := by
  rw [compile_eq_map]
  cases parseSegments zone (Marker.split source).1 with
  | error e => simp [Except.map]
  | ok segments =>
    simp only [Except.map, Except.ok.injEq]
    constructor
    · rintro rfl
      exact ⟨rfl, rfl, rfl⟩
    · rintro ⟨hsource, htail, hsegments⟩
      obtain ⟨source', segments', tail'⟩ := t
      simp_all

/-- The markers of a template are those of its text. -/
theorem markers_of_compile {zone : Zone} {source : Text} {t : Template}
    (h : compile zone source = .ok t) : t.markers = (Marker.split source).1 :=
  map_source_of_parseSegments (compile_eq_ok_iff.mp h).2.2

/-- A text without markers is a template without placeholders. -/
theorem compile_of_not_beginsAt (zone : Zone) {source : Text}
    (h : ∀ i, ¬ Marker.BeginsAt source i) : compile zone source = .ok ⟨source, [], source⟩ := by
  have hleftmost := Marker.isLeftmost_split [] source
  have hjoin := Marker.join_split source
  have hsegments : (Marker.split source).1 = [] := by
    cases hs : (Marker.split source).1 with
    | nil => rfl
    | cons segment rest =>
      -- the first segment would end in a marker
      rw [hs] at hleftmost
      exact absurd hleftmost.1 (h _)
  rw [hsegments, Marker.join] at hjoin
  rw [compile_eq_map, hsegments, hjoin]
  rfl

/-- Compilation loses nothing, and cuts a text exactly at its leftmost markers.  So no literal and
no tail hides a marker, and a text without markers is rendered as it is. -/
theorem compile_isLeftmost {zone : Zone} {source : Text} {t : Template}
    (h : compile zone source = .ok t) :
    Marker.join t.markers t.tail = source ∧
      (∀ p ∈ t.placeholders, p.source ≠ [] ∧ '}' ∉ p.source) ∧
      Marker.IsLeftmost source 0 t.markers ∧
      (∀ segment ∈ t.segments, ∀ i, ¬ Marker.BeginsAt segment.1 i) ∧
      (∀ i, ¬ Marker.BeginsAt t.tail i) ∧
      ((∀ i, ¬ Marker.BeginsAt source i) →
        t.segments = [] ∧ ∀ r, t.render r = .ok source) := by
  have hmarkers := markers_of_compile h
  have hjoin : Marker.join t.markers t.tail = source := by
    rw [hmarkers, (compile_eq_ok_iff.mp h).2.1, Marker.join_split]
  have hleftmost : Marker.IsLeftmost source 0 t.markers := by
    rw [hmarkers]
    exact Marker.isLeftmost_split [] source
  -- literals and tail are parts of the source, which is put together from them
  have hwhole :
      Marker.IsLeftmost ([] ++ Marker.join t.markers t.tail) ([] : Text).length t.markers := by
    rw [List.nil_append, hjoin]
    exact hleftmost
  have hhidden := hwhole.not_beginsAt
  refine ⟨hjoin, ?_, hleftmost, ?_, hhidden.2, ?_⟩
  · intro p hp
    obtain ⟨segment, hsegment, rfl⟩ := List.mem_map.mp hp
    refine Marker.isBody_of_mem_split (t := source) ?_
    rw [← hmarkers]
    exact List.mem_map.mpr ⟨_, List.mem_map_of_mem hsegment, rfl⟩
  · intro segment hsegment
    refine hhidden.1 segment.1 ?_
    exact List.mem_map.mpr ⟨_, List.mem_map_of_mem hsegment, rfl⟩
  · intro hnone
    obtain rfl := Except.ok.inj (h.symm.trans (compile_of_not_beginsAt zone hnone))
    exact ⟨rfl, fun r => rfl⟩

/-- The text `{}a{{b,C}}{` has empty, doubled and unclosed braces around its one marker. -/
theorem compile_isLeftmost_doubled :
    ∃ t, compile .utc "\x7b\x7da\x7b\x7bb,C\x7d\x7d\x7b".toList = .ok t ∧
      t.markers = [("\x7b\x7da".toList, "\x7bb,C".toList)] ∧
      Marker.join t.markers t.tail = "\x7b\x7da\x7b\x7bb,C\x7d\x7d\x7b".toList ∧
      Marker.IsLeftmost "\x7b\x7da\x7b\x7bb,C\x7d\x7d\x7b".toList 0 t.markers := by
  have hsplit : Marker.split "\x7b\x7da\x7b\x7bb,C\x7d\x7d\x7b".toList =
      ([("\x7b\x7da".toList, "\x7bb,C".toList)], "\x7d\x7b".toList) := by decide +kernel
  have h : compile .utc "\x7b\x7da\x7b\x7bb,C\x7d\x7d\x7b".toList =
      .ok ⟨"\x7b\x7da\x7b\x7bb,C\x7d\x7d\x7b".toList,
        [("\x7b\x7da".toList,
          ⟨"\x7bb,C".toList, .field ⟨"\x7bb".toList, []⟩, [.upperCase]⟩)],
        "\x7d\x7b".toList⟩ := by
    rw [compile_eq_map, hsplit]
    rfl
  obtain ⟨hjoin, -, hleftmost, -⟩ := compile_isLeftmost h
  exact ⟨_, h, rfl, hjoin, hleftmost⟩

end Template

end TraceText
