import Mathlib.Data.List.TakeWhile
import TraceText.Proofs.Template.Canonical
import TraceText.Proofs.Traversal

/-!
# Templates one after another

If the last opening brace of a text is followed by a closing brace, no marker reaches beyond the
end of the text, whatever is put behind it.  The scan of two such texts is then the scan of the
first one, continued by the scan of the second one; so compiling and rendering them together is
compiling and rendering one after the other.

Rendering does not scan anything: what takes the place of a placeholder is put between the literals
as it is.

## Main definitions

* `Marker.afterLastClose` — what follows the last closing brace of a text
* `Template.append` — a template behind another one
* `Template.values`, `Template.fill` — what takes the places of placeholders, put between literals

## Main results

* `Marker.split_append` — no marker reaches beyond the seam
* `Template.compile_append` — two texts together compile to their templates, one behind the other
* `Template.render_eq_map_fill` — rendering puts values between literals
* `Template.render_append` — two templates together are rendered one after the other
-/

namespace TraceText

namespace Marker

/-- What follows the last closing brace of a text; all of it, if there is none. -/
def afterLastClose (t : Text) : Text := (t.reverse.takeWhile (· ≠ '}')).reverse

theorem mem_afterLastClose_append {c : Char} (u : Text) {t : Text} (h : c ∈ afterLastClose t) :
    c ∈ afterLastClose (u ++ t) := by
  unfold afterLastClose at h ⊢
  rw [List.mem_reverse] at h ⊢
  rw [List.reverse_append, List.takeWhile_append]
  split
  · exact List.mem_append_left _ ((List.takeWhile_subset _) h)
  · exact h

/-- An opening brace that does not follow the last closing brace is followed by a closing one. -/
theorem mem_of_not_mem_afterLastClose {t : Text} (h : '{' ∉ afterLastClose ('{' :: t)) :
    '}' ∈ t := by
  apply Decidable.byContradiction
  intro hmem
  refine h ?_
  have hall : ∀ c ∈ ('{' :: t).reverse, decide (c ≠ '}') = true := by
    intro c hc
    rcases List.mem_cons.mp (List.mem_reverse.mp hc) with rfl | ht
    · decide
    · exact decide_eq_true fun heq => hmem (heq ▸ ht)
  rw [afterLastClose, List.takeWhile_eq_self_iff.mpr hall, List.reverse_reverse]
  exact List.mem_cons_self

/-- Whether a marker begins at the start of a text does not depend on what is put behind it. -/
theorem beginsAt_zero_append {t : Text} (h : '{' ∉ afterLastClose t) (u : Text)
    (hne : t ≠ []) : BeginsAt (t ++ u) 0 ↔ BeginsAt t 0 := by
  constructor
  · rintro ⟨body, rest, hbody, heq⟩
    obtain ⟨c, t, rfl⟩ := List.exists_cons_of_ne_nil hne
    obtain ⟨rfl, htail⟩ := List.cons.inj heq
    have hclose := mem_of_not_mem_afterLastClose h
    -- a body that reached into `u` would contain this closing brace
    rcases List.append_eq_append_iff.mp htail with ⟨as, rfl, -⟩ | ⟨bs, rfl, hrest⟩
    · exact absurd (List.mem_append_left as hclose) hbody.2
    · cases bs with
      | nil =>
        rw [List.append_nil] at hclose
        exact absurd hclose hbody.2
      | cons b bs =>
        obtain ⟨rfl, -⟩ := List.cons.inj hrest
        exact ⟨body, bs, hbody, rfl⟩
  · intro hbegins
    exact hbegins.append_right u

theorem fuse_nil {β : Type} (x : List (Text × β) × Text) : fuse [] x = x := by
  rcases x with ⟨_ | ⟨first, rest⟩, tail⟩ <;> rfl

theorem fuse_append {β : Type} (literal : Text) (x y : List (Text × β) × Text) :
    fuse literal (append x y) = append (fuse literal x) y := by
  rcases x with ⟨_ | ⟨first, rest⟩, tail⟩
  · rcases y with ⟨_ | ⟨first, rest⟩, tail'⟩ <;> simp [fuse, append]
  · rfl

/-- Whether a literal becomes a part of the tail depends only on the number of markers. -/
theorem tail_fuse {β γ : Type} (literal tail : Text) {xs : List (Text × β)}
    {ys : List (Text × γ)} (h : xs.length = ys.length) :
    (fuse literal (xs, tail)).2 = (fuse literal (ys, tail)).2 := by
  cases xs <;> cases ys
  · rfl
  · cases h
  · cases h
  · rfl

/-- No marker reaches beyond the end of the first text, so the scan goes on as if the second text
stood alone. -/
theorem split_append {a : Text} (h : '{' ∉ afterLastClose a) (b : Text) :
    Marker.split (a ++ b) = append (Marker.split a) (Marker.split b) := by
  induction a using scan_induction with
  | nil =>
    rw [split_nil, List.nil_append]
    exact (fuse_nil _).symm
  | marker body rest hbody ih =>
    have hrest : '{' ∉ afterLastClose rest := fun hmem => h <| by
      have := mem_afterLastClose_append ('{' :: body ++ ['}']) hmem
      simpa using this
    have heq : '{' :: body ++ '}' :: rest ++ b = '{' :: body ++ '}' :: (rest ++ b) := by simp
    rw [heq, split_cons_of_marker hbody, split_cons_of_marker hbody, ih hrest]
    rfl
  | literal c t hc ih =>
    have ht : '{' ∉ afterLastClose t := fun hmem => h (mem_afterLastClose_append [c] hmem)
    -- what stands behind the seam does not make a marker begin here
    have hseam : ¬ BeginsAt (c :: (t ++ b)) 0 := fun hbegins =>
      hc ((beginsAt_zero_append h b (List.cons_ne_nil c t)).mp hbegins)
    rw [List.cons_append, split_cons_of_not_beginsAt hseam, split_cons_of_not_beginsAt hc, ih ht,
      fuse_append]

/-- Texts put between literals, each behind its literal, and a tail. -/
def weave {β : Type} : List (Text × β) → Text → List Text → Text
  | (literal, _) :: rest, tail, text :: texts => literal ++ text ++ weave rest tail texts
  | _, tail, _ => tail

theorem weave_append {β : Type} {xs ys : List (Text × β)} {tail : Text} {texts more : List Text}
    (h : texts.length = xs.length) :
    weave (xs ++ ys) tail (texts ++ more) = weave xs [] texts ++ weave ys tail more := by
  induction xs generalizing texts with
  | nil =>
    obtain rfl : texts = [] := List.length_eq_zero_iff.mp h
    simp [weave]
  | cons x xs ih =>
    cases texts with
    | nil => cases h
    | cons text texts => simp [weave, ih (Nat.succ.inj h)]

theorem weave_tail {β : Type} {xs : List (Text × β)} {texts : List Text} (tail : Text)
    (h : texts.length = xs.length) : weave xs tail texts = weave xs [] texts ++ tail := by
  have happend : weave (xs ++ []) tail (texts ++ []) = weave xs [] texts ++ weave [] tail [] :=
    weave_append h
  rw [List.append_nil, List.append_nil] at happend
  exact happend

theorem weave_fuse {β : Type} (literal : Text) (x : List (Text × β) × Text) {texts : List Text}
    (h : texts.length = x.1.length) :
    weave (fuse literal x).1 (fuse literal x).2 texts = literal ++ weave x.1 x.2 texts := by
  rcases x with ⟨_ | ⟨first, rest⟩, tail⟩
  · simp [fuse, weave]
  · cases texts with
    | nil => cases h
    | cons text texts => simp [fuse, weave]

theorem weave_append_fuse {β : Type} {x y : List (Text × β) × Text} {texts more : List Text}
    (hx : texts.length = x.1.length) (hy : more.length = y.1.length) :
    weave (append x y).1 (append x y).2 (texts ++ more) =
      weave x.1 x.2 texts ++ weave y.1 y.2 more := by
  rw [append, weave_append hx, weave_fuse x.2 y hy, weave_tail x.2 hx, List.append_assoc]

end Marker

namespace Template

/-! ### Compiling -/

/-- A template behind another one; the tail of the first one becomes literal text. -/
def append (s t : Template) : Template :=
  let (segments, tail) := Marker.append (s.segments, s.tail) (t.segments, t.tail)
  ⟨s.source ++ t.source, segments, tail⟩

theorem parseSegments_append (zone : Zone) (xs ys : List (Text × Text)) :
    parseSegments zone (xs ++ ys) = (do
      let segments ← parseSegments zone xs
      let more ← parseSegments zone ys
      return segments ++ more) := by
  induction xs with
  | nil =>
    rw [List.nil_append]
    cases parseSegments zone ys <;> rfl
  | cons x xs ih =>
    obtain ⟨literal, body⟩ := x
    rw [List.cons_append, parseSegments_cons, parseSegments_cons, ih]
    simp

theorem length_of_parseSegments {zone : Zone} {markers : List (Text × Text)}
    {segments : List (Text × Placeholder)} (h : parseSegments zone markers = .ok segments) :
    segments.length = markers.length := by
  rw [← map_source_of_parseSegments h, List.length_map]

theorem parseSegments_fuse (zone : Zone) (literal : Text) (x : List (Text × Text) × Text) :
    parseSegments zone (Marker.fuse literal x).1 =
      (parseSegments zone x.1).map fun segments => (Marker.fuse literal (segments, x.2)).1 := by
  rcases x with ⟨_ | ⟨⟨first, body⟩, rest⟩, tail⟩
  · rfl
  · rw [Marker.fuse, parseSegments_cons, parseSegments_cons]
    cases Placeholder.parse zone body with
    | error e => rfl
    | ok p => cases parseSegments zone rest <;> rfl

/-- Two texts together compile to their templates, one behind the other; the leftmost fault is
reported. -/
theorem compile_append (zone : Zone) {a : Text} (h : '{' ∉ Marker.afterLastClose a) (b : Text) :
    compile zone (a ++ b) = (do
      let s ← compile zone a
      let t ← compile zone b
      return s.append t) := by
  rw [compile_eq_map, compile_eq_map, compile_eq_map, Marker.split_append h, Marker.append,
    parseSegments_append, parseSegments_fuse]
  cases parseSegments zone (Marker.split a).1 with
  | error e => rfl
  | ok segments =>
    cases hb : parseSegments zone (Marker.split b).1 with
    | error e => rfl
    | ok more =>
      -- parsing changes neither the number of markers nor where the tail of `a` goes
      have htail := Marker.tail_fuse (Marker.split a).2 (Marker.split b).2
        (length_of_parseSegments hb)
      simp only [Except.map, bind, Except.bind, pure, Except.pure, append, Marker.append, htail]

theorem placeholders_append (s t : Template) :
    (s.append t).placeholders = s.placeholders ++ t.placeholders := by
  simp only [placeholders, append, Marker.append, List.map_append]
  rw [Marker.bodies_fuse]

theorem references_append (s t : Template) (name : Text) :
    (s.append t).references name = (s.references name || t.references name) := by
  simp only [references, placeholders_append, List.any_append]

/-! ### Rendering -/

/-- The texts that take the places of the placeholders, in order; the leftmost fault is
reported. -/
def values (t : Template) (r : Record) : Except RenderError (List Text) :=
  t.placeholders.mapM fun p => p.substitute (t.valueOf r p.reference)

/-- The template with texts in the places of its placeholders. -/
def fill (t : Template) (texts : List Text) : Text := Marker.weave t.segments t.tail texts

theorem renderSegments_cons (t : Template) (r : Record) (tail literal : Text) (p : Placeholder)
    (rest : List (Text × Placeholder)) :
    t.renderSegments r tail ((literal, p) :: rest) = (do
      let text ← p.substitute (t.valueOf r p.reference)
      let more ← t.renderSegments r tail rest
      return literal ++ text ++ more) := rfl

theorem renderSegments_eq_map_weave (t : Template) (r : Record) (tail : Text)
    (segments : List (Text × Placeholder)) :
    t.renderSegments r tail segments =
      ((segments.map Prod.snd).mapM fun p : Placeholder =>
        p.substitute (t.valueOf r p.reference)).map
        (Marker.weave segments tail) := by
  induction segments with
  | nil => rfl
  | cons segment rest ih =>
    obtain ⟨literal, p⟩ := segment
    rw [renderSegments_cons, List.map_cons, List.mapM_cons, ih]
    cases p.substitute (t.valueOf r p.reference) with
    | error e => rfl
    | ok text =>
      cases (rest.map Prod.snd).mapM fun p : Placeholder =>
        p.substitute (t.valueOf r p.reference) <;> rfl

/-- Rendering puts values between literals as they are. -/
theorem render_eq_map_fill (t : Template) (r : Record) : t.render r = (t.values r).map t.fill :=
  t.renderSegments_eq_map_weave r t.tail t.segments

/-- Each placeholder has one value. -/
theorem length_of_values {t : Template} {r : Record} {texts : List Text}
    (h : t.values r = .ok texts) : texts.length = t.segments.length := by
  rw [← (mapM_eq_ok_iff.mp h).length_eq, placeholders, List.length_map]

/-- Only the remaining fields depend on the template in which a reference stands. -/
theorem valueOf_eq_of_ne_remaining (s t : Template) (r : Record) {reference : Reference}
    (h : reference ≠ .remaining) : s.valueOf r reference = t.valueOf r reference := by
  cases reference with
  | eventName => rfl
  | remaining => exact absurd rfl h
  | field path => rfl

/-- The values of a template without remaining fields, behind any other literals. -/
theorem values_eq_mapM {s : Template} (t : Template) (r : Record)
    (h : ∀ p ∈ s.placeholders, p.reference ≠ .remaining) :
    s.values r = s.placeholders.mapM fun p => p.substitute (t.valueOf r p.reference) := by
  unfold values
  generalize s.placeholders = placeholders at h ⊢
  induction placeholders with
  | nil => rfl
  | cons p rest ih =>
    rw [List.mapM_cons, List.mapM_cons, ih fun q hq => h q (List.mem_cons_of_mem p hq),
      valueOf_eq_of_ne_remaining s t r (h p List.mem_cons_self)]

theorem values_append {s t : Template} (r : Record)
    (hs : ∀ p ∈ s.placeholders, p.reference ≠ .remaining)
    (ht : ∀ p ∈ t.placeholders, p.reference ≠ .remaining) :
    (s.append t).values r = (do
      let first ← s.values r
      let more ← t.values r
      return first ++ more) := by
  rw [values_eq_mapM (s.append t) r hs, values_eq_mapM (s.append t) r ht, values,
    placeholders_append, List.mapM_append]

theorem fill_append {s t : Template} {first more : List Text}
    (hs : first.length = s.segments.length) (ht : more.length = t.segments.length) :
    (s.append t).fill (first ++ more) = s.fill first ++ t.fill more :=
  Marker.weave_append_fuse hs ht

/-- Two templates together are rendered one after the other; the leftmost fault is reported. -/
theorem render_append {s t : Template} (r : Record)
    (hs : ∀ p ∈ s.placeholders, p.reference ≠ .remaining)
    (ht : ∀ p ∈ t.placeholders, p.reference ≠ .remaining) :
    (s.append t).render r = (do
      let first ← s.render r
      let more ← t.render r
      return first ++ more) := by
  rw [render_eq_map_fill, render_eq_map_fill, render_eq_map_fill, values_append r hs ht]
  cases hfirst : s.values r with
  | error e => rfl
  | ok first =>
    cases hmore : t.values r with
    | error e => rfl
    | ok more =>
      simp only [Except.map, bind, Except.bind, pure, Except.pure]
      rw [fill_append (length_of_values hfirst) (length_of_values hmore)]

/-! ### Both -/

/-- Two texts together, if no marker can reach beyond the seam, are compiled and rendered one after
the other, and the leftmost fault is reported.  Remaining fields are the exception, since they are
those that no placeholder of the whole template names. -/
theorem compile_concatenation (zone : Zone) {a : Text} (h : '{' ∉ Marker.afterLastClose a)
    (b : Text) :
    match compile zone a, compile zone b with
    | .error e, _ => compile zone (a ++ b) = .error e
    | .ok _, .error e => compile zone (a ++ b) = .error e
    | .ok s, .ok t => ∃ u, compile zone (a ++ b) = .ok u ∧
      u.placeholders = s.placeholders ++ t.placeholders ∧
      (∀ name, u.references name = (s.references name || t.references name)) ∧
      (∀ r, u.render r = (u.values r).map u.fill) ∧
      ((∀ p ∈ s.placeholders, p.reference ≠ .remaining) →
        (∀ p ∈ t.placeholders, p.reference ≠ .remaining) → ∀ r,
        match s.render r, t.render r with
        | .error e, _ => u.render r = .error e
        | .ok _, .error e => u.render r = .error e
        | .ok x, .ok y => u.render r = .ok (x ++ y)) := by
  rw [compile_append zone h b]
  cases compile zone a with
  | error e => rfl
  | ok s =>
    cases compile zone b with
    | error e => rfl
    | ok t =>
      refine ⟨s.append t, rfl, placeholders_append s t, references_append s t,
        render_eq_map_fill _, ?_⟩
      intro hs ht r
      rw [render_append r hs ht]
      cases s.render r with
      | error e => rfl
      | ok x => cases t.render r <;> rfl

/-- The texts `{a}}` and `{b,C}`: the closing brace at the seam belongs to no marker. -/
theorem compile_concatenation_closed :
    ∃ s t u, compile .utc "\x7ba\x7d\x7d".toList = .ok s ∧
      compile .utc "\x7bb,C\x7d".toList = .ok t ∧
      compile .utc ("\x7ba\x7d\x7d".toList ++ "\x7bb,C\x7d".toList) = .ok u ∧
      u.placeholders = s.placeholders ++ t.placeholders ∧ ∀ r,
        match s.render r, t.render r with
        | .error e, _ => u.render r = .error e
        | .ok _, .error e => u.render r = .error e
        | .ok x, .ok y => u.render r = .ok (x ++ y) := by
  have hs : compile .utc "\x7ba\x7d\x7d".toList = .ok ⟨"\x7ba\x7d\x7d".toList,
      [([], ⟨['a'], .field ⟨['a'], []⟩, []⟩)], ['}']⟩ := by
    have hsplit : Marker.split "\x7ba\x7d\x7d".toList = ([([], ['a'])], ['}']) := by
      decide +kernel
    rw [compile_eq_map, hsplit]
    rfl
  have ht : compile .utc "\x7bb,C\x7d".toList = .ok ⟨"\x7bb,C\x7d".toList,
      [([], ⟨"b,C".toList, .field ⟨['b'], []⟩, [.upperCase]⟩)], []⟩ := by
    have hsplit : Marker.split "\x7bb,C\x7d".toList = ([([], "b,C".toList)], []) := by
      decide +kernel
    rw [compile_eq_map, hsplit]
    rfl
  have h := compile_concatenation .utc (a := "\x7ba\x7d\x7d".toList) (by decide)
    "\x7bb,C\x7d".toList
  rw [hs, ht] at h
  obtain ⟨u, hu, hplaceholders, -, -, hrender⟩ := h
  exact ⟨_, _, u, hs, ht, hu, hplaceholders, hrender (by decide) (by decide)⟩

end Template

end TraceText
