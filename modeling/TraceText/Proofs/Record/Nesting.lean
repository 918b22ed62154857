import TraceText.Proofs.Record.OneLine
import TraceText.Proofs.Record.Scalar

/-!
# Objects inside of objects

The default text of a record is put together from those of the objects in it.  An object inside of
others is written as it is by itself, only that all its lines but the first are indented as far as
the line where it begins.  This needs that no text in the object has a line feed of its own, which
would begin a line without indentation.

## Main definitions

* `Text.hang` — a text with a margin before all its lines but the first
* `Value.TextsInLine` — no name and no string at any depth of a value has a line feed
* `Site` — a place for fields in a record: the objects around it and the fields next to it

## Main results

* `Value.hang_entry` — a margin of some depth makes a value deeper by as much
* `Site.exists_text_holding` — the text around a place does not depend on the fields there
* `Record.nested_object_shows_own_text` — the lines of an object inside of others
-/

namespace TraceText

open KeyedTree

/-! ### Margins -/

namespace Text

/-- A text with a margin before all its lines but the first. -/
def hang (margin t : Text) : Text := join ('\n' :: margin) (splitOn '\n' t)

variable (margin : Text)

theorem hang_nil : hang margin [] = [] := rfl

theorem hang_cons_lineFeed (t : Text) :
    hang margin ('\n' :: t) = '\n' :: margin ++ hang margin t := by
  obtain ⟨piece, rest, hpieces⟩ := List.exists_cons_of_ne_nil (splitOn_ne_nil '\n' t)
  rw [hang, hang, splitOn_cons_self, hpieces, join_cons_cons]
  rfl

theorem hang_cons_of_ne {c : Char} (h : c ≠ '\n') (t : Text) :
    hang margin (c :: t) = c :: hang margin t := by
  obtain ⟨piece, rest, hpieces⟩ := List.exists_cons_of_ne_nil (splitOn_ne_nil '\n' t)
  rw [hang, hang, splitOn_cons_of_ne h, hpieces, List.modifyHead_cons]
  cases rest <;> rfl

theorem hang_append (s t : Text) : hang margin (s ++ t) = hang margin s ++ hang margin t := by
  induction s with
  | nil => rfl
  | cons c s ih =>
    by_cases h : c = '\n'
    · subst h
      rw [List.cons_append, hang_cons_lineFeed, hang_cons_lineFeed, ih, List.append_assoc]
    · rw [List.cons_append, hang_cons_of_ne margin h, hang_cons_of_ne margin h, ih]
      rfl

variable {margin}

/-- A single line has no margin. -/
theorem hang_of_not_mem {t : Text} (h : '\n' ∉ t) : hang margin t = t := by
  rw [hang, splitOn_of_not_mem h, join_singleton]

theorem hang_lineFeed : hang margin "\n".toList = "\n".toList ++ margin := by
  have h := hang_cons_lineFeed margin []
  rwa [hang_nil, List.append_nil] at h

/-- Blocks of lines, each of them moved to the right by the margin. -/
theorem append_hang_flatMap {α : Type} {block moved : α → Text} {xs : List α}
    (h : ∀ x ∈ xs, margin ++ hang margin (block x) = moved x ++ margin) :
    margin ++ hang margin (xs.flatMap block) = xs.flatMap moved ++ margin := by
  induction xs with
  | nil => exact List.append_nil margin
  | cons x xs ih =>
    obtain ⟨hx, hxs⟩ := List.forall_mem_cons.mp h
    -- the margin behind the last line feed of a block begins the next block
    calc margin ++ hang margin ((x :: xs).flatMap block)
        = margin ++ hang margin (block x) ++ hang margin (xs.flatMap block) := by
          rw [List.flatMap_cons, hang_append, List.append_assoc]
      _ = moved x ++ (margin ++ hang margin (xs.flatMap block)) := by
          rw [hx, List.append_assoc]
      _ = (x :: xs).flatMap moved ++ margin := by
          rw [ih hxs, List.flatMap_cons, List.append_assoc]

/-- A line, blocks of lines below it, and a last line without a line feed. -/
theorem hang_bracketed {α : Type} {opening closing : Text} {block moved : α → Text} {xs : List α}
    (hopening : '\n' ∉ opening) (hclosing : '\n' ∉ closing)
    (h : ∀ x ∈ xs, margin ++ hang margin (block x) = moved x ++ margin) :
    hang margin (opening ++ '\n' :: (xs.flatMap block ++ closing)) =
      opening ++ '\n' :: (xs.flatMap moved ++ (margin ++ closing)) := by
  rw [hang_append, hang_of_not_mem hopening, hang_cons_lineFeed, hang_append,
    hang_of_not_mem hclosing]
  calc opening ++ ('\n' :: margin ++ (hang margin (xs.flatMap block) ++ closing))
      = opening ++ '\n' :: (margin ++ hang margin (xs.flatMap block) ++ closing) := by
        rw [List.cons_append, List.append_assoc]
    _ = opening ++ '\n' :: (xs.flatMap moved ++ (margin ++ closing)) := by
        rw [append_hang_flatMap h, List.append_assoc]

end Text

theorem indent_zero : indent 0 = [] := rfl

theorem indent_add (k depth : Nat) : indent (k + depth) = indent k ++ indent depth := by
  rw [indent, Text.times, List.replicate_add, List.flatten_append]
  rfl

theorem lineFeed_not_mem_indent (depth : Nat) : '\n' ∉ indent depth := by
  intro hmem
  obtain ⟨piece, hpiece, hpieceMem⟩ := List.mem_flatten.mp hmem
  obtain rfl := List.eq_of_mem_replicate hpiece
  exact absurd hpieceMem (by decide)

/-! ### Values with a margin -/

namespace Value

/-- The texts that a value shows itself, apart from those inside of it, have no line feed. -/
def OwnTextsInLine : Value → Prop
  | .object typeName _ fields => '\n' ∉ typeName ∧ ∀ field ∈ fields, '\n' ∉ field.1
  | .str t => '\n' ∉ t
  | .frames entries => ∀ f ∈ entries, f.InLine
  | _ => True

/-- No text at any depth of a value has a line feed: neither names of types, fields and methods, nor
strings. -/
def TextsInLine : Value → Prop := Everywhere OwnTextsInLine

theorem fieldsText_eq_flatMap (depth : Nat) (fields : Fields) :
    fieldsText depth fields = fields.flatMap fun field => fieldsText depth [field] := by
  induction fields with
  | nil => rfl
  | cons field rest ih => rw [List.flatMap_cons, ← ih, ← fieldsText_append, List.singleton_append]

/-- A field is moved to the right with its value. -/
theorem append_hang_fieldsText {k depth : Nat} {field : Text × Value} (hname : '\n' ∉ field.1)
    (hvalue : Text.hang (indent k) (field.2.entry depth) = field.2.entry (k + depth)) :
    indent k ++ Text.hang (indent k) (fieldsText depth [field]) =
      fieldsText (k + depth) [field] ++ indent k := by
  have hequals : '\n' ∉ (" = " : Text) := by decide
  simp only [fieldsText, List.append_nil, Text.hang_append, hvalue, Text.hang_lineFeed,
    Text.hang_of_not_mem hname, Text.hang_of_not_mem hequals,
    Text.hang_of_not_mem (lineFeed_not_mem_indent depth), indent_add, List.append_assoc]

/-- A stack trace is moved to the right with its entries. -/
theorem hang_framesEntry (k depth : Nat) {entries : List Frame} (h : ∀ f ∈ entries, f.InLine) :
    Text.hang (indent k) (framesEntry depth entries) = framesEntry (k + depth) entries := by
  have hblank : '\n' ∉ ("  " : Text) := by decide
  have hopening : '\n' ∉ ("[" : Text) := by decide
  have hclosing : '\n' ∉ indent depth ++ "]".toList := by
    simp [lineFeed_not_mem_indent]
  let line (depth : Nat) (f : Frame) : Text := indent depth ++ "  ".toList ++ f.text ++ "\n".toList
  have hline (f : Frame) (hf : f ∈ entries) :
      indent k ++ Text.hang (indent k) (line depth f) = line (k + depth) f ++ indent k := by
    simp only [line, Text.hang_append, Text.hang_lineFeed, Text.hang_of_not_mem hblank,
      Text.hang_of_not_mem (h f hf).lineFeed_not_mem_text,
      Text.hang_of_not_mem (lineFeed_not_mem_indent depth), indent_add, List.append_assoc]
  have hlines := Text.hang_bracketed hopening hclosing hline
  simpa [framesEntry, line, indent_add] using hlines

/-- A margin of some depth makes a value deeper by as much. -/
theorem hang_entry (k : Nat) {v : Value} (h : v.TextsInLine) (depth : Nat) :
    Text.hang (indent k) (v.entry depth) = v.entry (k + depth) := by
  -- the fields of an object are one step deeper than it is, so the depth is not fixed
  induction v using Value.induction generalizing depth with
  | null =>
    have hmissing : '\n' ∉ missingText := by decide
    exact Text.hang_of_not_mem hmissing
  | bool b => exact Text.hang_of_not_mem (lineFeed_not_mem_boolText b)
  | int i declared =>
    cases hdecoded : (Value.int i declared).decoded? with
    | none =>
      simp only [entry, hdecoded]
      exact Text.hang_of_not_mem (Decimal.lineFeed_not_mem_ofInt i)
    | some t =>
      simp only [entry, hdecoded]
      exact Text.hang_of_not_mem t.lineFeed_not_mem_rfc3339
  | natural n => exact Text.hang_of_not_mem (Decimal.lineFeed_not_mem_digits n)
  | float x => exact Text.hang_of_not_mem x.lineFeed_not_mem_text
  | str t =>
    have ht : '\n' ∉ t := h.self
    have hquoted : '\n' ∉ ['"'] ++ t ++ ['"'] := by simp [ht]
    exact Text.hang_of_not_mem hquoted
  | instant t => exact Text.hang_of_not_mem t.lineFeed_not_mem_rfc3339
  | object typeName kind fields ih =>
    obtain ⟨htype, hnames⟩ : '\n' ∉ typeName ∧ ∀ field ∈ fields, '\n' ∉ field.1 := h.self
    have hopening : '\n' ∉ typeName ++ " \x7b".toList := by simp [htype]
    have hclosing : '\n' ∉ indent depth ++ "\x7d".toList := by
      simp [lineFeed_not_mem_indent]
    have hfields (field : Text × Value) (hfield : field ∈ fields) :=
      append_hang_fieldsText (hnames field hfield)
        (ih field hfield (Everywhere.child h hfield) (depth + 1))
    have hlines := Text.hang_bracketed hopening hclosing hfields
    rw [← fieldsText_eq_flatMap, ← fieldsText_eq_flatMap] at hlines
    simpa [entry, indent_add, Nat.add_assoc] using hlines
  | frames entries => exact hang_framesEntry k depth h.self

/-- By itself, an object is written as it is at the left. -/
theorem entry_zero_object (typeName : Text) (kind : ObjectKind) (fields : Fields) :
    (object typeName kind fields).entry 0 = objectText typeName fields := by
  rw [entry, indent_zero, List.append_nil]
  rfl

end Value

/-! ### Places in a record -/

/-- An object and the fields next to it, with room for the fields in the object. -/
structure Enclosure where
  before : Fields
  name : Text
  typeName : Text
  kind : ObjectKind
  after : Fields

/-- The fields next to the object and the object itself, which holds the given ones. -/
def Enclosure.holding (e : Enclosure) (fields : Fields) : Fields :=
  e.before ++ (e.name, .object e.typeName e.kind fields) :: e.after

/-- A place for fields among those of a record: inside of objects, the outermost of them first, and
between the fields next to it. -/
structure Site where
  around : List Enclosure
  before : Fields
  after : Fields

namespace Site

/-- The fields of a record with the given ones in their place. -/
def holding (s : Site) (fields : Fields) : Fields :=
  s.around.foldr Enclosure.holding (s.before ++ fields ++ s.after)

/-- How far the fields in their place are indented. -/
def depth (s : Site) : Nat := s.around.length + 1

/-- The names on the way to a field in its place. -/
def names (s : Site) (key : Text) : List Text := s.around.map Enclosure.name ++ [key]

/-- On the way to a field in its place, no field with the same name comes first.  There is none
where no two fields of an object have one name. -/
def IsFirst (s : Site) (key : Text) : Prop :=
  (∀ e ∈ s.around, ∀ field ∈ e.before, field.1 ≠ e.name) ∧ ∀ field ∈ s.before, field.1 ≠ key

end Site

/-- The chain of names leads to the fields in their place and to those next to them. -/
theorem Site.level {s : Site} {key : Text} (h : s.IsFirst key) (fields : Fields) :
    Level (s.holding fields) (s.around.map Enclosure.name) (s.before ++ fields ++ s.after) := by
  obtain ⟨around, before, after⟩ := s
  obtain ⟨haround, -⟩ := h
  simp only [holding] at haround ⊢
  induction around with
  | nil => exact .top _
  | cons e around ih =>
    obtain ⟨hfirst, haround⟩ := List.forall_mem_cons.mp haround
    rw [List.foldr_cons, List.map_cons]
    exact .inside (Fields.get?_of_forall_ne hfirst) (ih haround)

/-! ### The text around a place -/

/-- A text consists of whole lines, each with its line feed. -/
def Text.IsLines (t : Text) : Prop := ∀ c ∈ t.getLast?, c = '\n'

namespace Text.IsLines

theorem nil : IsLines [] := nofun

theorem concat (t : Text) : IsLines (t ++ ['\n']) := by
  intro c hc
  rw [List.getLast?_concat] at hc
  exact (Option.some.inj hc).symm

theorem append {t u : Text} (ht : IsLines t) (hu : IsLines u) : IsLines (t ++ u) := by
  intro c hc
  rw [List.getLast?_append, Option.mem_def, Option.or_eq_some_iff] at hc
  rcases hc with hc | ⟨-, hc⟩
  · exact hu c hc
  · exact ht c hc

end Text.IsLines

theorem isLines_fieldsText (depth : Nat) (fields : Fields) : (fieldsText depth fields).IsLines := by
  induction fields with
  | nil => exact .nil
  | cons field rest ih => exact .append (.concat _) ih

theorem Enclosure.exists_fieldsText_holding (e : Enclosure) (depth : Nat) :
    ∃ above below : Text, above.IsLines ∧ ∀ fields, fieldsText depth (e.holding fields) =
      above ++ fieldsText (depth + 1) fields ++ below := by
  refine ⟨fieldsText depth e.before ++
      (indent depth ++ e.name ++ " = ".toList ++ e.typeName ++ " \x7b".toList ++ ['\n']),
    indent depth ++ "\x7d\n".toList ++ fieldsText depth e.after,
    .append (isLines_fieldsText depth e.before) (.concat _), fun fields => ?_⟩
  rw [holding, fieldsText_append, fieldsText_cons, Value.entry]
  simp

/-- However many objects are around fields, the text around them does not depend on the fields. -/
theorem exists_fieldsText_foldr (around : List Enclosure) (depth : Nat) :
    ∃ above below : Text, above.IsLines ∧
      ∀ fields, fieldsText depth (around.foldr Enclosure.holding fields) =
        above ++ fieldsText (around.length + depth) fields ++ below := by
  induction around generalizing depth with
  | nil =>
    refine ⟨[], [], .nil, fun fields => ?_⟩
    simp
  | cons e around ih =>
    obtain ⟨above, below, habove, houter⟩ := e.exists_fieldsText_holding depth
    obtain ⟨above', below', habove', hinner⟩ := ih (depth + 1)
    -- the text around the innermost fields is around that of the objects in between
    refine ⟨above ++ above', below' ++ below, habove.append habove', fun fields => ?_⟩
    rw [List.foldr_cons, houter, hinner, List.length_cons, Nat.add_assoc, Nat.add_comm 1 depth]
    simp only [List.append_assoc]

/-- The text around a place does not depend on the fields there, which begin a line. -/
theorem Site.exists_text_holding (s : Site) (r : Record) :
    ∃ above below : Text, above.IsLines ∧
      ∀ fields, Record.text { r with fields := s.holding fields } =
        above ++ fieldsText s.depth fields ++ below := by
  obtain ⟨above, below, habove, htext⟩ := exists_fieldsText_foldr s.around 1
  have hheader : Text.IsLines (r.eventType ++ " \x7b\n  startTime = ".toList ++
      r.startTime.rfc3339 ++ "\n  endTime = ".toList ++ r.endTime.rfc3339 ++ "\n".toList) :=
    .concat _
  refine ⟨_, fieldsText s.depth s.after ++ below ++ "\x7d".toList,
    (hheader.append habove).append (isLines_fieldsText s.depth s.before), fun fields => ?_⟩
  simp only [Record.text, holding, depth, htext, fieldsText_append, List.append_assoc]

namespace Record

/-- An object field of a record, inside of any number of objects, adds lines to the default text of
the record: the indentation of its depth, its name, and the text of the object as it is by itself,
with this indentation before all its lines but the first.  The text by itself is what a placeholder
shows that names the field.  No name and no string in the object has a line feed. -/
theorem nested_object_shows_own_text {r : Record} {s : Site} {key typeName : Text}
    {kind : ObjectKind} {fields : Fields}
    (hr : r.fields = s.holding [(key, .object typeName kind fields)])
    (hfirst : s.IsFirst key) (hline : (Value.object typeName kind fields).TextsInLine) :
    (∃ above below : Text, above.IsLines ∧
      (∀ others, text { r with fields := s.holding others } =
        above ++ fieldsText s.depth others ++ below) ∧
      r.text = above ++ (indent s.depth ++ key ++ " = " ++
        Text.hang (indent s.depth) (Value.objectText typeName fields) ++ "\n") ++ below) ∧
    ∀ (t : Template) (p : Placeholder) (path : FieldPath), p.parameters = [] →
      p.reference = .field path → path.segments = s.names key →
      p.substitute (t.valueOf r p.reference) = .ok (Value.objectText typeName fields) := by
  constructor
  · obtain ⟨above, below, habove, htext⟩ := s.exists_text_holding r
    -- by itself the object is at depth zero, from where the margin moves it to its place
    have hmoved : Text.hang (indent s.depth) (Value.objectText typeName fields) =
        (Value.object typeName kind fields).entry s.depth := by
      rw [← Value.entry_zero_object typeName kind fields, Value.hang_entry s.depth hline,
        Nat.add_zero]
    refine ⟨above, below, habove, htext, ?_⟩
    calc r.text
        = text { r with fields := s.holding [(key, .object typeName kind fields)] } := by rw [← hr]
      _ = above ++ fieldsText s.depth [(key, .object typeName kind fields)] ++ below := htext _
      _ = above ++ (indent s.depth ++ key ++ " = ".toList ++
            Text.hang (indent s.depth) (Value.objectText typeName fields) ++ "\n".toList) ++
              below := by
          rw [hmoved, fieldsText_cons, fieldsText, List.append_nil]
  · intro t p path hparameters hreference hpath
    have hget : Fields.get? (s.before ++ [(key, .object typeName kind fields)] ++ s.after) key =
        some (.object typeName kind fields) := by
      rw [List.append_assoc]
      exact Fields.get?_of_forall_ne hfirst.2
    have hleads : r.fields.Leads path.segments (.object typeName kind fields) := by
      rw [hr, hpath]
      exact (Site.level hfirst _).leads hget
    have hrender : (Value.object typeName kind fields).render false =
        some (.text (Value.objectText typeName fields)) := rfl
    exact t.substitute_of_leads hparameters hreference hleads hrender

/-- The fields of a group of threads, with the stack trace of what made it. -/
def groupFields : Fields :=
  [("name".toList, .str "main"), ("madeBy".toList, .frames [⟨"com.acme.Main", "run", 10⟩])]

/-- Inside of a thread, behind its name. -/
def inThread : Site where
  around := [⟨[], "thread", "java.lang.Thread", .thread, [("count".toList, .int 3 none)]⟩]
  before := [("javaName".toList, .str "worker-1")]
  after := []

/-- The group of a thread is shown two steps to the right. -/
theorem nested_object_shows_own_text_in_thread :
    let group : Value := .object "java.lang.ThreadGroup" .threadGroup groupFields
    let r : Record := ⟨"start", .epoch, .epoch, inThread.holding [("group".toList, group)]⟩
    let p : Placeholder := ⟨[], .field ⟨"thread", ["group".toList]⟩, []⟩
    inThread.IsFirst "group" ∧ group.TextsInLine ∧
      (∃ above below : Text, above.IsLines ∧ r.text = above ++
        ("    group = java.lang.ThreadGroup \x7b\n      name = \"main\"\n      madeBy = [\n" ++
          "        com.acme.Main.run(Line:10)\n      ]\n    \x7d\n" : String).toList ++ below) ∧
      ∀ t : Template, p.substitute (t.valueOf r p.reference) = .ok
        ("java.lang.ThreadGroup \x7b\n  name = \"main\"\n  madeBy = [\n" ++
          "    com.acme.Main.run(Line:10)\n  ]\n\x7d" : String).toList := by
  intro group r p
  have hfirst : inThread.IsFirst "group" := by
    unfold Site.IsFirst
    decide
  have hline : group.TextsInLine := by
    refine everywhere_iff.mpr ⟨?own, fun child hchild => ?below⟩
    case own =>
      unfold group Value.OwnTextsInLine
      decide
    case below =>
      rcases List.mem_cons.mp hchild with rfl | hchild
      · have hname : '\n' ∉ ("main" : Text) := by decide
        exact everywhere_iff.mpr ⟨hname, nofun⟩
      · obtain rfl := List.mem_singleton.mp hchild
        have hframe : Frame.InLine ⟨"com.acme.Main", "run", 10⟩ := by
          constructor <;> decide
        exact everywhere_iff.mpr ⟨List.forall_mem_singleton.mpr hframe, nofun⟩
  obtain ⟨⟨above, below, habove, -, htext⟩, hplaceholder⟩ :=
    nested_object_shows_own_text (r := r) rfl hfirst hline
  have hown : Value.objectText "java.lang.ThreadGroup".toList groupFields =
      ("java.lang.ThreadGroup \x7b\n  name = \"main\"\n  madeBy = [\n" ++
        "    com.acme.Main.run(Line:10)\n  ]\n\x7d" : String).toList := by
    decide +kernel
  have hlines : indent inThread.depth ++ "group".toList ++ " = ".toList ++
      Text.hang (indent inThread.depth)
        (Value.objectText "java.lang.ThreadGroup".toList groupFields) ++ "\n".toList =
      ("    group = java.lang.ThreadGroup \x7b\n      name = \"main\"\n      madeBy = [\n" ++
        "        com.acme.Main.run(Line:10)\n      ]\n    \x7d\n" : String).toList := by
    decide +kernel
  rw [hlines] at htext
  refine ⟨hfirst, hline, ⟨above, below, habove, htext⟩, fun t => ?_⟩
  rw [← hown]
  exact hplaceholder t p _ rfl rfl rfl

end Record

end TraceText
