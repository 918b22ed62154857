import Mathlib.Data.List.TakeWhile
import TraceText.DatePattern.Basic

/-!
# The pieces of date patterns

A date pattern is a row of pieces: runs of one letter, text between quotes, two quotes for a quote,
and characters that stand for themselves.  A run has all the letters that stand together, and text
between quotes ends at the first quote that is not followed by another one.  A piece can be at
fault by itself, and the format of a pattern depends on the pieces only: the first piece at fault
decides why there is none, and without a fault every run becomes one field and everything else the
literal text that it stands for.  Since a percent sign is written twice, a format is read back as
the fields and literal characters from which it was written, whatever stands next to each other; so
the check at the end of the translation refuses nothing.

## Main definitions

* `DatePattern.Piece`, `DatePattern.Spells` — the pieces of a pattern
* `DatePattern.Piece.fault?` — what is wrong with a piece
* `DatePattern.Piece.items` — the fields and literal characters of a piece

## Main results

* `FormatItem.parse_flatMap_write` — a format is read back as its parts
* `DatePattern.exists_spells` — every text is a row of pieces
* `DatePattern.items_of_spells` — what a pattern describes, by its pieces
* `DatePattern.toFormat_follows_pieces` — what patterns are accepted, and what their formats show
-/

namespace TraceText

/-! ### Formats are read back -/

/-- A specifier is one letter, or two characters of which the first is no specifier by itself. -/
theorem TimeField.specifier_eq (f : TimeField) :
    (∃ c, f.specifier = [c] ∧ c ≠ '%' ∧ ofLetter? c = some f) ∨
      ∃ c d, f.specifier = [c, d] ∧ c ≠ '%' ∧ ofLetter? c = none ∧ ofLetters? c d = some f := by
  cases f
  case month | day | ordinal | hour | halfDayHour | minute | second | millis | micros | nanos
      | offsetColon =>
    exact .inr ⟨_, _, rfl, by decide, rfl, rfl⟩
  all_goals exact .inl ⟨_, rfl, by decide, rfl⟩

namespace FormatItem

/-- Any character but a percent sign stands for itself in a format. -/
theorem parse_plain {c : Char} (h : c ≠ '%') (rest : Text) :
    parse (c :: rest) = (parse rest).map (literal c :: ·) := by
  rw [parse.eq_5, if_neg h]
  · intro _ hc
    exact absurd hc h
  · intro _ _ hc
    exact absurd hc h

theorem parse_letter {c : Char} {f : TimeField} (hc : c ≠ '%')
    (h : TimeField.ofLetter? c = some f) (rest : Text) :
    parse ('%' :: c :: rest) = (parse rest).map (field f :: ·) := by
  cases rest with
  | nil => rw [parse.eq_4 c hc, h]
  | cons d rest => rw [parse.eq_3 c d rest hc, h]

theorem parse_letters {c d : Char} {f : TimeField} (hc : c ≠ '%')
    (h : TimeField.ofLetter? c = none) (hd : TimeField.ofLetters? c d = some f) (rest : Text) :
    parse ('%' :: c :: d :: rest) = (parse rest).map (field f :: ·) := by
  rw [parse.eq_3 c d rest hc, h, hd]
  cases parse rest <;> rfl

/-- A part of a format is read back, whatever follows. -/
theorem parse_write_append (item : FormatItem) (rest : Text) :
    parse (item.write ++ rest) = (parse rest).map (item :: ·) := by
  cases item with
  | literal c =>
    by_cases hc : c = '%'
    · -- two percent signs are matched before any specifier
      subst hc
      exact parse.eq_2 rest
    · rw [write, if_neg hc]
      exact parse_plain hc rest
  | field f =>
    rcases f.specifier_eq with ⟨c, hspec, hc, h⟩ | ⟨c, d, hspec, hc, h, hd⟩
    · rw [write, hspec]
      exact parse_letter hc h rest
    · rw [write, hspec]
      exact parse_letters hc h hd rest

/-- A format is read back as the parts from which it was written. -/
theorem parse_flatMap_write (items : List FormatItem) :
    parse (items.flatMap write) = some items := by
  induction items with
  | nil => rfl
  | cons item items ih => rw [List.flatMap_cons, parse_write_append, ih, Option.map_some]

end FormatItem

/-- A format is shown part by part. -/
theorem Zone.format_flatMap_write (zone : Zone) (items : List FormatItem) (t : Instant) :
    zone.format (items.flatMap FormatItem.write) t =
      items.flatMap (FormatItem.text zone (t.toLocal zone.offset)) := by
  rw [Zone.format, FormatItem.parse_flatMap_write, Option.getD_some]

namespace DatePattern

/-! ### Pieces -/

/-- A piece of a pattern. -/
inductive Piece where
  /-- Two quotes, which stand for one. -/
  | quote
  /-- Text between quotes. -/
  | quoted (text : Text)
  /-- Text behind a quote that nothing closes. -/
  | unclosed (text : Text)
  /-- A letter as often as it is repeated. -/
  | run (letter : Char) (count : Nat)
  /-- Any other character. -/
  | mark (c : Char)
  deriving DecidableEq

/-- A text as it stands between quotes: each quote in it is doubled. -/
def doubled (text : Text) : Text := text.flatMap fun c => if c = '\'' then ['\'', '\''] else [c]

namespace Piece

/-- A piece as it stands in a pattern. -/
def text : Piece → Text
  | quote => ['\'', '\'']
  | quoted text => '\'' :: doubled text ++ ['\'']
  | unclosed text => '\'' :: doubled text
  | run letter count => List.replicate count letter
  | mark c => [c]

/-- A piece is complete where `rest` follows: neither does it go on, nor is it read as another.
Between quotes there is some text, which does not begin with a quote, because two quotes stand for
themselves. -/
def EndsBefore : Piece → Text → Prop
  | quote, _ => True
  | quoted text, rest => text ≠ [] ∧ text.head? ≠ some '\'' ∧ rest.head? ≠ some '\''
  | unclosed text, rest => text.head? ≠ some '\'' ∧ rest = []
  | run letter count, rest => letter.isAlpha = true ∧ 0 < count ∧ rest.head? ≠ some letter
  | mark c, _ => c.isAlpha = false ∧ c ≠ '\''

instance (p : Piece) (rest : Text) : Decidable (p.EndsBefore rest) :=
  match p with
  | quote => inferInstanceAs (Decidable True)
  | quoted text =>
    inferInstanceAs (Decidable (text ≠ [] ∧ text.head? ≠ some '\'' ∧ rest.head? ≠ some '\''))
  | unclosed text => inferInstanceAs (Decidable (text.head? ≠ some '\'' ∧ rest = []))
  | run letter count =>
    inferInstanceAs (Decidable (letter.isAlpha = true ∧ 0 < count ∧ rest.head? ≠ some letter))
  | mark c => inferInstanceAs (Decidable (c.isAlpha = false ∧ c ≠ '\''))

/-- What is wrong with a piece: nothing closes it, it is a bracket, or it is a run that names no
field. -/
def fault? : Piece → Option PatternError
  | quote => none
  | quoted _ => none
  | unclosed _ => some .unterminatedQuote
  | run letter count =>
    if (knownField letter count).isSome then none
    else if letter = 'S' then some (.fractionDigits count)
    else some (.unsupportedField (List.replicate count letter))
  | mark c => if c = '[' ∨ c = ']' then some .optionalSection else none

/-- What a piece describes: a run its field, anything else the text for which it stands. -/
def items : Piece → List FormatItem
  | quote => [.literal '\'']
  | quoted text => text.map .literal
  | unclosed text => text.map .literal
  | run letter count => (knownField letter count).toList.map .field
  | mark c => [.literal c]

end Piece

/-- The pieces of a pattern, in their order. -/
inductive Spells : List Piece → Text → Prop where
  | nil : Spells [] []
  | cons {p : Piece} {pieces : List Piece} {rest : Text} (hend : p.EndsBefore rest)
      (hrest : Spells pieces rest) : Spells (p :: pieces) (p.text ++ rest)

theorem spells_nil_iff {t : Text} : Spells [] t ↔ t = [] :=
  ⟨fun h => by cases h; rfl, fun h => h ▸ .nil⟩

theorem spells_cons_iff {p : Piece} {pieces : List Piece} {t : Text} :
    Spells (p :: pieces) t ↔
      p.text <+: t ∧ p.EndsBefore (t.drop p.text.length) ∧
        Spells pieces (t.drop p.text.length) := by
  constructor
  · intro h
    cases h with
    | cons hend hrest =>
      rw [List.drop_left]
      exact ⟨List.prefix_append _ _, hend, hrest⟩
  · rintro ⟨⟨rest, rfl⟩, hend, hrest⟩
    rw [List.drop_left] at hend hrest
    exact .cons hend hrest

instance decidableSpells : ∀ (pieces : List Piece) (t : Text), Decidable (Spells pieces t)
  | [], _ => decidable_of_iff _ spells_nil_iff.symm
  | p :: pieces, t =>
    have := decidableSpells pieces (t.drop p.text.length)
    decidable_of_iff _ spells_cons_iff.symm

@[simp] theorem doubled_nil : doubled [] = [] := rfl

theorem doubled_cons_quote (text : Text) :
    doubled ('\'' :: text) = '\'' :: '\'' :: doubled text := rfl

theorem doubled_cons {c : Char} (h : c ≠ '\'') (text : Text) :
    doubled (c :: text) = c :: doubled text := by
  simp [doubled, h]

/-! ### Every text is a row of pieces -/

/-- Behind a quote stands text that nothing closes, or text up to the first quote that is not
followed by another one. -/
theorem exists_closing : ∀ t : Text,
    (∃ text, t = doubled text) ∨
      ∃ text rest, t = doubled text ++ '\'' :: rest ∧ rest.head? ≠ some '\''
  | [] => .inl ⟨[], rfl⟩
  | c :: rest => by
    by_cases hc : c = '\''
    · subst hc
      by_cases hrest : rest.head? = some '\''
      · -- two quotes belong together, whatever stands behind them
        obtain ⟨rest, rfl⟩ := List.head?_eq_some_iff.mp hrest
        rcases exists_closing rest with ⟨text, rfl⟩ | ⟨text, after, rfl, hafter⟩
        · exact .inl ⟨'\'' :: text, rfl⟩
        · exact .inr ⟨'\'' :: text, after, rfl, hafter⟩
      · exact .inr ⟨[], rest, rfl, hrest⟩
    · rcases exists_closing rest with ⟨text, rfl⟩ | ⟨text, after, rfl, hafter⟩
      · exact .inl ⟨c :: text, (doubled_cons hc text).symm⟩
      · exact .inr ⟨c :: text, after, by rw [doubled_cons hc, List.cons_append], hafter⟩
termination_by t => t.length

/-- Doubled text begins with the same character. -/
theorem head?_doubled_append (text rest : Text) :
    (doubled text ++ rest).head? = (text ++ rest).head? := by
  cases text with
  | nil => rfl
  | cons c text =>
    by_cases hc : c = '\''
    · subst hc
      rfl
    · rw [doubled_cons hc]
      rfl

/-- What a text begins with, it begins with whatever follows. -/
theorem head?_ne_of_append {text rest : Text} {c : Char} (h : (text ++ rest).head? ≠ some c) :
    text.head? ≠ some c := by
  intro htext
  obtain ⟨text, rfl⟩ := List.head?_eq_some_iff.mp htext
  exact h rfl

/-- A piece stands at the beginning of a text, and it is not empty. -/
def BeginsWithPiece (t : Text) : Prop :=
  ∃ (p : Piece) (rest : Text), p.EndsBefore rest ∧ t = p.text ++ rest ∧ rest.length < t.length

/-- A quote that is not followed by another one begins a piece. -/
theorem beginsWithPiece_of_quote {t : Text} (h : t.head? ≠ some '\'') :
    BeginsWithPiece ('\'' :: t) := by
  rcases exists_closing t with ⟨text, rfl⟩ | ⟨text, rest, rfl, hrest⟩
  · rw [← List.append_nil (doubled text), head?_doubled_append] at h
    exact ⟨.unclosed text, [], ⟨head?_ne_of_append h, rfl⟩, by simp [Piece.text], by simp⟩
  · rw [head?_doubled_append] at h
    have htext : text ≠ [] := by
      rintro rfl
      exact h rfl
    refine ⟨.quoted text, rest, ⟨htext, head?_ne_of_append h, hrest⟩, by simp [Piece.text], ?_⟩
    simp only [List.length_cons, List.length_append]
    omega

/-- The letters that stand together with the first one are a run. -/
theorem beginsWithPiece_of_letter {c : Char} (h : c.isAlpha = true) (t : Text) :
    BeginsWithPiece (c :: t) := by
  have hrun : t.takeWhile (· = c) = List.replicate (t.takeWhile (· = c)).length c :=
    List.eq_replicate_of_mem fun d hd => by simpa using List.mem_takeWhile_imp hd
  have hend : (t.dropWhile (· = c)).head? ≠ some c := by
    intro hhead
    have hstop := List.head?_dropWhile_not (· = c) t
    rw [hhead] at hstop
    simp at hstop
  refine ⟨.run c ((t.takeWhile (· = c)).length + 1), t.dropWhile (· = c),
    ⟨h, Nat.succ_pos _, hend⟩, ?_, Nat.lt_succ_of_le (List.dropWhile_suffix _).length_le⟩
  rw [Piece.text, List.replicate_succ, List.cons_append, ← hrun, List.takeWhile_append_dropWhile]

/-- Every text that is not empty begins with a piece. -/
theorem beginsWithPiece (c : Char) (t : Text) : BeginsWithPiece (c :: t) := by
  by_cases hc : c = '\''
  · subst hc
    by_cases hpair : t.head? = some '\''
    · obtain ⟨rest, rfl⟩ := List.head?_eq_some_iff.mp hpair
      exact ⟨.quote, rest, trivial, rfl, by simp only [List.length_cons]; omega⟩
    · exact beginsWithPiece_of_quote hpair
  by_cases halpha : c.isAlpha = true
  · exact beginsWithPiece_of_letter halpha t
  · exact ⟨.mark c, t, ⟨Bool.eq_false_iff.mpr halpha, hc⟩, rfl, Nat.lt_succ_self _⟩

/-- Every text is a row of pieces. -/
theorem exists_spells : ∀ pattern : Text, ∃ pieces, Spells pieces pattern
  | [] => ⟨[], .nil⟩
  | c :: t => by
    obtain ⟨p, rest, hend, htext, hlength⟩ := beginsWithPiece c t
    obtain ⟨pieces, hrest⟩ := exists_spells rest
    exact ⟨p :: pieces, htext ▸ .cons hend hrest⟩
termination_by pattern => pattern.length
decreasing_by exact hlength

/-! ### The format of a pattern -/

/-- Text between quotes describes itself, up to where it ends. -/
theorem itemsFrom_doubled (text rest : Text) :
    itemsFrom true (doubled text ++ rest) =
      (itemsFrom true rest).map (text.map .literal ++ ·) := by
  induction text with
  | nil =>
    rw [doubled_nil, List.nil_append]
    cases itemsFrom true rest <;> rfl
  | cons c text ih =>
    by_cases hc : c = '\''
    · subst hc
      rw [doubled_cons_quote, List.cons_append, List.cons_append, itemsFrom.eq_2, ih]
      cases itemsFrom true rest <;> rfl
    · rw [doubled_cons hc, List.cons_append, itemsFrom.eq_4 _ _ (fun _ h => absurd h hc) hc, ih]
      cases itemsFrom true rest <;> rfl

/-- A quote that is not followed by another one changes between the inside and the outside of
quotes. -/
theorem itemsFrom_quote {rest : Text} (h : rest.head? ≠ some '\'') (inside : Bool) :
    itemsFrom inside ('\'' :: rest) = itemsFrom (!inside) rest := by
  -- two quotes in a row are matched first, so they have to be excluded
  have hrest : ∀ rest', rest = '\'' :: rest' → False := by
    rintro rest' rfl
    exact h rfl
  cases inside with
  | true => exact itemsFrom.eq_3 rest hrest
  | false => exact itemsFrom.eq_7 rest hrest

/-- A run is read as a whole where it ends. -/
theorem itemsFrom_run {c : Char} {n : Nat} {rest : Text} (hc : c.isAlpha = true)
    (h : rest.head? ≠ some c) :
    itemsFrom false (List.replicate (n + 1) c ++ rest) = (do
      let f ← fieldOfRun c (n + 1)
      let items ← itemsFrom false rest
      return .field f :: items) := by
  have hquote : c ≠ '\'' := by
    rintro rfl
    exact absurd hc (by decide)
  have hbracket : ¬ (c = '[' ∨ c = ']') := by
    rintro (rfl | rfl) <;> exact absurd hc (by decide)
  have hrun : ∀ d ∈ List.replicate n c, decide (d = c) = true := by
    intro d hd
    exact decide_eq_true (List.eq_of_mem_replicate hd)
  -- nothing of what follows is taken into the run
  have hstop : rest.takeWhile (· = c) = [] ∧ rest.dropWhile (· = c) = rest := by
    cases rest with
    | nil => exact ⟨rfl, rfl⟩
    | cons d rest =>
      have hd : ¬ decide (d = c) = true := by simpa using h
      exact ⟨List.takeWhile_cons_of_neg hd, List.dropWhile_cons_of_neg hd⟩
  rw [List.replicate_succ, List.cons_append,
    itemsFrom.eq_8 _ _ (fun _ h => absurd h hquote) hquote, if_neg hbracket, if_pos hc,
    List.takeWhile_append_of_pos hrun, List.dropWhile_append_of_pos hrun, hstop.1, hstop.2,
    List.append_nil, List.length_replicate]

/-- What a pattern describes that begins with a given piece. -/
theorem itemsFrom_piece {p : Piece} {rest : Text} (h : p.EndsBefore rest) :
    itemsFrom false (p.text ++ rest) =
      match p.fault? with
      | some e => .error e
      | none => (itemsFrom false rest).map (p.items ++ ·) := by
  cases p with
  | quote => exact itemsFrom.eq_6 rest
  | quoted text =>
    obtain ⟨hne, htext, hrest⟩ := h
    have hhead : (doubled text ++ '\'' :: rest).head? ≠ some '\'' := by
      obtain ⟨c, text, rfl⟩ := List.exists_cons_of_ne_nil hne
      rw [head?_doubled_append]
      exact htext
    rw [Piece.text, List.append_assoc, List.cons_append, List.singleton_append,
      itemsFrom_quote hhead, Bool.not_false, itemsFrom_doubled, itemsFrom_quote hrest]
    rfl
  | unclosed text =>
    obtain ⟨htext, rfl⟩ := h
    have hhead : (doubled text ++ []).head? ≠ some '\'' := by
      rwa [head?_doubled_append, List.append_nil]
    rw [Piece.text, List.cons_append, itemsFrom_quote hhead, Bool.not_false, itemsFrom_doubled,
      itemsFrom.eq_1]
    rfl
  | run letter count =>
    obtain ⟨hletter, hpos, hrest⟩ := h
    obtain ⟨n, rfl⟩ := Nat.exists_eq_succ_of_ne_zero (Nat.ne_of_gt hpos)
    rw [Piece.text, itemsFrom_run hletter hrest, fieldOfRun, Piece.fault?, Piece.items]
    cases hfield : knownField letter (n + 1) with
    | none =>
      by_cases hS : letter = 'S'
      · simp only [if_pos hS]
        rfl
      · simp only [if_neg hS]
        rfl
    | some f => cases itemsFrom false rest <;> rfl
  | mark c =>
    obtain ⟨hletter, hquote⟩ := h
    rw [Piece.text, List.singleton_append,
      itemsFrom.eq_8 _ _ (fun _ h => absurd h hquote) hquote, Piece.fault?]
    by_cases hbracket : c = '[' ∨ c = ']'
    · rw [if_pos hbracket, if_pos hbracket]
    · rw [if_neg hbracket, if_neg hbracket, hletter]
      rfl

/-- The first piece at fault decides why a pattern is refused; without a fault it describes what its
pieces describe, in their order. -/
theorem items_of_spells {pieces : List Piece} {pattern : Text} (h : Spells pieces pattern) :
    items pattern =
      match pieces.findSome? Piece.fault? with
      | some e => .error e
      | none => .ok (pieces.flatMap Piece.items) := by
  rw [items]
  -- a piece hides the faults behind it only if it is at fault itself
  induction h with
  | nil => exact itemsFrom.eq_5
  | @cons p pieces rest hend hrest ih =>
    rw [itemsFrom_piece hend, ih, List.findSome?_cons, List.flatMap_cons]
    cases p.fault? with
    | some e => rfl
    | none => cases pieces.findSome? Piece.fault? <;> rfl

/-- A format is written from what the pattern describes, and nothing is refused any more. -/
theorem toFormat_eq (pattern : Text) :
    toFormat pattern = (items pattern).map (List.flatMap FormatItem.write) := by
  rw [toFormat]
  cases items pattern with
  | error e => rfl
  | ok parts =>
    change (if (FormatItem.parse (parts.flatMap FormatItem.write)).isNone then _ else _) = _
    rw [FormatItem.parse_flatMap_write]
    rfl

theorem Piece.fault?_ne_invalidFormat (p : Piece) (pattern : Text) :
    p.fault? ≠ some (.invalidFormat pattern) := by
  cases p with
  | run letter count =>
    rw [fault?]
    split_ifs <;> simp
  | mark c =>
    rw [fault?]
    split_ifs <;> simp
  | _ => simp [fault?]

/-- No piece is at fault exactly if everything between quotes is closed, no bracket stands outside,
and every run names a field. -/
theorem findSome?_fault?_eq_none_iff {pieces : List Piece} :
    pieces.findSome? Piece.fault? = none ↔
      (∀ text, .unclosed text ∉ pieces) ∧
      (∀ c, .mark c ∈ pieces → c ≠ '[' ∧ c ≠ ']') ∧
      ∀ letter count, .run letter count ∈ pieces → ∃ f, knownField letter count = some f := by
  rw [List.findSome?_eq_none_iff]
  constructor
  · intro h
    refine ⟨fun text hmem => ?_, fun c hmem => ?_, fun letter count hmem => ?_⟩
    · exact absurd (h _ hmem) (by simp [Piece.fault?])
    · simpa [Piece.fault?] using h _ hmem
    · have hrun := h _ hmem
      rw [Piece.fault?] at hrun
      split_ifs at hrun with hknown
      exact Option.isSome_iff_exists.mp hknown
  · rintro ⟨hclosed, hmarks, hruns⟩ p hp
    cases p with
    | quote => rfl
    | quoted text => rfl
    | unclosed text => exact absurd hp (hclosed text)
    | run letter count =>
      obtain ⟨f, hf⟩ := hruns letter count hp
      simp [Piece.fault?, hf]
    | mark c => simp [Piece.fault?, hmarks c hp]

/-- A pattern is accepted exactly if all that is between quotes is closed, no bracket stands
outside, and every run names a field; otherwise the first piece at fault is reported.  The format
of a pattern that is accepted is read back as one field for each run and the literal text of the
other pieces, in their order. -/
theorem toFormat_follows_pieces (pattern : Text) :
    (∃ pieces, Spells pieces pattern) ∧ ∀ pieces, Spells pieces pattern →
      ((∃ format, toFormat pattern = .ok format) ↔
        (∀ text, .unclosed text ∉ pieces) ∧
        (∀ c, .mark c ∈ pieces → c ≠ '[' ∧ c ≠ ']') ∧
        ∀ letter count, .run letter count ∈ pieces → ∃ f, knownField letter count = some f) ∧
      (∀ e, toFormat pattern = .error e ↔
        ∃ before p after, pieces = before ++ p :: after ∧ p.fault? = some e ∧
          ∀ q ∈ before, q.fault? = none) ∧
      (∀ other, toFormat pattern ≠ .error (.invalidFormat other)) ∧
      ∀ format, toFormat pattern = .ok format →
        format = (pieces.flatMap Piece.items).flatMap FormatItem.write ∧
        FormatItem.parse format = some (pieces.flatMap Piece.items) := by
  refine ⟨exists_spells pattern, fun pieces h => ?_⟩
  -- all that is claimed depends on the first fault only
  rw [← findSome?_fault?_eq_none_iff, toFormat_eq, items_of_spells h]
  simp only [← List.findSome?_eq_some_iff]
  cases hfault : pieces.findSome? Piece.fault? with
  | some e =>
    obtain ⟨p, -, hp⟩ := List.exists_of_findSome?_eq_some hfault
    refine ⟨⟨?_, ?_⟩, fun e' => ?_, fun other hother => ?_, ?_⟩
    · rintro ⟨format, hformat⟩
      cases hformat
    · intro hnone
      cases hnone
    · exact ⟨fun h => congrArg some (Except.error.inj h), fun h => congrArg _ (Option.some.inj h)⟩
    · obtain rfl := Except.error.inj hother
      exact p.fault?_ne_invalidFormat other hp
    · intro format hformat
      cases hformat
  | none =>
    refine ⟨⟨fun _ => rfl, fun _ => ⟨_, rfl⟩⟩, fun e => ⟨?_, ?_⟩, fun other hother => ?_, ?_⟩
    · intro herror
      cases herror
    · intro hsome
      cases hsome
    · cases hother
    · intro format hformat
      obtain rfl := Except.ok.inj hformat
      exact ⟨rfl, FormatItem.parse_flatMap_write _⟩

/-- Percent signs, brackets and quotes next to fields, inside and outside of quotes. -/
theorem toFormat_follows_pieces_mixed :
    let pattern : Text := "yy''%'[Q''%Y]'SSS"
    let pieces : List Piece := [.run 'y' 2, .quote, .mark '%', .quoted "[Q'%Y]", .run 'S' 3]
    Spells pieces pattern ∧ toFormat pattern = .ok "%y'%%[Q'%%Y]%3f".toList ∧
      FormatItem.parse "%y'%%[Q'%%Y]%3f" =
        some (.field .yearOfCentury :: "'%[Q'%Y]".toList.map .literal ++ [.field .millis]) := by
  intro pattern pieces
  have hspells : Spells pieces pattern := by decide +kernel
  obtain ⟨-, hfollows⟩ := toFormat_follows_pieces pattern
  obtain ⟨haccepted, -, -, hformat⟩ := hfollows pieces hspells
  obtain ⟨format, h⟩ := haccepted.mpr (findSome?_fault?_eq_none_iff.mp (by decide))
  obtain ⟨rfl, hparse⟩ := hformat format h
  exact ⟨hspells, h, hparse⟩

end DatePattern

end TraceText
