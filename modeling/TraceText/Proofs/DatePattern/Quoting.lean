import TraceText.Proofs.DatePattern.Pieces
import TraceText.Proofs.Template.Grammar

/-!
# Quoted text in date patterns

Any text can be put into a date pattern: between quotes, with each quote in it doubled, it is shown
as it is, at any time and in any zone.  Quotes at the beginning of the text are read in pairs with
the one that should open it, so that the text is opened by a quote further on; they stand for the
same quotes all the same, as long as there is something else for which to open it.

## Main definitions

* `DatePattern.quotation` — the pattern of a text

## Main results

* `DatePattern.items_quotation` — a quoted text describes itself
* `DatePattern.quotation_shows_text` — a quoted text is shown as it is
-/

namespace TraceText.DatePattern

/-- The pattern of a text: between quotes, with each quote in it doubled. -/
def quotation (text : Text) : Text := '\'' :: doubled text ++ ['\'']

/-- A quoted text is a row of pieces without a fault: pairs of quotes as long as the text begins
with quotes, and what is left of it between quotes. -/
theorem exists_spells_quotation {text : Text} (h : ∃ c ∈ text, c ≠ '\'') :
    ∃ pieces, Spells pieces (quotation text) ∧ pieces.findSome? Piece.fault? = none ∧
      pieces.flatMap Piece.items = text.map .literal := by
  induction text with
  | nil =>
    obtain ⟨c, hc, -⟩ := h
    cases hc
  | cons c text ih =>
    by_cases hc : c = '\''
    · subst hc
      -- the first two of three quotes belong together, and the third one opens the rest
      obtain ⟨d, hd, hne⟩ := h
      have hrest : ∃ d ∈ text, d ≠ '\'' := ⟨d, (List.mem_cons.mp hd).resolve_left hne, hne⟩
      obtain ⟨pieces, hspells, hfault, hitems⟩ := ih hrest
      refine ⟨.quote :: pieces, .cons (p := .quote) trivial hspells, hfault, ?_⟩
      rw [List.flatMap_cons, hitems]
      rfl
    · have hend : (Piece.quoted (c :: text)).EndsBefore [] :=
        ⟨List.cons_ne_nil c text, by simpa using hc, by simp⟩
      have hspells := Spells.cons hend .nil
      rw [List.append_nil] at hspells
      exact ⟨[.quoted (c :: text)], hspells, rfl, List.append_nil _⟩

/-- A quoted text describes itself. -/
theorem items_quotation {text : Text} (h : ∃ c ∈ text, c ≠ '\'') :
    items (quotation text) = .ok (text.map .literal) := by
  obtain ⟨pieces, hspells, hfault, hitems⟩ := exists_spells_quotation h
  rw [items_of_spells hspells, hfault, hitems]

/-- Literal text reads the same at any time and in any zone. -/
theorem flatMap_text_map_literal (zone : Zone) (l : LocalTime) (text : Text) :
    (text.map FormatItem.literal).flatMap (FormatItem.text zone l) = text := by
  rw [List.flatMap_map]
  exact List.flatMap_singleton' text

/-- A text that is not made of quotes alone, put between quotes with each quote in it doubled, is
accepted as a date pattern, and is shown as it is at any time and in any zone. -/
theorem quotation_shows_text {text : Text} (h : ∃ c ∈ text, c ≠ '\'') :
    ∃ format, toFormat (quotation text) = .ok format ∧ ∀ zone : Zone,
      Parameter.parse zone ("dt:".toList ++ quotation text) =
        .ok (.timestamp ⟨quotation text, format, zone⟩) ∧
      ∀ t, TimestampFormat.write ⟨quotation text, format, zone⟩ t = text := by
  have hformat : toFormat (quotation text) =
      .ok ((text.map FormatItem.literal).flatMap FormatItem.write) := by
    rw [toFormat_eq, items_quotation h]
    rfl
  refine ⟨_, hformat, fun zone => ⟨?_, fun t => ?_⟩⟩
  · rw [Parameter.parse_date, hformat]
  · rw [TimestampFormat.write, Zone.format_flatMap_write, flatMap_text_map_literal]

/-- Quotes at both ends, brackets, letters, a percent sign and a line break. -/
theorem quotation_shows_clock :
    let text : Text := "''[%H o'clock]\n'"
    (∃ c ∈ text, c ≠ '\'') ∧ quotation text = "'''''[%H o''clock]\n'''".toList ∧
      ∃ format, toFormat (quotation text) = .ok format ∧
        ∀ zone t, TimestampFormat.write ⟨quotation text, format, zone⟩ t = text := by
  intro text
  have hmem : ∃ c ∈ text, c ≠ '\'' := ⟨'[', by decide, by decide⟩
  obtain ⟨format, hformat, hshows⟩ := quotation_shows_text hmem
  exact ⟨hmem, by decide, format, hformat, fun zone => (hshows zone).2⟩

end TraceText.DatePattern
