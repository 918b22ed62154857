import TraceText.Proofs.Template.Grammar
import TraceText.Template.Render

/-!
# Every field can be named

A chain of keys leads through nested objects to a field.  Written with dots between the keys and put
between braces, the chain is a template that shows this field and nothing else, provided that the
text can be told apart from the syntax around it: no key has a dot, the whole has no comma, no
closing brace and no blanks at its ends, and it is no meta-token.  The keys may be empty, may hold
opening braces, and may be names of the times that a record has of its own.

## Main definitions

* `Fields.Leads` — a chain of keys leads to a value

## Main results

* `Fields.Leads.find?_eq` — a path finds the value to which it leads
* `Template.compile_braced` — a name between braces is a template with one placeholder
* `Template.braced_path_shows_field` — every field can be named
-/

namespace TraceText

/-- A chain of keys leads from fields to a value, through nested objects. -/
inductive Fields.Leads : Fields → List Text → Value → Prop where
  | last {fields : Fields} {key : Text} {v : Value} (h : fields.get? key = some v) :
      Leads fields [key] v
  | step {fields inner : Fields} {key typeName : Text} {kind : ObjectKind} {keys : List Text}
      {v : Value} (h : fields.get? key = some (.object typeName kind inner))
      (hinner : Leads inner keys v) : Leads fields (key :: keys) v

namespace Fields.Leads

variable {fields : Fields} {keys : List Text} {v : Value}

theorem ne_nil (h : fields.Leads keys v) : keys ≠ [] := by
  cases h with
  | last _ => exact List.cons_ne_nil _ _
  | step _ _ => exact List.cons_ne_nil _ _

/-- The first key of a chain is that of a field. -/
theorem isSome_get? {first : Text} {rest : List Text} (h : fields.Leads (first :: rest) v) :
    (fields.get? first).isSome = true := by
  cases h with
  | last h => rw [h, Option.isSome_some]
  | step h _ => rw [h, Option.isSome_some]

/-- A path finds the value to which it leads. -/
theorem find?_eq {first : Text} {rest : List Text} (h : fields.Leads (first :: rest) v) :
    fields.find? first rest = some v := by
  -- one key of the chain is used up by one step of the path
  induction rest generalizing fields first with
  | nil =>
    cases h with
    | last h => exact h
    | step _ hinner => exact absurd rfl hinner.ne_nil
  | cons next rest ih =>
    cases h with
    | step h hinner =>
      rw [Fields.find?, h]
      exact ih hinner

end Fields.Leads

/-- Only a value that is null shows nothing over several lines. -/
theorem Value.render_false_eq_none_iff {v : Value} : v.render false = none ↔ v = .null := by
  cases v with
  | int i declared =>
    rw [Value.render]
    split <;> simp
  | _ => simp [Value.render]

namespace Marker

/-- Without a comma the body of a marker is its name. -/
theorem nameOf_of_not_mem {body : Text} (hcomma : ',' ∉ body) (htrim : Text.trim body = body) :
    nameOf body = body := by
  have hall : ∀ c ∈ body, decide (c ≠ ',') = true := by
    intro c hc
    exact decide_eq_true fun heq => hcomma (heq ▸ hc)
  rw [nameOf, List.takeWhile_eq_self_iff.mpr hall, htrim]

theorem tokensOf_of_not_mem {body : Text} (hcomma : ',' ∉ body) : tokensOf body = [] := by
  rw [tokensOf, Text.splitOn_of_not_mem hcomma]
  rfl

end Marker

namespace Template

/-- A body between braces is a template with one placeholder and no other text. -/
theorem compile_braced {zone : Zone} {body : Text} {p : Placeholder} (hbody : Marker.IsBody body)
    (h : Placeholder.Denotes zone body p) :
    compile zone ('{' :: body ++ ['}']) = .ok ⟨'{' :: body ++ ['}'], [([], p)], []⟩ := by
  have hsplit : Marker.split ('{' :: body ++ ['}']) = ([([], body)], []) := by
    rw [Marker.split_cons_of_marker hbody, Marker.split_nil]
  rw [compile_eq_map, hsplit, parseSegments_cons, Placeholder.parse_eq_ok_iff.mpr h]
  rfl

/-- A template that is a single placeholder without parameters shows the text of its value. -/
theorem render_single (r : Record) {t : Template} {p : Placeholder}
    (hsegments : t.segments = [([], p)]) (htail : t.tail = []) (hparameters : p.parameters = []) :
    t.render r = .ok (((t.valueOf r p.reference).map Resolved.plain).getD missingText) := by
  have hsubstitute : ∀ value : Option Resolved,
      p.substitute value = .ok ((value.map Resolved.plain).getD missingText) := by
    intro value
    cases value with
    | none => simp [Placeholder.substitute, Placeholder.isOptional, hparameters]
    | some v => simp [Placeholder.substitute, hparameters]
  rw [render, hsegments, htail, renderSegments, hsubstitute]
  simp [renderSegments, bind, Except.bind, pure, Except.pure]

/-- A chain of keys, joined by dots and put between braces, is a template that refers to its first
key alone and shows the field to which it leads. -/
theorem braced_path_shows_field (zone : Zone) {r : Record} {keys : List Text} {v : Value}
    (hleads : r.fields.Leads keys v) (hdots : ∀ key ∈ keys, '.' ∉ key)
    (hne : Text.join "." keys ≠ []) (htrim : Text.trim (Text.join "." keys) = Text.join "." keys)
    (hcomma : ',' ∉ Text.join "." keys) (hclose : '}' ∉ Text.join "." keys)
    (hmeta : Text.join "." keys ∉ Reference.metaTokens) :
    ∃ t, compile zone ('{' :: Text.join "." keys ++ ['}']) = .ok t ∧
      t.render r = .ok (((v.render false).map Resolved.plain).getD "N/A".toList) ∧
      (v.render false = none ↔ v = .null) ∧
      ∀ name, t.references name = true ↔ keys.head? = some name := by
  obtain ⟨first, rest, rfl⟩ := List.exists_cons_of_ne_nil hleads.ne_nil
  have hsteps : Text.splitOn '.' (Text.join "." (first :: rest)) = first :: rest :=
    Text.splitOn_join hdots (List.cons_ne_nil first rest)
  have hname : Marker.nameOf (Text.join "." (first :: rest)) = Text.join "." (first :: rest) :=
    Marker.nameOf_of_not_mem hcomma htrim
  -- the text in the braces is all name: no comma ends it, and its dots part the keys
  have hdenotes : Placeholder.Denotes zone (Text.join "." (first :: rest))
      ⟨Text.join "." (first :: rest), .field ⟨first, rest⟩, []⟩ := by
    refine ⟨rfl, ?_, ?_⟩
    · rw [hname]
      exact .field hne hmeta hsteps
    · rw [Marker.tokensOf_of_not_mem hcomma]
      exact Parameter.denoteAll_nil zone
  refine ⟨_, compile_braced ⟨hne, hclose⟩ hdenotes, ?_, Value.render_false_eq_none_iff, ?_⟩
  · -- a field comes before a time of the record with the same name
    have hpresent : ¬ (r.fields.get? first).isNone = true := by
      rw [Option.isNone_iff_eq_none, ← ne_eq, Option.ne_none_iff_isSome]
      exact hleads.isSome_get?
    have hvalue : r.fields.resolve? ⟨first, rest⟩ false = v.render false := by
      rw [Fields.resolve?, hleads.find?_eq, Option.bind_some]
    rw [render_single r rfl rfl rfl, valueOf, if_neg hpresent, hvalue]
    rfl
  · intro name
    simp [references, placeholders, Reference.fieldName?, eq_comm]

/-- The chain of an empty key, a key with an opening brace and the key `startTime`. -/
theorem braced_path_shows_nested :
    let inner : Fields := [("startTime".toList, .str "x\ny".toList)]
    let fields : Fields :=
      [([], .object "object" .generic [("\x7b a".toList, .object "object" .generic inner)])]
    ∃ t, compile .utc "\x7b.\x7b a.startTime\x7d".toList = .ok t ∧
      t.render ⟨"log.Info", .epoch, .epoch, fields⟩ = .ok "x\ny".toList ∧
      ∀ name, t.references name = true ↔ name = [] := by
  intro inner fields
  have hleads : fields.Leads [[], "\x7b a".toList, "startTime".toList] (.str "x\ny".toList) :=
    .step rfl (.step rfl (.last rfl))
  obtain ⟨t, ht, hrender, -, hreferences⟩ :=
    braced_path_shows_field .utc (r := ⟨"log.Info", .epoch, .epoch, fields⟩) hleads (by decide)
      (by decide) (by decide) (by decide) (by decide) (by decide)
  refine ⟨t, ht, hrender, fun name => (hreferences name).trans ?_⟩
  simp [eq_comm]

end Template

end TraceText
