import Mathlib.Algebra.Group.Nat.Defs
import TraceText.Proofs.Template.Canonical
import TraceText.Proofs.Text.Pieces
import TraceText.Proofs.Traversal

/-!
# The grammar of templates

Between the braces of a marker stands a name, and behind it, each after a comma, the tokens of its
parameters.  Blanks around these parts do not matter.  The grammar is written down here as
relations between texts and what they stand for, beside relations that tell what is wrong with a
text that stands for nothing.  Reading a part of a template gives exactly what the first kind of
relation allows, and is refused exactly as the second kind says.

Faults are looked for from left to right: marker by marker, in a marker first its name and then its
tokens, and in a token first whether it is known and then whether it is in its place.

## Main definitions

* `Marker.bodies`, `Marker.nameOf`, `Marker.tokensOf` — the parts of a template text
* `Parameter.Denotes`, `Parameter.Refused` — what a token stands for, why it stands for nothing
* `Reference.Denotes` — what a name stands for
* `Placeholder.Denotes`, `Placeholder.WellFormed`, `Placeholder.Fault` — the same for the body of a
  marker

## Main results

* `Parameter.parse_eq_ok_iff`, `Parameter.parse_eq_error_iff` — tokens
* `Placeholder.parse_eq_ok_iff`, `Placeholder.parse_eq_error_iff` — bodies of markers
* `Template.compile_follows_grammar` — templates
-/

namespace TraceText

namespace Marker

/-- The bodies of the markers of a text, in their order. -/
def bodies (source : Text) : List Text := (Marker.split source).1.map Prod.snd

/-- The name in the body of a marker: what precedes the first comma, without blanks around it. -/
def nameOf (body : Text) : Text := Text.trim (body.takeWhile (· ≠ ','))

/-- The tokens in the body of a marker: what stands behind its commas, without blanks around it. -/
def tokensOf (body : Text) : List Text := (Text.splitOn ',' body).tail.map Text.trim

end Marker

/-! ### Tokens -/

namespace Parameter

/-- The parameter that a token stands for: a letter, digits followed by `d`, or `dt:` followed by a
date pattern. -/
inductive Denotes (zone : Zone) : Text → Parameter → Prop where
  | newLine : Denotes zone ['n'] .newLine
  | optional : Denotes zone ['o'] .optional
  | lowerCase : Denotes zone ['c'] .lowerCase
  | upperCase : Denotes zone ['C'] .upperCase
  | lastSegments {ds : Text} (hne : ds ≠ []) (hdigits : ∀ c ∈ ds, c.isDigit = true)
      (hbound : Decimal.value ds ≤ 2 ^ 64 - 1) :
      Denotes zone (ds ++ ['d']) (.lastSegments (Decimal.value ds))
  | timestamp {pattern format : Text} (h : DatePattern.toFormat pattern = .ok format) :
      Denotes zone ("dt:".toList ++ pattern) (.timestamp ⟨pattern, format, zone⟩)

/-- Why a token stands for no parameter: what follows `dt:` is no date pattern, or it is nothing
that is known. -/
inductive Refused (zone : Zone) : Text → TemplateError → Prop where
  | badPattern {pattern : Text} {reason : PatternError}
      (h : DatePattern.toFormat pattern = .error reason) :
      Refused zone ("dt:".toList ++ pattern)
        (.invalidDatePattern ("dt:".toList ++ pattern) reason)
  | unknown {token : Text} (hdate : ¬ "dt:".toList <+: token)
      (h : ∀ p, ¬ Denotes zone token p) : Refused zone token (.invalidParameter token)

theorem segmentCount?_eq_some_iff {token : Text} {n : Nat} :
    segmentCount? token = some n ↔
      ∃ ds, token = ds ++ ['d'] ∧ ds ≠ [] ∧ (∀ c ∈ ds, c.isDigit = true) ∧
        Decimal.value ds ≤ 2 ^ 64 - 1 ∧ n = Decimal.value ds := by
  have hmax : maxSegments = 2 ^ 64 - 1 := rfl
  simp only [segmentCount?, Option.bind_eq_bind, Option.bind_eq_some_iff,
    Text.stripEnd_eq_some_iff, Option.ite_none_right_eq_some, Option.some.injEq,
    List.all_eq_true, hmax]
  constructor
  · rintro ⟨ds, rfl, ⟨hne, hdigits, hbound⟩, rfl⟩
    exact ⟨ds, rfl, hne, hdigits, hbound, rfl⟩
  · rintro ⟨ds, rfl, hne, hdigits, hbound, rfl⟩
    exact ⟨ds, rfl, ⟨hne, hdigits, hbound⟩, rfl⟩

/-- A token that begins with `dt:` is read by its date pattern. -/
theorem parse_date (zone : Zone) (pattern : Text) :
    parse zone ("dt:".toList ++ pattern) =
      match DatePattern.toFormat pattern with
      | .ok format => .ok (.timestamp ⟨pattern, format, zone⟩)
      | .error reason => .error (.invalidDatePattern ("dt:".toList ++ pattern) reason) := by
  have hstrip : Text.stripStart "dt:" ("dt:".toList ++ pattern) = some pattern :=
    Text.stripStart_eq_some_iff.mpr rfl
  rw [parse, if_neg (by simp), if_neg (by simp), if_neg (by simp), if_neg (by simp)]
  cases hpattern : DatePattern.toFormat pattern <;> simp only [hstrip, hpattern]

/-- Digits followed by `d` are no letter and do not begin with `dt:`. -/
theorem parse_digits (zone : Zone) {ds : Text} (hne : ds ≠ [])
    (hdigits : ∀ c ∈ ds, c.isDigit = true) (hbound : Decimal.value ds ≤ 2 ^ 64 - 1) :
    parse zone (ds ++ ['d']) = .ok (.lastSegments (Decimal.value ds)) := by
  have hcount : segmentCount? (ds ++ ['d']) = some (Decimal.value ds) :=
    segmentCount?_eq_some_iff.mpr ⟨ds, rfl, hne, hdigits, hbound, rfl⟩
  obtain ⟨c, rest, rfl⟩ := List.exists_cons_of_ne_nil hne
  -- the first character is a digit, so `dt:` does not stand there
  have hc : c ≠ 'd' := by
    rintro rfl
    exact absurd (hdigits 'd' List.mem_cons_self) (by decide)
  have hstrip : Text.stripStart "dt:" (c :: rest ++ ['d']) = none := by
    change (if 'd' = c then _ else none) = none
    rw [if_neg hc.symm]
  rw [parse, if_neg (by simp), if_neg (by simp), if_neg (by simp), if_neg (by simp), hstrip,
    hcount]

/-- A token is read as the parameter that it stands for. -/
theorem Denotes.parse_eq {zone : Zone} {token : Text} {p : Parameter}
    (h : Denotes zone token p) : parse zone token = .ok p := by
  cases h with
  | newLine => rfl
  | optional => rfl
  | lowerCase => rfl
  | upperCase => rfl
  | lastSegments hne hdigits hbound => exact parse_digits zone hne hdigits hbound
  | timestamp h => rw [parse_date, h]

/-- What is read from a token that does not begin with `dt:` is what it stands for. -/
theorem denotes_of_parse {zone : Zone} {token : Text} {p : Parameter}
    (hstrip : Text.stripStart "dt:" token = none) (h : parse zone token = .ok p) :
    Denotes zone token p := by
  simp only [parse, hstrip] at h
  split_ifs at h with hn ho hc hC
  · obtain rfl := Except.ok.inj h
    exact hn ▸ .newLine
  · obtain rfl := Except.ok.inj h
    exact ho ▸ .optional
  · obtain rfl := Except.ok.inj h
    exact hc ▸ .lowerCase
  · obtain rfl := Except.ok.inj h
    exact hC ▸ .upperCase
  · split at h
    · next n hcount =>
      obtain rfl := Except.ok.inj h
      obtain ⟨ds, rfl, hne, hdigits, hbound, rfl⟩ := segmentCount?_eq_some_iff.mp hcount
      exact .lastSegments hne hdigits hbound
    · cases h

/-- Only a token that begins with `dt:` is refused for its date pattern. -/
theorem eq_invalidParameter_of_parse {zone : Zone} {token : Text} {e : TemplateError}
    (hstrip : Text.stripStart "dt:" token = none) (h : parse zone token = .error e) :
    e = .invalidParameter token := by
  simp only [parse, hstrip] at h
  split_ifs at h
  split at h
  · cases h
  · exact (Except.error.inj h).symm

/-- Whatever is read from a token, it stands for that, or it is refused for that reason. -/
theorem denotes_or_refused (zone : Zone) (token : Text) :
    match parse zone token with
    | .ok p => Denotes zone token p
    | .error e => Refused zone token e := by
  by_cases hdate : "dt:".toList <+: token
  · obtain ⟨pattern, rfl⟩ := hdate
    rw [parse_date]
    cases hpattern : DatePattern.toFormat pattern with
    | ok format => exact .timestamp hpattern
    | error reason => exact .badPattern hpattern
  · have hstrip : Text.stripStart "dt:" token = none := by
      rw [Option.eq_none_iff_forall_ne_some]
      intro pattern hpattern
      exact hdate ⟨pattern, (Text.stripStart_eq_some_iff.mp hpattern).symm⟩
    cases hparse : parse zone token with
    | ok p => exact denotes_of_parse hstrip hparse
    | error e =>
      obtain rfl := eq_invalidParameter_of_parse hstrip hparse
      refine .unknown hdate fun p hp => ?_
      rw [hp.parse_eq] at hparse
      cases hparse

/-- A token is read exactly as the parameter that it stands for. -/
theorem parse_eq_ok_iff {zone : Zone} {token : Text} {p : Parameter} :
    parse zone token = .ok p ↔ Denotes zone token p := by
  constructor
  · intro h
    have hread := denotes_or_refused zone token
    rw [h] at hread
    exact hread
  · exact Denotes.parse_eq

/-- A token is refused exactly for the reason why it stands for no parameter. -/
theorem parse_eq_error_iff {zone : Zone} {token : Text} {e : TemplateError} :
    parse zone token = .error e ↔ Refused zone token e := by
  constructor
  · intro h
    have hread := denotes_or_refused zone token
    rw [h] at hread
    exact hread
  · intro h
    cases h with
    | badPattern h => rw [parse_date, h]
    | unknown hdate h =>
      have hread := denotes_or_refused zone token
      cases hparse : parse zone token with
      | ok p =>
        rw [hparse] at hread
        exact absurd hread (h p)
      | error e' =>
        rw [hparse] at hread
        cases hread with
        | badPattern _ => exact absurd (List.prefix_append _ _) hdate
        | unknown _ _ => rfl

/-- What the tokens behind a name stand for: one parameter each, in their order, where none but the
first is a date pattern. -/
def DenoteAll (zone : Zone) (tokens : List Text) (parameters : List Parameter) : Prop :=
  List.Forall₂ (Denotes zone) tokens parameters ∧ ∀ p ∈ parameters.tail, p.isTimestamp = false

/-- The first fault among the tokens behind a name, from left to right: a token stands for nothing,
or is a date pattern that does not come first. -/
inductive FirstFault (zone : Zone) (tokens : List Text) : TemplateError → Prop where
  | refused {before after : List Text} {token : Text} {e : TemplateError}
      (htokens : tokens = before ++ token :: after)
      (hbefore : ∃ parameters, DenoteAll zone before parameters) (h : Refused zone token e) :
      FirstFault zone tokens e
  | misplaced {before after : List Text} {token : Text} {f : TimestampFormat}
      (htokens : tokens = before ++ token :: after)
      (hbefore : ∃ parameters, DenoteAll zone before parameters) (hne : before ≠ [])
      (h : Denotes zone token (.timestamp f)) : FirstFault zone tokens (.misplacedTimestamp token)

theorem denoteAll_nil (zone : Zone) : DenoteAll zone [] [] :=
  ⟨.nil, fun _ hp => absurd hp List.not_mem_nil⟩

theorem denoteAll_cons_iff {zone : Zone} {token : Text} {tokens : List Text}
    {parameters : List Parameter} :
    DenoteAll zone (token :: tokens) parameters ↔
      ∃ p rest, parameters = p :: rest ∧ Denotes zone token p ∧
        List.Forall₂ (fun t q => Denotes zone t q ∧ q.isTimestamp = false) tokens rest := by
  simp only [DenoteAll, List.forall₂_cons_left_iff, forall₂_and_right_iff]
  constructor
  · rintro ⟨⟨p, rest, hp, hrest, rfl⟩, hlater⟩
    exact ⟨p, rest, rfl, hp, hrest, hlater⟩
  · rintro ⟨p, rest, rfl, hp, hrest, hlater⟩
    exact ⟨⟨p, rest, hp, hrest, rfl⟩, hlater⟩

theorem exists_denoteAll_cons_iff {zone : Zone} {token : Text} {tokens : List Text} :
    (∃ parameters, DenoteAll zone (token :: tokens) parameters) ↔
      (∃ p, Denotes zone token p) ∧
        ∀ t ∈ tokens, ∃ q, Denotes zone t q ∧ q.isTimestamp = false := by
  simp only [denoteAll_cons_iff, ← exists_forall₂_iff]
  constructor
  · rintro ⟨_, p, rest, -, hp, hrest⟩
    exact ⟨⟨p, hp⟩, rest, hrest⟩
  · rintro ⟨⟨p, hp⟩, rest, hrest⟩
    exact ⟨_, p, rest, rfl, hp, hrest⟩

/-- The first fault is that of the first token, or of the first one behind it that stands for
nothing or for a date pattern. -/
theorem firstFault_cons_iff {zone : Zone} {token : Text} {tokens : List Text}
    {e : TemplateError} :
    FirstFault zone (token :: tokens) e ↔
      Refused zone token e ∨ (∃ p, Denotes zone token p) ∧
        ∃ before later after, tokens = before ++ later :: after ∧
          (∀ t ∈ before, ∃ q, Denotes zone t q ∧ q.isTimestamp = false) ∧
          (Refused zone later e ∨
            ∃ f, Denotes zone later (.timestamp f) ∧ e = .misplacedTimestamp later) := by
  constructor
  · rintro (⟨htokens, hbefore, h⟩ | ⟨htokens, hbefore, hne, h⟩)
    · rename_i before after later
      -- the first token itself is refused, or it is among those before the fault
      cases before with
      | nil =>
        obtain ⟨rfl, -⟩ := List.cons.inj htokens
        exact .inl h
      | cons first before =>
        obtain ⟨rfl, rfl⟩ := List.cons.inj htokens
        obtain ⟨hfirst, hbefore⟩ := exists_denoteAll_cons_iff.mp hbefore
        exact .inr ⟨hfirst, before, later, after, rfl, hbefore, .inl h⟩
    · rename_i before after later f
      obtain ⟨first, before, rfl⟩ := List.exists_cons_of_ne_nil hne
      obtain ⟨rfl, rfl⟩ := List.cons.inj htokens
      obtain ⟨hfirst, hbefore⟩ := exists_denoteAll_cons_iff.mp hbefore
      exact .inr ⟨hfirst, before, later, after, rfl, hbefore, .inr ⟨f, h, rfl⟩⟩
  · rintro (h | ⟨hfirst, before, later, after, rfl, hbefore, h⟩)
    · exact .refused (List.nil_append _).symm ⟨[], denoteAll_nil zone⟩ h
    · have hbefore := exists_denoteAll_cons_iff.mpr ⟨hfirst, hbefore⟩
      rcases h with h | ⟨f, h, rfl⟩
      · exact .refused rfl hbefore h
      · exact .misplaced rfl hbefore (List.cons_ne_nil token before) h

end Parameter

/-! ### Names -/

namespace Reference

/-- The names that stand for something else than a field. -/
def metaTokens : List Text := ["eventName", "...", "remaining"]

/-- What a name without blanks around it stands for: a meta-token for what it says, and any other
name that is not empty for the field at the end of a path, whose steps stand between its dots. -/
inductive Denotes : Text → Reference → Prop where
  | eventName : Denotes "eventName".toList .eventName
  | dots : Denotes "...".toList .remaining
  | remaining : Denotes "remaining".toList .remaining
  | field {name : Text} {path : FieldPath} (hne : name ≠ []) (hmeta : name ∉ metaTokens)
      (h : Text.splitOn '.' name = path.segments) : Denotes name (.field path)

end Reference

/-- A path is read from the steps between the dots of its text, unless there is no text. -/
theorem FieldPath.parse_eq_some_iff {t : Text} (htrim : Text.trim t = t) {path : FieldPath} :
    FieldPath.parse t = some path ↔ t ≠ [] ∧ Text.splitOn '.' t = path.segments := by
  simp only [FieldPath.parse, htrim]
  by_cases ht : t = []
  · simp [ht]
  · obtain ⟨first, rest, hsteps⟩ := List.exists_cons_of_ne_nil (Text.splitOn_ne_nil '.' t)
    rw [if_neg ht, hsteps]
    obtain ⟨first', rest'⟩ := path
    simp [ht, FieldPath.segments]

namespace Reference

/-- A name without blanks around it is read exactly as what it stands for. -/
theorem parse_eq_some_iff {name : Text} (htrim : Text.trim name = name)
    {reference : Reference} : Reference.parse name = some reference ↔ Denotes name reference := by
  constructor
  · intro h
    unfold Reference.parse at h
    split_ifs at h with hevent hremaining
    · obtain rfl := Option.some.inj h
      exact hevent ▸ .eventName
    · obtain rfl := Option.some.inj h
      rcases hremaining with rfl | rfl
      · exact .dots
      · exact .remaining
    · obtain ⟨path, hpath, rfl⟩ := Option.map_eq_some_iff.mp h
      obtain ⟨hne, hsteps⟩ := (FieldPath.parse_eq_some_iff htrim).mp hpath
      refine .field hne ?_ hsteps
      simp only [metaTokens, List.mem_cons, List.not_mem_nil, or_false]
      rintro (heq | heq | heq)
      · exact hevent heq
      · exact hremaining (.inl heq)
      · exact hremaining (.inr heq)
  · intro h
    cases h with
    | eventName => rfl
    | dots => rfl
    | remaining => rfl
    | field hne hmeta hsteps =>
      simp only [metaTokens, List.mem_cons, List.not_mem_nil, or_false, not_or] at hmeta
      rw [Reference.parse, if_neg hmeta.1, if_neg (not_or.mpr hmeta.2),
        (FieldPath.parse_eq_some_iff htrim).mpr ⟨hne, hsteps⟩]
      rfl

/-- Every name but the empty one stands for something. -/
theorem exists_denotes_iff {name : Text} : (∃ reference, Denotes name reference) ↔ name ≠ [] := by
  constructor
  · rintro ⟨reference, h⟩
    cases h with
    | eventName => exact List.cons_ne_nil _ _
    | dots => exact List.cons_ne_nil _ _
    | remaining => exact List.cons_ne_nil _ _
    | field hne _ _ => exact hne
  · intro hne
    by_cases hmeta : name ∈ metaTokens
    · simp only [metaTokens, List.mem_cons, List.not_mem_nil, or_false] at hmeta
      rcases hmeta with rfl | rfl | rfl
      · exact ⟨_, .eventName⟩
      · exact ⟨_, .dots⟩
      · exact ⟨_, .remaining⟩
    · obtain ⟨first, rest, hsteps⟩ := List.exists_cons_of_ne_nil (Text.splitOn_ne_nil '.' name)
      exact ⟨.field ⟨first, rest⟩, .field hne hmeta hsteps⟩

end Reference

/-! ### Bodies of markers -/

namespace Placeholder

/-- What the body of a marker stands for. -/
structure Denotes (zone : Zone) (body : Text) (p : Placeholder) : Prop where
  source_eq : p.source = body
  reference : Reference.Denotes (Marker.nameOf body) p.reference
  parameters : Parameter.DenoteAll zone (Marker.tokensOf body) p.parameters

/-- Whether the body of a marker stands for a placeholder: its name is not empty, and its tokens
stand for parameters. -/
def WellFormed (zone : Zone) (body : Text) : Prop :=
  Marker.nameOf body ≠ [] ∧
    ∃ parameters, Parameter.DenoteAll zone (Marker.tokensOf body) parameters

/-- What is wrong with the body of a marker; the name comes before the tokens. -/
inductive Fault (zone : Zone) (body : Text) : TemplateError → Prop where
  | emptyName (hname : Marker.nameOf body = []) : Fault zone body (.emptyFieldPath body)
  | token {e : TemplateError} (hname : Marker.nameOf body ≠ [])
      (h : Parameter.FirstFault zone (Marker.tokensOf body) e) : Fault zone body e

theorem exists_denotes_iff {zone : Zone} {body : Text} :
    (∃ p, Denotes zone body p) ↔ WellFormed zone body := by
  constructor
  · rintro ⟨p, h⟩
    exact ⟨Reference.exists_denotes_iff.mp ⟨_, h.reference⟩, _, h.parameters⟩
  · rintro ⟨hname, parameters, hparameters⟩
    obtain ⟨reference, hreference⟩ := Reference.exists_denotes_iff.mpr hname
    exact ⟨⟨body, reference, parameters⟩, rfl, hreference, hparameters⟩

/-- The parameter of a token that does not come first. -/
def parseLater (zone : Zone) (part : Text) : Except TemplateError Parameter := do
  let parameter ← Parameter.parse zone (Text.trim part)
  if parameter.isTimestamp then throw (.misplacedTimestamp (Text.trim part))
  return parameter

theorem parseLater_eq_ok_iff {zone : Zone} {part : Text} {p : Parameter} :
    parseLater zone part = .ok p ↔
      Parameter.Denotes zone (Text.trim part) p ∧ p.isTimestamp = false := by
  rw [parseLater, bind_eq_ok_iff]
  simp only [← Parameter.parse_eq_ok_iff]
  constructor
  · rintro ⟨q, hq, h⟩
    cases hdate : q.isTimestamp with
    | true =>
      rw [hdate] at h
      cases h
    | false =>
      rw [hdate] at h
      obtain rfl := Except.ok.inj h
      exact ⟨hq, hdate⟩
  · rintro ⟨hp, hdate⟩
    refine ⟨p, hp, ?_⟩
    rw [hdate]
    rfl

theorem parseLater_eq_error_iff {zone : Zone} {part : Text} {e : TemplateError} :
    parseLater zone part = .error e ↔
      Parameter.Refused zone (Text.trim part) e ∨
        ∃ f, Parameter.Denotes zone (Text.trim part) (.timestamp f) ∧
          e = .misplacedTimestamp (Text.trim part) := by
  rw [parseLater, bind_eq_error_iff]
  simp only [← Parameter.parse_eq_ok_iff, ← Parameter.parse_eq_error_iff]
  refine or_congr_right ?_
  constructor
  · rintro ⟨q, hq, h⟩
    cases q with
    | timestamp f => exact ⟨f, hq, (Except.error.inj h).symm⟩
    | _ => cases h
  · rintro ⟨f, hf, rfl⟩
    exact ⟨_, hf, rfl⟩

theorem mapM_parseLater_eq_error_iff {zone : Zone} {parts : List Text} {e : TemplateError} :
    parts.mapM (parseLater zone) = .error e ↔
      ∃ before later after, parts.map Text.trim = before ++ later :: after ∧
        (∀ t ∈ before, ∃ q, Parameter.Denotes zone t q ∧ q.isTimestamp = false) ∧
        (Parameter.Refused zone later e ∨
          ∃ f, Parameter.Denotes zone later (.timestamp f) ∧
            e = .misplacedTimestamp later) := by
  simp only [mapM_eq_error_iff, parseLater_eq_ok_iff, parseLater_eq_error_iff]
  constructor
  · rintro ⟨before, part, after, rfl, hbefore, h⟩
    refine ⟨before.map Text.trim, _, after.map Text.trim, ?_, ?_, h⟩
    · rw [List.map_append, List.map_cons]
    · exact List.forall_mem_map.mpr hbefore
  · rintro ⟨_, _, _, hparts, hbefore, h⟩
    obtain ⟨before, rest, rfl, rfl, hrest⟩ := List.map_eq_append_iff.mp hparts
    obtain ⟨part, after, rfl, rfl, rfl⟩ := List.map_eq_cons_iff.mp hrest
    refine ⟨before, part, after, rfl, ?_, h⟩
    intro y hy
    exact hbefore _ (List.mem_map_of_mem hy)

/-- Every token but the first is read in the same way. -/
theorem parseParameters_cons (zone : Zone) (part : Text) (parts : List Text) :
    parseParameters zone true (part :: parts) = (do
      let p ← Parameter.parse zone (Text.trim part)
      let rest ← parts.mapM (parseLater zone)
      return p :: rest) := by
  -- behind the first token the flag stays `false`, so what is left is a pass
  have hlater : ∀ parts, parseParameters zone false parts = parts.mapM (parseLater zone) := by
    intro parts
    induction parts with
    | nil => rfl
    | cons part parts ih =>
      rw [List.mapM_cons, ← ih]
      simp only [parseParameters, parseLater, bind_assoc]
      refine bind_congr fun p => ?_
      cases p.isTimestamp <;> rfl
  rw [← hlater]
  rfl

theorem parseParameters_eq_ok_iff {zone : Zone} {parts : List Text}
    {parameters : List Parameter} :
    parseParameters zone true parts = .ok parameters ↔
      Parameter.DenoteAll zone (parts.map Text.trim) parameters := by
  cases parts with
  | nil =>
    constructor
    · intro h
      obtain rfl := Except.ok.inj h
      exact Parameter.denoteAll_nil zone
    · rintro ⟨h, -⟩
      rw [List.forall₂_nil_left_iff.mp h]
      rfl
  | cons part parts =>
    rw [parseParameters_cons, List.map_cons, Parameter.denoteAll_cons_iff]
    simp only [bind_eq_ok_iff, mapM_eq_ok_iff, parseLater_eq_ok_iff, Parameter.parse_eq_ok_iff,
      List.forall₂_map_left_iff]
    constructor
    · rintro ⟨p, hp, rest, hrest, h⟩
      exact ⟨p, rest, (Except.ok.inj h).symm, hp, hrest⟩
    · rintro ⟨p, rest, rfl, hp, hrest⟩
      exact ⟨p, hp, rest, hrest, rfl⟩

/-- The tokens behind a name are refused for the first fault among them. -/
theorem parseParameters_eq_error_iff {zone : Zone} {parts : List Text} {e : TemplateError} :
    parseParameters zone true parts = .error e ↔
      Parameter.FirstFault zone (parts.map Text.trim) e := by
  cases parts with
  | nil =>
    constructor
    · intro h
      cases h
    · intro h
      cases h with
      | refused htokens _ _ => simp at htokens
      | misplaced htokens _ _ _ => simp at htokens
  | cons part parts =>
    rw [parseParameters_cons, List.map_cons, Parameter.firstFault_cons_iff, bind_eq_error_iff,
      Parameter.parse_eq_error_iff, ← mapM_parseLater_eq_error_iff]
    simp only [Parameter.parse_eq_ok_iff]
    refine or_congr_right ?_
    constructor
    · rintro ⟨p, hp, h⟩
      rcases bind_eq_error_iff.mp h with h | ⟨rest, -, h⟩
      · exact ⟨⟨p, hp⟩, h⟩
      · cases h
    · rintro ⟨⟨p, hp⟩, h⟩
      exact ⟨p, hp, bind_eq_error_iff.mpr (.inl h)⟩

/-- A body is read by its name and then by its tokens. -/
theorem parse_eq (zone : Zone) (body : Text) :
    Placeholder.parse zone body =
      match Reference.parse (Marker.nameOf body) with
      | none => .error (.emptyFieldPath body)
      | some reference =>
        (parseParameters zone true (Text.splitOn ',' body).tail).map fun parameters =>
          ⟨body, reference, parameters⟩ := by
  rw [Marker.nameOf, ← Text.headD_splitOn, Placeholder.parse]
  cases Reference.parse (Text.trim ((Text.splitOn ',' body).headD [])) with
  | none => rfl
  | some reference =>
    cases parseParameters zone true (Text.splitOn ',' body).tail <;> rfl

/-- A body is read exactly as what it stands for. -/
theorem parse_eq_ok_iff {zone : Zone} {body : Text} {p : Placeholder} :
    Placeholder.parse zone body = .ok p ↔ Denotes zone body p := by
  have hname : Text.trim (Marker.nameOf body) = Marker.nameOf body := Text.trim_trim _
  rw [parse_eq]
  constructor
  · intro h
    cases hreference : Reference.parse (Marker.nameOf body) with
    | none =>
      rw [hreference] at h
      cases h
    | some reference =>
      rw [hreference] at h
      obtain ⟨parameters, hparameters, rfl⟩ := map_eq_ok_iff.mp h
      exact ⟨rfl, (Reference.parse_eq_some_iff hname).mp hreference,
        parseParameters_eq_ok_iff.mp hparameters⟩
  · rintro ⟨rfl, hreference, hparameters⟩
    rw [(Reference.parse_eq_some_iff hname).mpr hreference]
    exact map_eq_ok_iff.mpr ⟨p.parameters, parseParameters_eq_ok_iff.mpr hparameters, rfl⟩

/-- A body is refused exactly for its first fault. -/
theorem parse_eq_error_iff {zone : Zone} {body : Text} {e : TemplateError} :
    Placeholder.parse zone body = .error e ↔ Fault zone body e := by
  have htrim : Text.trim (Marker.nameOf body) = Marker.nameOf body := Text.trim_trim _
  rw [parse_eq]
  by_cases hname : Marker.nameOf body = []
  · -- without a name the tokens are not looked at
    have hnone : Reference.parse (Marker.nameOf body) = none := by
      rw [hname]
      rfl
    rw [hnone]
    constructor
    · intro h
      rw [← Except.error.inj h]
      exact .emptyName hname
    · intro h
      cases h with
      | emptyName _ => rfl
      | token hne _ => exact absurd hname hne
  · obtain ⟨reference, hreference⟩ := Reference.exists_denotes_iff.mpr hname
    rw [(Reference.parse_eq_some_iff htrim).mpr hreference]
    constructor
    · intro h
      exact .token hname (parseParameters_eq_error_iff.mp (map_eq_error_iff.mp h))
    · intro h
      cases h with
      | emptyName hempty => exact absurd hempty hname
      | token _ h => exact map_eq_error_iff.mpr (parseParameters_eq_error_iff.mpr h)

end Placeholder

/-! ### Templates -/

namespace Template

/-- The placeholders of a template are read from the bodies of its markers, one after another. -/
theorem map_placeholders_compile (zone : Zone) (source : Text) :
    (compile zone source).map placeholders =
      (Marker.bodies source).mapM (Placeholder.parse zone) := by
  have hsegments : ∀ markers : List (Text × Text),
      (parseSegments zone markers).map (List.map Prod.snd) =
        (markers.map Prod.snd).mapM (Placeholder.parse zone) := by
    intro markers
    induction markers with
    | nil => rfl
    | cons marker rest ih =>
      obtain ⟨literal, body⟩ := marker
      rw [parseSegments_cons, List.map_cons, List.mapM_cons, ← ih]
      cases Placeholder.parse zone body with
      | error e => rfl
      | ok p => cases parseSegments zone rest <;> rfl
  rw [Marker.bodies, ← hsegments, compile_eq_map]
  cases parseSegments zone (Marker.split source).1 <;> rfl

/-- The placeholders of a template are what the bodies of its markers stand for, in their order. -/
theorem denotes_of_compile {zone : Zone} {source : Text} {t : Template}
    (h : compile zone source = .ok t) :
    List.Forall₂ (Placeholder.Denotes zone) (Marker.bodies source) t.placeholders := by
  have hpass : (Marker.bodies source).mapM (Placeholder.parse zone) = .ok t.placeholders := by
    rw [← map_placeholders_compile, h]
    rfl
  exact (mapM_eq_ok_iff.mp hpass).imp fun body p => Placeholder.parse_eq_ok_iff.mp

theorem denotes_of_mem_placeholders {zone : Zone} {source : Text} {t : Template}
    (h : compile zone source = .ok t) {p : Placeholder} (hp : p ∈ t.placeholders) :
    Placeholder.Denotes zone p.source p := by
  have hflip : List.Forall₂ (fun p body => Placeholder.Denotes zone body p) t.placeholders
      (Marker.bodies source) := (denotes_of_compile h).flip
  obtain ⟨body, hbody⟩ := exists_forall₂_iff.mp ⟨_, hflip⟩ p hp
  rw [hbody.source_eq]
  exact hbody

/-- A text compiles exactly if the body of each of its leftmost markers is well-formed, and
otherwise the first fault of the first of them that is not is reported.  A template has one
placeholder for each marker, and a placeholder one parameter for each token, in their order. -/
theorem compile_follows_grammar (zone : Zone) (source : Text) :
    Marker.IsLeftmost source 0 (Marker.split source).1 ∧
    ((∃ t, compile zone source = .ok t) ↔
      ∀ body ∈ Marker.bodies source, Placeholder.WellFormed zone body) ∧
    (∀ e, compile zone source = .error e ↔
      ∃ before body after, Marker.bodies source = before ++ body :: after ∧
        (∀ b ∈ before, Placeholder.WellFormed zone b) ∧ Placeholder.Fault zone body e) ∧
    (∀ t, compile zone source = .ok t →
      List.Forall₂ (Placeholder.Denotes zone) (Marker.bodies source) t.placeholders) := by
  have hpass := map_placeholders_compile zone source
  refine ⟨Marker.isLeftmost_split [] source, ?_, ?_, fun t => denotes_of_compile⟩
  · -- well-formed bodies are those for which the pass has a result
    simp only [← Placeholder.exists_denotes_iff, ← Placeholder.parse_eq_ok_iff]
    rw [← exists_forall₂_iff]
    simp only [← mapM_eq_ok_iff, ← hpass, map_eq_ok_iff]
    constructor
    · rintro ⟨t, ht⟩
      exact ⟨_, t, ht, rfl⟩
    · rintro ⟨_, t, ht, -⟩
      exact ⟨t, ht⟩
  · -- and the first body that is not is where the pass stops
    intro e
    simp only [← Placeholder.exists_denotes_iff, ← Placeholder.parse_eq_ok_iff,
      ← Placeholder.parse_eq_error_iff]
    rw [← mapM_eq_error_iff, ← hpass, map_eq_error_iff]

/-- In `{a,12d}{b,C,dt:yyyy}{ }` the date pattern is in the wrong place, which comes before the
missing name. -/
theorem compile_follows_grammar_misplaced :
    compile .utc "\x7ba,12d\x7d\x7bb,C,dt:yyyy\x7d\x7b \x7d".toList =
      .error (.misplacedTimestamp "dt:yyyy".toList) := by
  have hbodies : Marker.bodies "\x7ba,12d\x7d\x7bb,C,dt:yyyy\x7d\x7b \x7d".toList =
      ["a,12d".toList, "b,C,dt:yyyy".toList, " ".toList] := by decide +kernel
  have hfirst : Placeholder.WellFormed .utc "a,12d".toList := by
    have htoken : Parameter.Denotes .utc (['1', '2'] ++ ['d']) (.lastSegments 12) :=
      .lastSegments (by decide) (List.all_eq_true.mp rfl) (by decide)
    exact ⟨by decide, [.lastSegments 12], .cons htoken .nil, by simp⟩
  have hupper : Parameter.DenoteAll .utc [['C']] [.upperCase] :=
    ⟨.cons .upperCase .nil, by simp⟩
  have hdate : Parameter.Denotes .utc ("dt:".toList ++ "yyyy".toList)
      (.timestamp ⟨"yyyy".toList, "%Y".toList, .utc⟩) := .timestamp (by decide +kernel)
  refine ((compile_follows_grammar .utc _).2.2.1 _).mpr
    ⟨["a,12d".toList], "b,C,dt:yyyy".toList, [" ".toList], hbodies, ?_, ?_⟩
  · exact List.forall_mem_singleton.mpr hfirst
  · exact .token (by decide) (.misplaced rfl ⟨_, hupper⟩ (List.cons_ne_nil _ _) hdate)

end Template

end TraceText
