import TraceText.Proofs.Template.Addressing
import TraceText.Proofs.Template.Substitution

/-!
# Values that are missing

A path finds no value where one of its steps is missing, where a step before the last leads to
something that is no object, and where the last leads to a null.  Only the paths `startTime` and
`endTime` still name the times of the record itself, as long as it has no such field.

A parameter `o` matters where a value is missing, and nowhere else: put into a placeholder, or taken
out of it, it changes nothing of what is made of a value that is present.

## Main definitions

* `Fields.Lacks` — why a path finds no value
* `Record.HasOwnTime` — a path names a time of the record itself
* `Record.Shows` — a path names a value that is present
* `Marker.plainTokens` — the tokens of a marker other than `o`

## Main results

* `Fields.find?_eq_some_iff`, `Fields.lacks_iff` — paths lead to a value or lack one
* `Template.valueOf_field_eq_some_iff`, `Template.valueOf_field_eq_none_iff` — what a path shows
* `Placeholder.Denotes.exists_denotes` — tokens `o` may be put into a marker and taken out of it
* `Template.missing_or_transformed` — what takes the place of a path
-/

namespace TraceText

/-! ### Paths -/

namespace Fields

/-- Why a path finds no value: a step is missing, a step before the last leads to something that is
no object, or the last step leads to a null. -/
inductive Lacks : Fields → List Text → Prop where
  | missing {fields : Fields} {key : Text} {keys : List Text} (h : fields.get? key = none) :
      Lacks fields (key :: keys)
  | noObject {fields : Fields} {key next : Text} {keys : List Text} {v : Value}
      (h : fields.get? key = some v) (hv : ∀ typeName kind inner, v ≠ .object typeName kind inner) :
      Lacks fields (key :: next :: keys)
  | null {fields : Fields} {key : Text} (h : fields.get? key = some .null) : Lacks fields [key]
  | inside {fields inner : Fields} {key typeName : Text} {kind : ObjectKind} {keys : List Text}
      (h : fields.get? key = some (.object typeName kind inner)) (hinner : Lacks inner keys) :
      Lacks fields (key :: keys)

variable {fields : Fields} {first : Text} {rest : List Text} {v : Value}

/-- A path finds exactly the value to which it leads. -/
theorem find?_eq_some_iff : fields.find? first rest = some v ↔ fields.Leads (first :: rest) v := by
  constructor
  · intro h
    induction rest generalizing fields first with
    | nil => exact .last h
    | cons next rest ih =>
      unfold Fields.find? at h
      split at h
      · next hget => exact .step hget (ih h)
      · cases h
  · exact Leads.find?_eq

/-- A path lacks a value exactly if whatever it leads to is null. -/
theorem lacks_iff :
    fields.Lacks (first :: rest) ↔ ∀ v, fields.Leads (first :: rest) v → v = .null := by
  constructor
  · -- along the path, by induction on the reason why it finds nothing
    intro h
    generalize first :: rest = keys at h
    induction h with
    | missing hmissing =>
      intro v hleads
      cases hleads with
      | last h => cases hmissing.symm.trans h
      | step h _ => cases hmissing.symm.trans h
    | noObject hget hv =>
      intro v hleads
      cases hleads with
      | step h _ => exact absurd (Option.some.inj (hget.symm.trans h)) (hv _ _ _)
    | null hnull =>
      intro v hleads
      cases hleads with
      | last h => exact (Option.some.inj (hnull.symm.trans h)).symm
      | step _ hinner => exact absurd rfl hinner.ne_nil
    | inside hget hinner ih =>
      intro v hleads
      cases hleads with
      | last _ => cases hinner
      | step h hleads =>
        cases Option.some.inj (hget.symm.trans h)
        exact ih v hleads
  · -- and from the path itself, step by step
    intro h
    induction rest generalizing fields first with
    | nil =>
      cases hget : fields.get? first with
      | none => exact .missing hget
      | some v =>
        have hnull : v = .null := h v (.last hget)
        exact .null (hnull ▸ hget)
    | cons next rest ih =>
      cases hget : fields.get? first with
      | none => exact .missing hget
      | some v =>
        by_cases hobject : ∃ typeName kind inner, v = .object typeName kind inner
        · obtain ⟨typeName, kind, inner, rfl⟩ := hobject
          exact .inside hget (ih fun v hleads => h v (.step hget hleads))
        · push Not at hobject
          exact .noObject hget hobject

/-- A path shows nothing exactly if it lacks a value. -/
theorem resolve?_eq_none_iff {path : FieldPath} :
    fields.resolve? path false = none ↔ fields.Lacks path.segments := by
  rw [resolve?, Option.bind_eq_none_iff, FieldPath.segments, lacks_iff]
  simp only [find?_eq_some_iff, Value.render_false_eq_none_iff]

end Fields

/-! ### Times of the record itself -/

/-- A path of one step names a time of the record itself, which has no field of that name. -/
inductive Record.HasOwnTime (r : Record) : FieldPath → Instant → Prop where
  | startTime (h : r.fields.get? "startTime" = none) : HasOwnTime r ⟨"startTime", []⟩ r.startTime
  | endTime (h : r.fields.get? "endTime" = none) : HasOwnTime r ⟨"endTime", []⟩ r.endTime

/-- A path names a value that is present: that of a field, or a time of the record itself. -/
inductive Record.Shows (r : Record) : FieldPath → Value → Prop where
  | field {path : FieldPath} {v : Value} (h : r.fields.Leads path.segments v) (hnull : v ≠ .null) :
      Shows r path v
  | ownTime {path : FieldPath} {i : Instant} (h : r.HasOwnTime path i) : Shows r path (.instant i)

namespace Template

variable {t : Template} {r : Record} {path : FieldPath}

/-- Where there is no such field, only a time of the record itself is looked for. -/
theorem valueOf_of_get?_eq_none (t : Template) (h : r.fields.get? path.first = none) :
    t.valueOf r (.field path) = r.ownTime? path := by
  rw [valueOf, h, Option.isNone_none, if_pos rfl]

/-- A time of the record itself is shown unless a field has its name. -/
theorem valueOf_of_hasOwnTime (t : Template) {i : Instant} (h : r.HasOwnTime path i) :
    t.valueOf r (.field path) = some (.instant i) := by
  cases h with
  | startTime h => exact valueOf_of_get?_eq_none t h
  | endTime h => exact valueOf_of_get?_eq_none t h

/-- Otherwise a path shows what its field does. -/
theorem valueOf_of_not_hasOwnTime (t : Template) (h : ∀ i, ¬ r.HasOwnTime path i) :
    t.valueOf r (.field path) = r.fields.resolve? path false := by
  obtain ⟨first, rest⟩ := path
  cases hget : r.fields.get? first with
  | none =>
    have hlacks : r.fields.resolve? ⟨first, rest⟩ false = none :=
      Fields.resolve?_eq_none_iff.mpr (.missing hget)
    rw [valueOf_of_get?_eq_none t hget, hlacks, Record.ownTime?]
    -- a name of an own time would be one of the excluded paths
    split_ifs with hrest hstart hend
    · rfl
    · obtain rfl := not_not.mp hrest
      obtain rfl : first = "startTime" := hstart
      exact absurd (.startTime hget) (h _)
    · obtain rfl := not_not.mp hrest
      obtain rfl : first = "endTime" := hend
      exact absurd (.endTime hget) (h _)
    · rfl
  | some v => rw [valueOf, hget, Option.isNone_some, if_neg Bool.false_ne_true]

/-- A path shows nothing exactly if it lacks a value and names no time of the record itself. -/
theorem valueOf_field_eq_none_iff :
    t.valueOf r (.field path) = none ↔
      r.fields.Lacks path.segments ∧ ∀ i, ¬ r.HasOwnTime path i := by
  by_cases hown : ∃ i, r.HasOwnTime path i
  · obtain ⟨i, hi⟩ := hown
    rw [valueOf_of_hasOwnTime t hi]
    constructor
    · intro h
      cases h
    · intro h
      exact absurd hi (h.2 i)
  · push Not at hown
    rw [valueOf_of_not_hasOwnTime t hown, Fields.resolve?_eq_none_iff]
    exact (and_iff_left hown).symm

/-- A path shows what the value that it names is over several lines. -/
theorem valueOf_field_eq_some_iff {x : Resolved} :
    t.valueOf r (.field path) = some x ↔ ∃ v, r.Shows path v ∧ v.render false = some x := by
  constructor
  · intro h
    by_cases hown : ∃ i, r.HasOwnTime path i
    · obtain ⟨i, hi⟩ := hown
      rw [valueOf_of_hasOwnTime t hi] at h
      exact ⟨.instant i, .ownTime hi, h⟩
    · push Not at hown
      rw [valueOf_of_not_hasOwnTime t hown, Fields.resolve?, Option.bind_eq_some_iff] at h
      obtain ⟨v, hv, hx⟩ := h
      refine ⟨v, .field (Fields.find?_eq_some_iff.mp hv) ?_, hx⟩
      rintro rfl
      cases hx
  · intro h
    obtain ⟨v, hshows, hx⟩ := h
    cases hshows with
    | field hleads hnull =>
      -- a path that leads to a field names no other time
      have hown : ∀ i, ¬ r.HasOwnTime path i := by
        intro i hi
        have hsome := hleads.isSome_get?
        cases hi with
        | startTime hmissing => rw [hmissing] at hsome; cases hsome
        | endTime hmissing => rw [hmissing] at hsome; cases hsome
      rw [valueOf_of_not_hasOwnTime t hown, Fields.resolve?, Fields.find?_eq_some_iff.mpr hleads]
      exact hx
    | ownTime hi =>
      rw [valueOf_of_hasOwnTime t hi]
      exact hx

end Template

/-! ### Tokens that matter only where a value is missing -/

/-- The tokens in the body of a marker other than `o`. -/
def Marker.plainTokens (body : Text) : List Text :=
  (tokensOf body).filter fun token => token ≠ ['o']

namespace Parameter

variable {zone : Zone} {token : Text} {p q : Parameter}

/-- A token stands for one parameter only. -/
theorem Denotes.unique (hp : Denotes zone token p) (hq : Denotes zone token q) : p = q := by
  apply Except.ok.inj
  rw [← hp.parse_eq, hq.parse_eq]

/-- Only the token `o` says that nothing is shown where there is no value. -/
theorem Denotes.isOptional_iff (h : Denotes zone token p) :
    p.isOptional = true ↔ token = ['o'] := by
  constructor
  · intro hp
    cases h with
    | optional => rfl
    | _ => cases hp
  · intro htoken
    subst htoken
    rw [h.unique .optional]
    rfl

/-- The parameters that matter for a value are what the tokens other than `o` stand for. -/
theorem forall₂_denotes_filter {tokens : List Text} {parameters : List Parameter}
    (h : List.Forall₂ (Denotes zone) tokens parameters) :
    List.Forall₂ (Denotes zone) (tokens.filter fun token => token ≠ ['o'])
      (parameters.filter fun q => !q.isOptional) := by
  induction h with
  | nil => exact .nil
  | @cons token p tokens parameters htoken _ ih =>
    by_cases hoptional : token = ['o']
    · rw [List.filter_cons_of_neg (by simpa using hoptional),
        List.filter_cons_of_neg (by simpa using htoken.isOptional_iff.mpr hoptional)]
      exact ih
    · have hplain : p.isOptional = false :=
        Bool.eq_false_iff.mpr (mt htoken.isOptional_iff.mp hoptional)
      rw [List.filter_cons_of_pos (by simpa using hoptional),
        List.filter_cons_of_pos (by simp [hplain])]
      exact .cons htoken ih

/-- Parameters without date patterns stay so whatever is said of missing values. -/
theorem not_isTimestamp_of_filter_eq {ps qs : List Parameter}
    (h : (qs.filter fun q => !q.isOptional) = ps.filter fun q => !q.isOptional)
    (hps : ∀ q ∈ ps, q.isTimestamp = false) : ∀ q ∈ qs, q.isTimestamp = false := by
  intro q hq
  cases hoptional : q.isOptional with
  | true =>
    cases q with
    | optional => rfl
    | _ => cases hoptional
  | false =>
    have hmem : q ∈ ps.filter fun q => !q.isOptional := by
      rw [← h]
      exact List.mem_filter.mpr ⟨hq, by rw [hoptional]; rfl⟩
    exact hps q (List.mem_of_mem_filter hmem)

end Parameter

namespace Placeholder

variable {zone : Zone} {body other : Text} {p : Placeholder}

/-- Tokens `o` may be put into a marker and taken out of it, as long as a date pattern stays in
front: the marker still stands for a placeholder, with the same reference and the same
transformations of values. -/
theorem Denotes.exists_denotes (h : Denotes zone body p)
    (hname : Marker.nameOf other = Marker.nameOf body)
    (htokens : Marker.plainTokens other = Marker.plainTokens body)
    (hdate : ∀ f, p.parameters.head? = some (.timestamp f) →
      (Marker.tokensOf other).head? = (Marker.tokensOf body).head?) :
    ∃ q, Denotes zone other q ∧ q.reference = p.reference ∧
      q.transformations = p.transformations := by
  have hall := h.parameters.1
  -- each token stands for something, because it is `o` or was there before
  have hdenoted : ∀ token ∈ Marker.tokensOf other, ∃ q, Parameter.Denotes zone token q := by
    intro token htoken
    by_cases hoptional : token = ['o']
    · exact ⟨.optional, hoptional ▸ .optional⟩
    · have hmem : token ∈ Marker.plainTokens body := by
        rw [← htokens]
        exact List.mem_filter.mpr ⟨htoken, decide_eq_true hoptional⟩
      exact exists_forall₂_iff.mp ⟨_, hall⟩ token (List.mem_of_mem_filter hmem)
  obtain ⟨parameters, hparameters⟩ := exists_forall₂_iff.mpr hdenoted
  have hfilter : (parameters.filter fun q => !q.isOptional) = p.transformations := by
    -- both are what the same tokens stand for
    have hunique : Relator.RightUnique (Parameter.Denotes zone) :=
      fun _ _ _ => Parameter.Denotes.unique
    apply List.right_unique_forall₂' hunique (Parameter.forall₂_denotes_filter hparameters)
    change List.Forall₂ _ (Marker.plainTokens other) _
    rw [htokens]
    exact Parameter.forall₂_denotes_filter hall
  have horderly : ∀ q ∈ parameters.tail, q.isTimestamp = false := by
    rcases h.isOrderly.cases with ⟨f, rest, hp, hrest⟩ | hnone
    · -- a date pattern in front takes no part in the change
      have hhead := hdate f (by rw [hp]; rfl)
      rw [hp] at hall
      obtain ⟨token, tokens, htoken, -, hbody⟩ := List.forall₂_cons_right_iff.mp hall
      rw [hbody, List.head?_cons] at hhead
      obtain ⟨tokens', hother⟩ := List.head?_eq_some_iff.mp hhead
      rw [hother] at hparameters
      obtain ⟨q, rest', hq, -, rfl⟩ := List.forall₂_cons_left_iff.mp hparameters
      obtain rfl := hq.unique htoken
      apply Parameter.not_isTimestamp_of_filter_eq _ hrest
      rw [transformations, hp] at hfilter
      exact (List.cons.inj hfilter).2
    · intro q hq
      exact Parameter.not_isTimestamp_of_filter_eq hfilter hnone q (List.mem_of_mem_tail hq)
  refine ⟨⟨other, p.reference, parameters⟩, ⟨rfl, ?_, hparameters, horderly⟩, rfl, hfilter⟩
  rw [hname]
  exact h.reference

end Placeholder

namespace Template

/-- A path has no value if it lacks one among the fields and names no time of the record itself.
Its placeholder is then replaced by nothing if there is a parameter `o`, and by `N/A` otherwise.  A
value that is present is replaced by what the other parameters make of it from left to right; so
tokens `o` can be put into the marker or taken out of it, behind a date pattern, without a
difference. -/
theorem missing_or_transformed {zone : Zone} {source : Text} {t : Template}
    (h : compile zone source = .ok t) (r : Record) :
    (∀ text, t.render r = .ok text ↔ ∃ texts, t.fill texts = text ∧
      List.Forall₂ (fun (p : Placeholder) text => p.substitute (t.valueOf r p.reference) = .ok text)
        t.placeholders texts) ∧
    ∀ p ∈ t.placeholders, ∀ path, p.reference = .field path →
      (t.valueOf r p.reference = none ↔
        r.fields.Lacks path.segments ∧ ∀ i, ¬ r.HasOwnTime path i) ∧
      (∀ x, t.valueOf r p.reference = some x ↔ ∃ v, r.Shows path v ∧ v.render false = some x) ∧
      p.substitute none =
        .ok (if Parameter.optional ∈ p.parameters then [] else "N/A".toList) ∧
      (∀ x text, p.substitute (some x) = .ok text ↔
        Parameter.Transforms p.transformations x text) ∧
      ∀ other, Marker.nameOf other = Marker.nameOf p.source →
        Marker.plainTokens other = Marker.plainTokens p.source →
        (∀ f, p.parameters.head? = some (.timestamp f) →
          (Marker.tokensOf other).head? = (Marker.tokensOf p.source).head?) →
        ∃ q, Placeholder.Denotes zone other q ∧ q.reference = p.reference ∧
          ∀ x text, q.substitute (some x) = .ok text ↔ p.substitute (some x) = .ok text := by
  refine ⟨fun text => render_eq_ok_iff, ?_⟩
  intro p hp path hpath
  have hdenotes := denotes_of_mem_placeholders h hp
  have hpresent (x : Resolved) (text : Text) : p.substitute (some x) = .ok text ↔
      Parameter.Transforms p.transformations x text :=
    Placeholder.substitute_some_eq_ok_iff hdenotes.isOrderly
  rw [hpath]
  refine ⟨valueOf_field_eq_none_iff, fun x => valueOf_field_eq_some_iff, p.substitute_none,
    hpresent, ?_⟩
  intro other hname htokens hdate
  obtain ⟨q, hq, hreference, htransformations⟩ := hdenotes.exists_denotes hname htokens hdate
  refine ⟨q, hq, hreference.trans hpath, fun x text => ?_⟩
  rw [Placeholder.substitute_some_eq_ok_iff hq.isOrderly, hpresent, htransformations]

/-- In `{a.b,C}{startTime,n,o}` the field `startTime` is null, although the record has such a time.
A parameter `o` on both sides of `C` would change nothing for `a.b`. -/
theorem missing_or_transformed_null :
    let r : Record := ⟨"log.Info", .epoch, .epoch,
      [("a".toList, .object "object" .generic [("b".toList, .str "x")]),
        ("startTime".toList, .null)]⟩
    ∃ t p q, compile .utc "\x7ba.b,C\x7d\x7bstartTime,n,o\x7d".toList = .ok t ∧
      t.placeholders = [p, q] ∧
      t.valueOf r p.reference = some (.text "x") ∧ p.substitute (some (.text "x")) = .ok "X" ∧
      (∃ p', Placeholder.Denotes .utc "a.b,o,C,o".toList p' ∧
        p'.substitute (some (.text "x")) = .ok "X") ∧
      t.valueOf r q.reference = none ∧ q.substitute none = .ok [] := by
  intro r
  have hsplit : Marker.split "\x7ba.b,C\x7d\x7bstartTime,n,o\x7d".toList =
      ([([], "a.b,C".toList), ([], "startTime,n,o".toList)], []) := by decide +kernel
  have ht : compile .utc "\x7ba.b,C\x7d\x7bstartTime,n,o\x7d".toList =
      .ok ⟨"\x7ba.b,C\x7d\x7bstartTime,n,o\x7d".toList,
        [([], ⟨"a.b,C".toList, .field ⟨"a".toList, ["b".toList]⟩, [.upperCase]⟩),
          ([], ⟨"startTime,n,o".toList, .field ⟨"startTime".toList, []⟩,
            [.newLine, .optional]⟩)], []⟩ := by
    rw [compile_eq_map, hsplit]
    rfl
  obtain ⟨-, hplaceholders⟩ := missing_or_transformed ht r
  obtain ⟨-, hshown, -, htext, hother⟩ := hplaceholders _ List.mem_cons_self _ rfl
  obtain ⟨hmissing, -, hnothing, -, -⟩ :=
    hplaceholders _ (List.mem_cons_of_mem _ List.mem_cons_self) _ rfl
  have hupper := (htext (.text "x") "X").mpr (.undated _ (by decide))
  obtain ⟨p', hp', -, hsame⟩ := hother "a.b,o,C,o".toList rfl rfl (fun f hf => by cases hf)
  refine ⟨_, _, _, ht, rfl, ?_, hupper, ⟨p', hp', (hsame _ _).mpr hupper⟩, ?_, hnothing⟩
  · exact (hshown _).mpr ⟨.str "x", .field (.step rfl (.last rfl)) (by simp), rfl⟩
  · refine hmissing.mpr ⟨.null rfl, fun i hi => ?_⟩
    cases hi with
    | startTime h => cases h

end Template

end TraceText
