import TraceText.Proofs.Template.Concatenation
import TraceText.Proofs.Template.Grammar

/-!
# What takes the place of a placeholder

A placeholder whose value is missing is replaced by a fixed text, whatever its parameters do to a
value.  A value that is present is written as a text, by a date pattern if the parameters begin with
one, and the text is then transformed by the others from left to right.  A date pattern that does
not come first would leave the text as it is; but such a placeholder does not compile.

## Main definitions

* `Parameter.applyAll` — a text transformed by parameters from left to right
* `Placeholder.transformations` — the parameters that matter for a value that is present
* `Parameter.Transforms` — what parameters make of a value

## Main results

* `Placeholder.substitute_none`, `Placeholder.substitute_some_eq_ok_iff` — the text that takes the
  place of a placeholder
* `Placeholder.substitute_eq_error_iff` — when there is none
* `Template.render_eq_ok_iff`, `Template.render_eq_error_iff` — the same for all placeholders
-/

namespace TraceText

namespace Parameter

/-- A text transformed by parameters from left to right. -/
def applyAll (parameters : List Parameter) (t : Text) : Text :=
  parameters.foldl (fun t parameter => parameter.apply t) t

@[simp] theorem applyAll_nil (t : Text) : applyAll [] t = t := rfl

@[simp] theorem applyAll_cons (p : Parameter) (rest : List Parameter) (t : Text) :
    applyAll (p :: rest) t = applyAll rest (p.apply t) := rfl

/-- What parameters make of a value that is present: a date pattern in front writes an instant,
anything else is written as it reads, and the other parameters transform the text.  Nothing is made
of a value by a date pattern that it does not fit, or that stands behind another parameter. -/
inductive Transforms : List Parameter → Resolved → Text → Prop where
  | dated {f : TimestampFormat} {rest : List Parameter} (i : Instant)
      (h : ∀ q ∈ rest, q.isTimestamp = false) :
      Transforms (.timestamp f :: rest) (.instant i) (applyAll rest (f.write i))
  | undated {parameters : List Parameter} (x : Resolved)
      (h : ∀ q ∈ parameters, q.isTimestamp = false) :
      Transforms parameters x (applyAll parameters x.plain)

end Parameter

namespace Placeholder

/-- The parameters that transform a value, in their order: all but those which say that nothing is
shown where there is none. -/
def transformations (p : Placeholder) : List Parameter := p.parameters.filter fun q => !q.isOptional

/-- Only the first parameter may be a date pattern. -/
def IsOrderly (p : Placeholder) : Prop := ∀ q ∈ p.parameters.tail, q.isTimestamp = false

variable {p : Placeholder} {x : Resolved} {text : Text}

theorem isOptional_iff : p.isOptional = true ↔ Parameter.optional ∈ p.parameters := by
  rw [isOptional, List.any_eq_true]
  constructor
  · intro h
    obtain ⟨q, hq, hoptional⟩ := h
    cases q with
    | optional => exact hq
    | _ => cases hoptional
  · intro h
    exact ⟨_, h, rfl⟩

/-- Where there is no value, it matters only whether some parameter says that nothing is shown. -/
theorem substitute_none (p : Placeholder) :
    p.substitute none =
      .ok (if Parameter.optional ∈ p.parameters then [] else "N/A".toList) := by
  rw [substitute]
  exact congrArg Except.ok (if_congr isOptional_iff rfl rfl)

/-- Parameters that say nothing about a value leave its text as it is. -/
theorem applyAll_filter_optional (parameters : List Parameter) (t : Text) :
    Parameter.applyAll (parameters.filter fun q => !q.isOptional) t =
      Parameter.applyAll parameters t := by
  induction parameters generalizing t with
  | nil => rfl
  | cons q rest ih =>
    cases q with
    | optional => exact ih t
    | _ => exact ih _

/-- A placeholder begins with a date pattern, or has none at all. -/
theorem IsOrderly.cases (h : p.IsOrderly) :
    (∃ f rest, p.parameters = .timestamp f :: rest ∧ ∀ q ∈ rest, q.isTimestamp = false) ∨
      ∀ q ∈ p.parameters, q.isTimestamp = false := by
  unfold IsOrderly at h
  cases hparameters : p.parameters with
  | nil =>
    right
    exact fun q hq => absurd hq List.not_mem_nil
  | cons first rest =>
    rw [hparameters, List.tail_cons] at h
    cases first with
    | timestamp f =>
      left
      exact ⟨f, rest, rfl, h⟩
    | _ =>
      right
      exact List.forall_mem_cons.mpr ⟨rfl, h⟩

theorem substitute_dated {f : TimestampFormat} {rest : List Parameter}
    (h : p.parameters = .timestamp f :: rest) (x : Resolved) :
    p.substitute (some x) =
      match x with
      | .instant i => .ok (Parameter.applyAll rest (f.write i))
      | _ => .error ⟨p.source, x.plain⟩ := by
  simp only [substitute, h]
  cases x <;> rfl

theorem substitute_undated (h : ∀ q ∈ p.parameters, q.isTimestamp = false) (x : Resolved) :
    p.substitute (some x) = .ok (Parameter.applyAll p.parameters x.plain) := by
  unfold substitute
  dsimp only
  split
  · next f rest hparameters =>
    -- a date pattern in front is excluded
    have hfirst := h (.timestamp f) (hparameters ▸ List.mem_cons_self)
    cases hfirst
  · rfl

/-- A value that is present is replaced by what all the transformations make of it. -/
theorem substitute_some_eq_ok_iff (h : p.IsOrderly) :
    p.substitute (some x) = .ok text ↔ Parameter.Transforms p.transformations x text := by
  have hdrop {parameters : List Parameter} (hno : ∀ q ∈ parameters, q.isTimestamp = false) :
      ∀ q ∈ parameters.filter fun q => !q.isOptional, q.isTimestamp = false :=
    fun q hq => hno q (List.mem_of_mem_filter hq)
  rcases h.cases with ⟨f, rest, hparameters, hrest⟩ | hnone
  · -- the date pattern writes instants, and fits nothing else
    have htransformations : p.transformations =
        .timestamp f :: rest.filter fun q => !q.isOptional := by
      rw [transformations, hparameters]
      rfl
    rw [htransformations, substitute_dated hparameters]
    constructor
    · intro hok
      cases x with
      | instant i =>
        rw [← Except.ok.inj hok, ← applyAll_filter_optional]
        exact .dated i (hdrop hrest)
      | _ => cases hok
    · intro htransforms
      cases htransforms with
      | dated i _ => rw [applyAll_filter_optional]
      | undated _ hno => cases hno _ List.mem_cons_self
  · -- every value is written as it reads, an instant too
    rw [substitute_undated hnone, ← applyAll_filter_optional, Except.ok.injEq]
    have hno := hdrop hnone
    unfold transformations
    generalize p.parameters.filter (fun q => !q.isOptional) = parameters at hno ⊢
    constructor
    · intro heq
      rw [← heq]
      exact .undated x hno
    · intro htransforms
      cases htransforms with
      | dated i _ => cases hno _ List.mem_cons_self
      | undated _ _ => rfl

/-- Only a date pattern fails, and only in front of a value that is no instant. -/
theorem substitute_eq_error_iff {value : Option Resolved} {e : RenderError} :
    p.substitute value = .error e ↔
      ∃ f x, p.parameters.head? = some (.timestamp f) ∧ value = some x ∧
        (∀ i, x ≠ .instant i) ∧ e = ⟨p.source, x.plain⟩ := by
  cases value with
  | none => simp [substitute_none]
  | some x =>
    cases hparameters : p.parameters with
    | nil =>
      rw [substitute_undated (by simp [hparameters])]
      simp
    | cons first rest =>
      cases first with
      | timestamp f =>
        rw [substitute_dated hparameters]
        cases x <;> simp [eq_comm]
      | _ => simp [substitute, hparameters]

theorem Denotes.isOrderly {zone : Zone} {body : Text} (h : Denotes zone body p) : p.IsOrderly :=
  h.parameters.2

end Placeholder

namespace Template

variable {t : Template} {r : Record}

/-- A record is rendered by putting between the literals, in their order, the texts that take the
places of the placeholders. -/
theorem render_eq_ok_iff {text : Text} :
    t.render r = .ok text ↔
      ∃ texts, t.fill texts = text ∧
        List.Forall₂ (fun (p : Placeholder) text =>
          p.substitute (t.valueOf r p.reference) = .ok text) t.placeholders texts := by
  rw [render_eq_map_fill, map_eq_ok_iff]
  unfold values
  simp only [mapM_eq_ok_iff, and_comm]

/-- Rendering fails as the leftmost placeholder for which there is no text. -/
theorem render_eq_error_iff {e : RenderError} :
    t.render r = .error e ↔
      ∃ before p after, t.placeholders = before ++ p :: after ∧
        (∀ q ∈ before, ∃ text, q.substitute (t.valueOf r q.reference) = .ok text) ∧
        p.substitute (t.valueOf r p.reference) = .error e := by
  rw [render_eq_map_fill, map_eq_error_iff]
  exact mapM_eq_error_iff

end Template

end TraceText
