import TraceText.Configuration
import TraceText.Proofs.Router.Precedence

/-!
# Routers of configurations

A configuration gives a range and a list of routes.  The router that is built from it is the one
that its routes give as names with templates, in the window of its range: whatever can be asked of
the two has the same answer.  Where one of them cannot be built, neither can the other, unless it is
for the range, which is looked at first.  A configuration tells in addition for which event a
template is faulty; it is the first one that does not compile, and its fault is the one that is
reported for the names with templates.

## Main definitions

* `Configuration.registrations` — the routes of a configuration as names with templates
* `Configuration.FirstFault` — the first route whose template does not compile, and its fault

## Main results

* `Configuration.compileRoutes_eq_error_iff` — the first fault is the one that is reported
* `Configuration.router_of_registrations` — the two ways to build a router agree
-/

namespace TraceText

namespace Route

variable {zone : Zone} {name : Text} {template : Option Text}

theorem exists_compile_iff :
    (∃ route, Route.compile zone name template = .ok route) ↔
      ∀ source, template = some source → ∃ t, Template.compile zone source = .ok t := by
  cases template with
  | none => exact ⟨fun _ _ => nofun, fun _ => ⟨_, compile_none zone name⟩⟩
  | some source =>
    simp only [compile_some, map_eq_ok_iff]
    constructor
    · rintro ⟨_, t, ht, -⟩ _ ⟨⟩
      exact ⟨t, ht⟩
    · intro h
      obtain ⟨t, ht⟩ := h source rfl
      exact ⟨_, t, ht, rfl⟩

/-- A route fails exactly as its template does. -/
theorem compile_eq_error_iff {e : TemplateError} :
    Route.compile zone name template = .error e ↔
      ∃ source, template = some source ∧ Template.compile zone source = .error e := by
  cases template with
  | none => simp [compile_none]
  | some source =>
    rw [compile_some, map_eq_error_iff]
    constructor
    · intro h
      exact ⟨source, rfl, h⟩
    · rintro ⟨_, ⟨⟩, h⟩
      exact h

end Route

namespace Configuration

variable {zone : Zone} {specs : List RouteSpec}

/-! ### The first fault among routes -/

/-- The routes of a configuration as names with templates. -/
def registrations (c : Configuration) : List Registration :=
  c.routes.map fun spec => (spec.event, spec.template)

/-- A route is the first one whose template does not compile, with this fault. -/
def FirstFault (zone : Zone) (specs : List RouteSpec) (spec : RouteSpec) (fault : TemplateError) :
    Prop :=
  ∃ before after, specs = before ++ spec :: after ∧
    (∀ other ∈ before, ∀ source, other.template = some source →
      ∃ t, Template.compile zone source = .ok t) ∧
    ∃ source, spec.template = some source ∧ Template.compile zone source = .error fault

theorem compileRoutes_eq_mapM (zone : Zone) (specs : List RouteSpec) :
    compileRoutes zone specs = specs.mapM fun spec =>
      (Route.compile zone spec.event spec.template).mapError (.template spec.event) := by
  induction specs with
  | nil => rfl
  | cons spec specs ih =>
    rw [List.mapM_cons, ← ih]
    rfl

/-- Routes are compiled to the same ones, whether they come from a configuration or not. -/
theorem compileRoutes_eq_ok_iff {routes : List Route} :
    compileRoutes zone specs = .ok routes ↔
      Router.compileRoutes zone (specs.map fun spec => (spec.event, spec.template)) =
        .ok routes := by
  rw [compileRoutes_eq_mapM, Router.compileRoutes_eq_mapM, List.mapM_map, mapM_eq_ok_iff,
    mapM_eq_ok_iff]
  simp only [mapError_eq_ok_iff, Function.comp_apply]

/-- The first fault is reported, with the event of its route. -/
theorem compileRoutes_eq_error_iff {e : ConfigError} :
    compileRoutes zone specs = .error e ↔
      ∃ spec fault, FirstFault zone specs spec fault ∧ e = .template spec.event fault := by
  rw [compileRoutes_eq_mapM, mapM_eq_error_iff]
  simp only [mapError_eq_ok_iff, mapError_eq_error_iff, Route.exists_compile_iff,
    Route.compile_eq_error_iff]
  constructor
  · rintro ⟨before, spec, after, hspecs, hbefore, fault, hfault, rfl⟩
    exact ⟨spec, fault, ⟨before, after, hspecs, hbefore, hfault⟩, rfl⟩
  · rintro ⟨spec, fault, ⟨before, after, hspecs, hbefore, hfault⟩, rfl⟩
    exact ⟨before, spec, after, hspecs, hbefore, fault, hfault, rfl⟩

/-- Without the event, the same fault is reported for names with templates. -/
theorem FirstFault.compileRoutes_eq_error {spec : RouteSpec} {fault : TemplateError}
    (h : FirstFault zone specs spec fault) :
    Router.compileRoutes zone (specs.map fun spec => (spec.event, spec.template)) =
      .error fault := by
  obtain ⟨before, after, hspecs, hbefore, hfault⟩ := h
  rw [Router.compileRoutes_eq_mapM, List.mapM_map, mapM_eq_error_iff]
  refine ⟨before, spec, after, hspecs, ?_, Route.compile_eq_error_iff.mpr hfault⟩
  intro other hother
  exact Route.exists_compile_iff.mpr (hbefore other hother)

/-! ### The two ways to build a router -/

theorem window_eq_error_iff {c : Configuration} {now : Instant} {e : ConfigError} :
    c.window now = .error e ↔
      ∃ range fault, c.range = some range ∧ Window.ofRange range now = .error fault ∧
        e = .range fault := by
  unfold window
  cases c.range with
  | none => simp
  | some range =>
    rw [mapError_eq_error_iff]
    constructor
    · rintro ⟨fault, hfault, rfl⟩
      exact ⟨range, fault, rfl, hfault, rfl⟩
    · rintro ⟨_, fault, ⟨⟩, hfault, rfl⟩
      exact ⟨fault, hfault, rfl⟩

theorem exists_window_iff {c : Configuration} {now : Instant} :
    (∃ window, c.window now = .ok window) ↔
      ∀ text, c.range = some text → ∃ window, Window.ofRange text now = .ok window := by
  unfold window
  cases c.range with
  | none => exact ⟨fun _ _ => nofun, fun _ => ⟨_, rfl⟩⟩
  | some text => simp [mapError_eq_ok_iff]

/-- A configuration and its routes as names with templates give the same router, if one of the two
gives any and the range gives a window.  Otherwise the range is to blame, whatever the routes are,
or else the first route whose template does not compile.  This route is named by its event as it is
written, and its fault is the one that is reported for the names with templates. -/
theorem router_of_registrations (c : Configuration) (zone : Zone) (now : Instant) :
    (∀ router, c.router zone now = .ok router ↔
        ∃ window, c.window now = .ok window ∧
          Router.ofSpecs zone c.registrations window = .ok router) ∧
      ((∃ router, c.router zone now = .ok router) ↔
        (∀ range, c.range = some range → ∃ window, Window.ofRange range now = .ok window) ∧
          ∀ window, ∃ router, Router.ofSpecs zone c.registrations window = .ok router) ∧
      ∀ e, c.router zone now = .error e ↔
        (∃ range fault, c.range = some range ∧ Window.ofRange range now = .error fault ∧
            e = .range fault) ∨
          ∃ window, c.window now = .ok window ∧
            ∃ spec fault, FirstFault zone c.routes spec fault ∧
              Router.ofSpecs zone c.registrations window = .error fault ∧
              e = .template spec.event fault ∧
              e.message = "Invalid template for event '" ++ spec.event ++ "': " ++
                fault.message := by
  have hbuilt (router : Router) : c.router zone now = .ok router ↔
      ∃ window, c.window now = .ok window ∧
        Router.ofSpecs zone c.registrations window = .ok router := by
    simp only [Configuration.router, Router.ofSpecs, bind_eq_ok_iff, compileRoutes_eq_ok_iff,
      registrations, pure, Except.pure, Except.ok.injEq]
  have hfault {spec : RouteSpec} {fault : TemplateError} (h : FirstFault zone c.routes spec fault)
      (window : Window) : Router.ofSpecs zone c.registrations window = .error fault := by
    rw [Router.ofSpecs, registrations, h.compileRoutes_eq_error]
    rfl
  refine ⟨hbuilt, ?succeeds, ?fails⟩
  case succeeds =>
    simp only [hbuilt, ← exists_window_iff]
    constructor
    · rintro ⟨router, window, hwindow, hrouter⟩
      refine ⟨⟨window, hwindow⟩, fun other => ?_⟩
      -- whether the routes compile does not depend on the window
      obtain ⟨routes, hroutes, -⟩ := bind_eq_ok_iff.mp hrouter
      exact ⟨_, bind_eq_ok_iff.mpr ⟨routes, hroutes, rfl⟩⟩
    · rintro ⟨⟨window, hwindow⟩, hroutes⟩
      obtain ⟨router, hrouter⟩ := hroutes window
      exact ⟨router, window, hwindow, hrouter⟩
  case fails =>
    intro e
    rw [Configuration.router, bind_eq_error_iff, window_eq_error_iff]
    refine or_congr_right (exists_congr fun window => and_congr_right fun _ => ?_)
    constructor
    · intro h
      rcases bind_eq_error_iff.mp h with h | ⟨_, -, h⟩
      · obtain ⟨spec, fault, hfirst, rfl⟩ := compileRoutes_eq_error_iff.mp h
        exact ⟨spec, fault, hfirst, hfault hfirst window, rfl, rfl⟩
      · cases h
    · rintro ⟨spec, fault, hfirst, -, rfl, -⟩
      exact bind_eq_error_iff.mpr (.inl (compileRoutes_eq_error_iff.mpr ⟨spec, fault, hfirst, rfl⟩))

end Configuration

end TraceText
