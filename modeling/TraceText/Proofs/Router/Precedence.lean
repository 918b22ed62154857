import Mathlib.Data.Finset.Card
import TraceText.Proofs.Text.Pieces
import TraceText.Proofs.Traversal
import TraceText.Router

/-!
# Precedence of routes

Routes are given as names with optional templates, and a star at the end of a name makes it stand
for a beginning.  Which of them decides about an event type can be read off their list.  Among the
names without a star only the event type itself counts, and of several such the last one; they come
before all names with a star, of which the first one that fits counts.  So the two kinds can be
mixed in any way, and names without a star that are not equal can change places.

## Main definitions

* `Registration.isExactly`, `Registration.isStartOf` — which event types a name stands for
* `Registration.chosen?` — the one of a list that decides about an event type
* `Registration.Reorders` — the orders that do not matter are changed

## Main results

* `Router.lookup_ofRoutes` — the route of an event type, read off the list of all routes
* `Router.length_byName_ofRoutes` — routes for one event type have distinct names
* `Router.ofSpecs_precedence` — what decides, what does not matter, and how many routes there are
-/

namespace TraceText

/-- A name, possibly with a star at its end, with an optional template. -/
abbrev Registration := Text × Option Text

namespace Registration

/-- Whether the name stands for a beginning. -/
def isStarred (spec : Registration) : Bool := decide (spec.1.getLast? = some '*')

/-- Whether the name stands for this event type alone. -/
def isExactly (eventType : Text) (spec : Registration) : Bool :=
  !spec.isStarred && decide (spec.1 = eventType)

/-- Whether the name stands for a beginning of this event type; one star does not belong to it. -/
def isStartOf (eventType : Text) (spec : Registration) : Bool :=
  spec.isStarred && decide (spec.1.dropLast <+: eventType)

/-- The one of a list that decides about an event type: the last one for this type alone, or else
the first one for a beginning of it. -/
def chosen? (specs : List Registration) (eventType : Text) : Option Registration :=
  (specs.filter (isExactly eventType)).getLast?.or (specs.filter (isStartOf eventType)).head?

/-- A list in another order, where names with a star keep their order, and so do equal names
without one. -/
structure Reorders (specs specs' : List Registration) : Prop where
  perm : specs'.Perm specs
  starred : specs'.filter isStarred = specs.filter isStarred
  named : ∀ name, specs'.filter (isExactly name) = specs.filter (isExactly name)

/-- Such an order does not change what decides. -/
theorem Reorders.chosen?_eq {specs specs' : List Registration} (h : Reorders specs specs')
    (eventType : Text) : chosen? specs' eventType = chosen? specs eventType := by
  -- only names with a star can stand for a beginning, and these keep their order
  have hstart : ∀ list : List Registration, list.filter (isStartOf eventType) =
      (list.filter isStarred).filter fun spec => decide (spec.1.dropLast <+: eventType) := by
    intro list
    rw [List.filter_filter]
    exact List.filter_congr fun spec _ => Bool.and_comm _ _
  rw [chosen?, chosen?, h.named, hstart, hstart, h.starred]

end Registration

/-! ### What a name with a template describes -/

namespace Route

/-- The route of a name, whose template has been compiled. -/
def ofName (name : Text) (template : Option Template) : Route :=
  match Text.stripEnd wildcard name with
  | some start => ⟨start, template, true⟩
  | none => ⟨name, template, false⟩

theorem compile_none (zone : Zone) (name : Text) :
    Route.compile zone name none = .ok (ofName name none) := by
  simp only [Route.compile, ofName]
  cases Text.stripEnd wildcard name <;> rfl

theorem compile_some (zone : Zone) (name source : Text) :
    Route.compile zone name (some source) =
      (Template.compile zone source).map fun t => ofName name (some t) := by
  simp only [Route.compile, ofName]
  cases Template.compile zone source with
  | error e => rfl
  | ok t => cases Text.stripEnd wildcard name <;> rfl

/-- Only a template that does not compile stands in the way of a route. -/
theorem exists_compile {zone : Zone} {spec : Registration}
    (h : ∀ source, spec.2 = some source → ∃ t, Template.compile zone source = .ok t) :
    ∃ route, Route.compile zone spec.1 spec.2 = .ok route := by
  cases hsource : spec.2 with
  | none => exact ⟨_, compile_none zone spec.1⟩
  | some source =>
    obtain ⟨t, ht⟩ := h source hsource
    exact ⟨_, by rw [compile_some, ht]; rfl⟩

theorem eq_ofName_of_compile {zone : Zone} {spec : Registration} {route : Route}
    (h : Route.compile zone spec.1 spec.2 = .ok route) :
    ∃ template, route = ofName spec.1 template := by
  cases hsource : spec.2 with
  | none =>
    rw [hsource, compile_none] at h
    exact ⟨none, (Except.ok.inj h).symm⟩
  | some source =>
    rw [hsource, compile_some] at h
    obtain ⟨t, -, rfl⟩ := map_eq_ok_iff.mp h
    exact ⟨some t, rfl⟩

/-- The route of a name keeps all of it but one star at its end. -/
theorem name_of_compile {zone : Zone} {spec : Registration} {route : Route}
    (h : Route.compile zone spec.1 spec.2 = .ok route) :
    route.isOpen = spec.isStarred ∧
      spec.1 = if route.isOpen then route.name ++ [wildcard] else route.name := by
  obtain ⟨template, rfl⟩ := eq_ofName_of_compile h
  unfold ofName Registration.isStarred
  cases hstrip : Text.stripEnd wildcard spec.1 with
  | some start =>
    have hname : spec.1 = start ++ [wildcard] := Text.stripEnd_eq_some_iff.mp hstrip
    refine ⟨(decide_eq_true ?_).symm, hname⟩
    rw [hname, List.getLast?_concat]
    rfl
  | none =>
    refine ⟨(decide_eq_false ?_).symm, rfl⟩
    intro hlast
    obtain ⟨start, hname⟩ := List.getLast?_eq_some_iff.mp hlast
    have hsome : Text.stripEnd wildcard spec.1 = some start := Text.stripEnd_eq_some_iff.mpr hname
    rw [hstrip] at hsome
    cases hsome

theorem isExactly_of_compile {zone : Zone} {spec : Registration} {route : Route}
    (h : Route.compile zone spec.1 spec.2 = .ok route) (eventType : Text) :
    spec.isExactly eventType = (!route.isOpen && decide (route.name = eventType)) := by
  obtain ⟨hopen, hname⟩ := name_of_compile h
  rw [Registration.isExactly, ← hopen]
  cases hr : route.isOpen with
  | true => rfl
  | false =>
    rw [hr] at hname
    rw [hname]
    rfl

theorem isStartOf_of_compile {zone : Zone} {spec : Registration} {route : Route}
    (h : Route.compile zone spec.1 spec.2 = .ok route) (eventType : Text) :
    spec.isStartOf eventType = (route.isOpen && Text.startsWith route.name eventType) := by
  obtain ⟨hopen, hname⟩ := name_of_compile h
  rw [Registration.isStartOf, ← hopen]
  cases hr : route.isOpen with
  | false => rfl
  | true =>
    rw [hr, if_pos rfl] at hname
    rw [hname, List.dropLast_concat, Bool.true_and, Bool.true_and, Bool.eq_iff_iff,
      decide_eq_true_eq, Text.startsWith, Option.isSome_iff_exists]
    simp only [Text.stripStart_eq_some_iff]
    exact exists_congr fun rest => eq_comm

end Route

/-! ### Routes of a router -/

namespace Router

theorem ofRoutes_concat (routes : List Route) (route : Route) (w : Window) :
    ofRoutes (routes ++ [route]) w = (ofRoutes routes w).register route :=
  List.foldl_concat register (empty w) route routes

theorem window_ofRoutes (routes : List Route) (w : Window) : (ofRoutes routes w).window = w := by
  induction routes using List.reverseRecOn with
  | nil => rfl
  | append_singleton routes route ih =>
    rw [ofRoutes_concat, register]
    split <;> exact ih

/-- Open routes are kept in the order of their registration. -/
theorem byStart_ofRoutes (routes : List Route) (w : Window) :
    (ofRoutes routes w).byStart = routes.filter Route.isOpen := by
  induction routes using List.reverseRecOn with
  | nil => rfl
  | append_singleton routes route ih =>
    rw [ofRoutes_concat, register, List.filter_append]
    cases hopen : route.isOpen with
    | true => simp [hopen, ih]
    | false => simp [hopen, ih]

/-- A route that is added is found under its name, and all others under theirs. -/
theorem find?_insertByName (routes : List Route) (route : Route) (name : Text) :
    (insertByName routes route).find? (fun x => decide (x.name = name)) =
      if route.name = name then some route
      else routes.find? fun x => decide (x.name = name) := by
  induction routes with
  | nil => by_cases hname : route.name = name <;> simp [insertByName, hname]
  | cons known rest ih =>
    rw [insertByName]
    by_cases hknown : known.name = route.name
    · -- the known route had the same name, so no other name is affected
      rw [if_pos hknown, List.find?_cons, List.find?_cons, hknown]
      by_cases hname : route.name = name <;> simp [hname]
    · rw [if_neg hknown, List.find?_cons, List.find?_cons, ih]
      by_cases hname : known.name = name
      · have hroute : route.name ≠ name := fun heq => hknown (hname.trans heq.symm)
        simp [hname, hroute]
      · simp [hname]

/-- Of several routes for one event type the one registered last is found. -/
theorem find?_byName_ofRoutes (routes : List Route) (w : Window) (name : Text) :
    (ofRoutes routes w).byName.find? (fun x => decide (x.name = name)) =
      (routes.filter fun x => !x.isOpen && decide (x.name = name)).getLast? := by
  induction routes using List.reverseRecOn with
  | nil => rfl
  | append_singleton routes route ih =>
    rw [ofRoutes_concat, register, List.filter_append]
    cases hopen : route.isOpen with
    | true => simp [hopen, ih]
    | false =>
      -- a route of the same name takes the place of those before it
      simp only [Bool.false_eq_true, if_false, find?_insertByName, ih]
      by_cases hname : route.name = name
      · simp [hopen, hname]
      · simp [hopen, hname]

/-- The route of an event type, read off the list of all routes. -/
theorem lookup_ofRoutes (routes : List Route) (w : Window) (eventType : Text) :
    (ofRoutes routes w).lookup eventType =
      (routes.filter fun x => !x.isOpen && decide (x.name = eventType)).getLast?.or
        (routes.filter fun x => x.isOpen && Text.startsWith x.name eventType).head? := by
  rw [lookup, find?_byName_ofRoutes, byStart_ofRoutes, ← List.head?_filter, List.filter_filter]
  simp only [Bool.and_comm]

theorem names_insertByName (routes : List Route) (route : Route) :
    (insertByName routes route).map Route.name =
      if route.name ∈ routes.map Route.name then routes.map Route.name
      else routes.map Route.name ++ [route.name] := by
  induction routes with
  | nil => rfl
  | cons known rest ih =>
    rw [insertByName]
    by_cases hknown : known.name = route.name
    · simp [hknown]
    · rw [if_neg hknown, List.map_cons, ih]
      by_cases hrest : route.name ∈ rest.map Route.name
      · simp [hrest]
      · simp [hrest, Ne.symm hknown]

theorem nodup_names_insertByName {routes : List Route} (h : (routes.map Route.name).Nodup)
    (route : Route) : ((insertByName routes route).map Route.name).Nodup := by
  rw [names_insertByName]
  split_ifs with hknown
  · exact h
  · rw [List.nodup_append]
    refine ⟨h, List.nodup_singleton _, ?_⟩
    rintro name hname _ hroute rfl
    exact hknown (List.mem_singleton.mp hroute ▸ hname)

theorem mem_names_insertByName {routes : List Route} {route : Route} {name : Text} :
    name ∈ (insertByName routes route).map Route.name ↔
      name ∈ routes.map Route.name ∨ name = route.name := by
  rw [names_insertByName]
  split_ifs with hknown
  · constructor
    · exact Or.inl
    · rintro (hname | rfl)
      · exact hname
      · exact hknown
  · rw [List.mem_append, List.mem_singleton]

/-- Routes for one event type have distinct names. -/
theorem nodup_names_ofRoutes (routes : List Route) (w : Window) :
    ((ofRoutes routes w).byName.map Route.name).Nodup := by
  induction routes using List.reverseRecOn with
  | nil => exact List.nodup_nil
  | append_singleton routes route ih =>
    rw [ofRoutes_concat, register]
    split_ifs with hopen
    · exact ih
    · exact nodup_names_insertByName ih route

/-- No name of a route for one event type is lost. -/
theorem mem_names_ofRoutes {routes : List Route} {w : Window} {name : Text} :
    name ∈ (ofRoutes routes w).byName.map Route.name ↔
      name ∈ (routes.filter (!·.isOpen)).map Route.name := by
  induction routes using List.reverseRecOn with
  | nil => rfl
  | append_singleton routes route ih =>
    rw [ofRoutes_concat, register, List.filter_append, List.map_append, List.mem_append, ← ih]
    cases hopen : route.isOpen with
    | true => simp [hopen]
    | false =>
      -- whether the name is new or not, it is kept
      have hroute : [route].filter (!·.isOpen) = [route] := by simp [hopen]
      rw [if_neg Bool.false_ne_true, mem_names_insertByName, hroute, List.map_singleton,
        List.mem_singleton]

/-- There are as many routes for one event type as there are names of such routes. -/
theorem length_byName_ofRoutes (routes : List Route) (w : Window) :
    (ofRoutes routes w).byName.length =
      ((routes.filter (!·.isOpen)).map Route.name).toFinset.card := by
  have hnames : ((routes.filter (!·.isOpen)).map Route.name).toFinset =
      ((ofRoutes routes w).byName.map Route.name).toFinset := by
    ext name
    rw [List.mem_toFinset, List.mem_toFinset, mem_names_ofRoutes]
  rw [hnames, List.toFinset_card_of_nodup (nodup_names_ofRoutes routes w), List.length_map]

/-! ### Routers of names with templates -/

theorem compileRoutes_eq_mapM (zone : Zone) (specs : List Registration) :
    compileRoutes zone specs = specs.mapM fun spec => Route.compile zone spec.1 spec.2 := by
  induction specs with
  | nil => rfl
  | cons spec specs ih =>
    rw [List.mapM_cons, ← ih]
    rfl

/-- If all templates compile, there is a router, and its routes are those of the names. -/
theorem exists_ofSpecs {zone : Zone} {specs : List Registration} (window : Window)
    (h : ∀ spec ∈ specs, ∀ source, spec.2 = some source →
      ∃ t, Template.compile zone source = .ok t) :
    ∃ routes, List.Forall₂ (fun spec route => Route.compile zone spec.1 spec.2 = .ok route) specs
      routes ∧ ofSpecs zone specs window = .ok (ofRoutes routes window) := by
  obtain ⟨routes, hroutes⟩ := exists_forall₂_iff.mpr fun spec hspec =>
    Route.exists_compile (h spec hspec)
  refine ⟨routes, hroutes, ?_⟩
  rw [ofSpecs, compileRoutes_eq_mapM, mapM_eq_ok_iff.mpr hroutes]
  rfl

section Described

variable {zone : Zone} {specs : List Registration} {routes : List Route}
  (h : List.Forall₂ (fun spec route => Route.compile zone spec.1 spec.2 = .ok route) specs routes)

include h

/-- What is kept of the names and what is kept of their routes show the same. -/
theorem map_filter_eq_of_compile {γ : Type} {f : Registration → γ} {g : Route → γ}
    {p : Registration → Bool} {q : Route → Bool}
    (hpq : ∀ spec route, Route.compile zone spec.1 spec.2 = .ok route → p spec = q route)
    (hfg : ∀ spec route, Route.compile zone spec.1 spec.2 = .ok route → p spec = true →
      f spec = g route) :
    (specs.filter p).map f = (routes.filter q).map g := by
  induction h with
  | nil => rfl
  | @cons spec route specs routes hroute _ ih =>
    rw [List.filter_cons, List.filter_cons, ← hpq spec route hroute]
    split_ifs with hp
    · rw [List.map_cons, List.map_cons, ih, hfg spec route hroute hp]
    · exact ih

/-- The route of an event type is that of the name that decides about it. -/
theorem lookup_eq_chosen? (window : Window) (eventType : Text) :
    (Registration.chosen? specs eventType).map (fun spec => Route.compile zone spec.1 spec.2) =
      ((ofRoutes routes window).lookup eventType).map .ok := by
  -- each kind of name is compared with the routes of that kind
  have hexact := map_filter_eq_of_compile h (f := fun spec => Route.compile zone spec.1 spec.2)
    (g := Except.ok) (fun _ _ hroute => Route.isExactly_of_compile hroute eventType)
    fun _ _ hroute _ => hroute
  have hstart := map_filter_eq_of_compile h (f := fun spec => Route.compile zone spec.1 spec.2)
    (g := Except.ok) (fun _ _ hroute => Route.isStartOf_of_compile hroute eventType)
    fun _ _ hroute _ => hroute
  rw [lookup_ofRoutes, Registration.chosen?, Option.map_or, Option.map_or, ← List.getLast?_map,
    ← List.getLast?_map, ← List.head?_map, ← List.head?_map, hexact, hstart]

/-- The number of routes, read off the list of names. -/
theorem size_eq (window : Window) :
    (ofRoutes routes window).size = (specs.filter Registration.isStarred).length +
      ((specs.filter (!·.isStarred)).map Prod.fst).toFinset.card := by
  have hstarred : (specs.filter Registration.isStarred).map (fun _ => ()) =
      (routes.filter Route.isOpen).map fun _ => () :=
    map_filter_eq_of_compile h (fun _ _ hroute => (Route.name_of_compile hroute).1.symm)
      fun _ _ _ _ => rfl
  have hnames : (specs.filter (!·.isStarred)).map Prod.fst =
      (routes.filter (!·.isOpen)).map Route.name := by
    refine map_filter_eq_of_compile h ?_ ?_
    · intro spec route hroute
      rw [(Route.name_of_compile hroute).1]
    · -- without a star the name of the route is the whole name
      intro spec route hroute hunstarred
      obtain ⟨hopen, hname⟩ := Route.name_of_compile hroute
      rw [hname, if_neg]
      simpa [hopen] using hunstarred
  have hlength := congrArg List.length hstarred
  rw [List.length_map, List.length_map] at hlength
  rw [size, length_byName_ofRoutes, byStart_ofRoutes, hnames, hlength, Nat.add_comm]

end Described

/-- What a router does with a record depends only on its window and on what it finds for event
types. -/
theorem dispatch_congr {a b : Router} (hwindow : a.window = b.window)
    (hlookup : ∀ eventType, a.lookup eventType = b.lookup eventType) (r : Record) :
    a.dispatch r = b.dispatch r := by
  rw [dispatch, dispatch, hwindow, hlookup]

/-- Routes of names are found by precedence: the last one without a star that is the event type,
or else the first one with a star whose beginning fits.  So it does not matter how names with and
without a star are mixed, nor in which order different names without a star come, and each of these
counts once. -/
theorem ofSpecs_precedence (zone : Zone) (window : Window) {specs : List Registration}
    (h : ∀ spec ∈ specs, ∀ source, spec.2 = some source →
      ∃ t, Template.compile zone source = .ok t) :
    ∃ router, ofSpecs zone specs window = .ok router ∧
      (∀ eventType, (router.lookup eventType).map .ok =
        (Registration.chosen? specs eventType).map fun spec =>
          Route.compile zone spec.1 spec.2) ∧
      (∀ specs', Registration.Reorders specs specs' →
        ∃ router', ofSpecs zone specs' window = .ok router' ∧
          (∀ eventType, router'.lookup eventType = router.lookup eventType) ∧
          ∀ r, router'.dispatch r = router.dispatch r) ∧
      router.size = (specs.filter Registration.isStarred).length +
        ((specs.filter (!·.isStarred)).map Prod.fst).toFinset.card := by
  obtain ⟨routes, hroutes, hrouter⟩ := exists_ofSpecs window h
  refine ⟨_, hrouter, fun eventType => (lookup_eq_chosen? hroutes window eventType).symm, ?_,
    size_eq hroutes window⟩
  intro specs' hspecs'
  have h' : ∀ spec ∈ specs', ∀ source, spec.2 = some source →
      ∃ t, Template.compile zone source = .ok t :=
    fun spec hspec => h spec (hspecs'.perm.mem_iff.mp hspec)
  obtain ⟨routes', hroutes', hrouter'⟩ := exists_ofSpecs window h'
  have hlookup : ∀ eventType, (ofRoutes routes' window).lookup eventType =
      (ofRoutes routes window).lookup eventType := by
    intro eventType
    have hmap : ((ofRoutes routes' window).lookup eventType).map
        (Except.ok : Route → Except TemplateError Route) =
          ((ofRoutes routes window).lookup eventType).map .ok := by
      rw [← lookup_eq_chosen? hroutes' window, ← lookup_eq_chosen? hroutes window,
        hspecs'.chosen?_eq]
    -- equal results of compiling are equal routes
    exact Option.map_injective (fun _ _ => Except.ok.inj) hmap
  refine ⟨_, hrouter', hlookup, dispatch_congr ?_ hlookup⟩
  rw [window_ofRoutes, window_ofRoutes]

/-- Of two names `ab` the second one decides about `ab`, and of three names with a star that fit
the first one decides about `abc`. -/
theorem ofSpecs_precedence_mixed :
    let specs : List Registration := [("a*".toList, none), ("ab".toList, some "\x7bx\x7d".toList),
      ("ab*".toList, none), ("ab".toList, some ['y']), ("*".toList, none)]
    ∃ router, ofSpecs .utc specs .unbounded = .ok router ∧
      (router.lookup "ab".toList).map .ok = some (Route.compile .utc "ab".toList (some ['y'])) ∧
      (router.lookup "abc".toList).map .ok = some (Route.compile .utc "a*".toList none) ∧
      router.size = 4 := by
  intro specs
  have hsome : ∀ spec ∈ specs, ∀ source ∈ spec.2,
      (Template.compile .utc source).toOption.isSome = true := by decide +kernel
  have h : ∀ spec ∈ specs, ∀ source, spec.2 = some source →
      ∃ t, Template.compile .utc source = .ok t := by
    intro spec hspec source hsource
    have hsource := hsome spec hspec source hsource
    cases hcompile : Template.compile .utc source with
    | ok t => exact ⟨t, rfl⟩
    | error e =>
      rw [hcompile] at hsource
      cases hsource
  obtain ⟨router, hrouter, hlookup, -, hsize⟩ := ofSpecs_precedence .utc .unbounded h
  refine ⟨router, hrouter, ?_, ?_, ?_⟩
  · rw [hlookup]
    rfl
  · rw [hlookup]
    rfl
  · rw [hsize]
    decide

end Router

end TraceText
