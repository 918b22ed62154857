import TraceText.Template.Render
import TraceText.Window

/-!
# Routes of events

A route tells for an event type, or for all types that begin in a certain way, how records are
written.  A route for exactly one type comes before all others; of those the first one wins.

## Main definitions

* `Route` — the name of a route, whether it stands for a beginning, and its template
* `Router` — routes and a window in time
* `Router.lookup` — the route of an event type
* `Router.dispatch` — the text of a record, if it is admitted and has a route
-/

namespace TraceText

/-- How records of some event types are written. -/
structure Route where
  /-- The event type, or its beginning. -/
  name : Text
  /-- Without a template records have their default text. -/
  template : Option Template
  /-- Whether the route stands for all types that begin with its name. -/
  isOpen : Bool
  deriving DecidableEq, Inhabited

namespace Route

/-- The mark behind the name of a route that stands for a beginning. -/
def wildcard : Char := '*'

/-- The route that a name, possibly with a wildcard at its end, and a template describe. -/
def compile (zone : Zone) (name : Text) (template : Option Text) : Except TemplateError Route := do
  let template ← match template with
    | some source => (Template.compile zone source).map some
    | none => pure none
  match Text.stripEnd wildcard name with
  | some start => return ⟨start, template, true⟩
  | none => return ⟨name, template, false⟩

/-- A record as a route writes it. -/
def write (route : Route) (r : Record) : Except RenderError Text :=
  match route.template with
  | some template => template.render r
  | none => .ok r.text

end Route

/-- Routes and a window in time. -/
structure Router where
  /-- Routes for one event type, with distinct names. -/
  byName : List Route
  /-- Routes for all types with a certain beginning, in the order of their registration. -/
  byStart : List Route
  window : Window
  deriving Inhabited

namespace Router

/-- A route added to those for one event type; it takes the place of one with the same name. -/
def insertByName (routes : List Route) (route : Route) : List Route :=
  match routes with
  | [] => [route]
  | known :: rest =>
    if known.name = route.name then route :: rest else known :: insertByName rest route

/-- A router without routes. -/
def empty (window : Window) : Router := ⟨[], [], window⟩

/-- A route registered. -/
def register (router : Router) (route : Route) : Router :=
  if route.isOpen then { router with byStart := router.byStart ++ [route] }
  else { router with byName := insertByName router.byName route }

/-- The router of a list of routes. -/
def ofRoutes (routes : List Route) (window : Window) : Router :=
  routes.foldl register (empty window)

/-- The routes that names with optional templates describe; the first fault is reported. -/
def compileRoutes (zone : Zone) : List (Text × Option Text) → Except TemplateError (List Route)
  | [] => .ok []
  | (name, template) :: rest => do
    let route ← Route.compile zone name template
    return route :: (← compileRoutes zone rest)

/-- The router of names with optional templates. -/
def ofSpecs (zone : Zone) (specs : List (Text × Option Text)) (window : Window) :
    Except TemplateError Router := do
  return ofRoutes (← compileRoutes zone specs) window

/-- The number of routes. -/
def size (router : Router) : Nat := router.byName.length + router.byStart.length

/-- Whether there are no routes. -/
def isEmpty (router : Router) : Bool := router.size == 0

/-- The route of an event type. -/
def lookup (router : Router) (eventType : Text) : Option Route :=
  (router.byName.find? fun route => decide (route.name = eventType)).or
    (router.byStart.find? fun route => Text.startsWith route.name eventType)

/-- The text of a record; none if it lies outside the window or has no route. -/
def dispatch (router : Router) (r : Record) : Except RenderError (Option Text) :=
  if router.window.admits r.endTime then
    match router.lookup r.eventType with
    | some route => (route.write r).map some
    | none => .ok none
  else .ok none

end Router

end TraceText
