import TraceText.IoError
import TraceText.Router
import TraceText.Yaml.Document

/-!
# Configurations

A configuration tells which events are shown, how, how far back, and in which zone.  It can be read
from YAML:

```yaml
range: 90min
routes:
  - event: "build.*"
    template: "{eventName,0d} {message}"
  - event: shutdown
```

## Main definitions

* `RouteSpec`, `Configuration` — a route, and all of a configuration
* `ConfigError` — why a configuration cannot be used
* `Configuration.read` — the configuration that a YAML text describes
* `Configuration.router` — the router of a configuration
-/

namespace TraceText

/-- A route as it is configured. -/
structure RouteSpec where
  event : Text
  template : Option Text
  deriving DecidableEq, Repr, Inhabited

/-- What is shown of events. -/
structure Configuration where
  /-- How far back events are shown. -/
  range : Option Text
  /-- Whether times are shown in universal time. -/
  utc : Bool
  routes : List RouteSpec
  deriving DecidableEq, Repr, Inhabited

/-- Why a configuration cannot be used. -/
inductive ConfigError where
  /-- It cannot be read. -/
  | unreadable (e : IoError)
  /-- The text is not YAML, or does not describe a configuration. -/
  | malformed
  | noRoutes
  | range (e : RangeError)
  | template (event : Text) (e : TemplateError)
  deriving DecidableEq, Repr

/-- The wording of a refused configuration. -/
def ConfigError.message : ConfigError → Text
  | .unreadable e => "Failed to read configuration: " ++ e.message
  | .malformed => "Failed to parse configuration"
  | .noRoutes => "Invalid configuration: no routes configured"
  | .range e => e.message
  | .template event e => "Invalid template for event '" ++ event ++ "': " ++ e.message

namespace Configuration

/-- What a configuration is without members. -/
def empty : Configuration := ⟨none, false, []⟩

/-- The member of a name, which must not be given twice. -/
def member (members : List (Text × Yaml.Node)) (name : String) : Yaml.Lookup (Option Yaml.Node) :=
  match members.filter fun m => decide (m.1 = name.toList) with
  | [] => return none
  | [(_, node)] => return some node
  | _ => Yaml.Lookup.nothing

/-- The route that a node describes.  Members that are not known are passed over. -/
def routeOf (d : Yaml.Document) (node : Yaml.Node) : Yaml.Lookup RouteSpec := do
  let members ← d.members node
  let event ← match ← member members "event" with
    | some node => d.text node
    | none => Yaml.Lookup.nothing
  let template ← match ← member members "template" with
    | some node => d.optionalText node
    | none => pure none
  return ⟨event, template⟩

/-- The names of the members of a configuration. -/
def memberNames : List Text := ["range", "utc", "routes"]

/-- The configuration that a node describes.  There must be no other members than the known. -/
def ofNode (d : Yaml.Document) (node : Yaml.Node) : Yaml.Lookup Configuration := do
  let members ← d.members node
  if !members.all fun m => memberNames.contains m.1 then Yaml.Lookup.nothing
  let range ← match ← member members "range" with
    | some node => d.optionalText node
    | none => pure none
  let utc ← match ← member members "utc" with
    | some node => d.truth node
    | none => pure false
  let routes ← match ← member members "routes" with
    | some node => (← d.items node).mapM (routeOf d)
    | none => pure []
  return ⟨range, utc, routes⟩

/-- The configuration that a YAML text describes; there has to be a route. -/
def read (t : Text) : Except ConfigError Configuration :=
  match Yaml.readDocument t with
  | none => .error .malformed
  | some none => .error .noRoutes
  | some (some d) =>
    match d.find? (ofNode d) with
    | none => .error .malformed
    | some c => if c.routes = [] then .error .noRoutes else .ok c

/-- The zone in which times are shown. -/
def zone (c : Configuration) : Zone := if c.utc then .utc else .system

/-- The window of a configuration at a given present time. -/
def window (c : Configuration) (now : Instant) : Except ConfigError Window :=
  match c.range with
  | some range => (Window.ofRange range now).mapError .range
  | none => .ok .unbounded

/-- The routes of specifications; the first fault is reported. -/
def compileRoutes (zone : Zone) : List RouteSpec → Except ConfigError (List Route)
  | [] => .ok []
  | spec :: rest => do
    let route ← (Route.compile zone spec.event spec.template).mapError (.template spec.event)
    return route :: (← compileRoutes zone rest)

/-- The router of a configuration.  A fault in the range is reported before those of routes. -/
def router (c : Configuration) (zone : Zone) (now : Instant) : Except ConfigError Router := do
  let window ← c.window now
  return Router.ofRoutes (← compileRoutes zone c.routes) window

end Configuration

end TraceText
