import QueryGateway.Access.Resolver
import QueryGateway.Event
import QueryGateway.Route.Compilation

/-!
Routers: routes over adapters.

Every route is compiled when a router is made, and checked against the adapter it
will run on.  A router that was made never fails for a reason that was known
beforehand.
-/

namespace QueryGateway

/-- Routes, in the order in which they are tried, with all that they need to run. -/
structure Router where
  routes : List Route
  adapters : Adapters
  resolver : Option Access.Resolver
  delimiters : Delimiters

/-- Why no router was made. -/
inductive BootError where
  | compilation (error : Route.CompilationError)
  | resolverMissing (label : String)
  | selection (label : String) (error : SelectionError)
  | template (label : String) (error : TemplateError)
deriving Repr

namespace BootError

/-- The kind of failure. -/
def kind : BootError → FailureKind
  | .compilation error => error.kind
  | .resolverMissing _ => .authResolverMissing
  | .selection _ _ => .validation
  | .template _ _ => .validation

/-- The reason, without the headline of the kind. -/
def reason : BootError → String
  | .compilation error => error.message
  | .resolverMissing label => (Failure.resolverMissing label).reason
  | .selection label error => s!"{label}: {(Failure.selection error).message}"
  | .template label error => s!"{label}: {error.message}"

def message (e : BootError) : String := e.kind.describe e.reason

end BootError

namespace Router

/-- Checks that a route can run: it has a resolver for the claims it reads, and an
adapter that takes its template. -/
def check (adapters : Adapters) (resolver : Option Access.Resolver) (route : Route) :
    Except BootError Unit := do
  if route.usesAuth ∧ resolver.isNone then throw (.resolverMissing route.label)
  let (_, adapter) ← (adapters.select route.adapter).mapError (.selection route.label)
  (adapter.validate route.template).mapError (.template route.label)

/-- Compiles and checks a definition. -/
def prepare (d : Delimiters) (adapters : Adapters) (resolver : Option Access.Resolver)
    (definition : Route.Definition) : Except BootError Route := do
  let route ← (Route.compile d definition).mapError .compilation
  check adapters resolver route
  return route

/-- The routes before the first definition that fails, and its error if there is one. -/
def prepareAll (d : Delimiters) (adapters : Adapters) (resolver : Option Access.Resolver) :
    List Route.Definition → List Route × Option BootError
  | [] => ([], none)
  | definition :: rest =>
    match prepare d adapters resolver definition with
    | .error e => ([], some e)
    | .ok route =>
      let (routes, error) := prepareAll d adapters resolver rest
      (route :: routes, error)

/-- Makes a router.  There is an event for each route that passed. -/
def boot (d : Delimiters) (adapters : Adapters) (resolver : Option Access.Resolver)
    (definitions : List Route.Definition) : Except BootError Router × List Event :=
  let (routes, error) := prepareAll d adapters resolver definitions
  let events := routes.map fun _ => .routeCompiled
  match error with
  | some e => (.error e, events)
  | none => (.ok { routes, adapters, resolver, delimiters := d }, events)

/-- The name of the adapter that a route runs on. -/
def adapterName? (router : Router) (route : Route) : Option String :=
  match router.adapters.select route.adapter with
  | .ok (name, _) => some name
  | .error _ => none

end Router
end QueryGateway
