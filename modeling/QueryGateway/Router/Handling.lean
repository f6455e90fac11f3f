import QueryGateway.Request.Query
import QueryGateway.Response.Shape
import QueryGateway.Router.Basic

/-!
Handling requests.

A request is matched to a route, its caller is resolved if the route reads claims,
its parts become a context, the adapter makes an artifact of template and context
and executes it, and the rows are shaped.  Every step leaves its events, so what an
observer is told is part of the result.
-/

namespace QueryGateway.Router

/-- What came of asking for the claims of a caller. -/
structure Authentication where
  result : Except Failure (Option Json.Fields)
  events : List Event
  supply : Supply

/-- Asks for the claims of a caller, if the route reads claims. -/
def authenticate (router : Router) (route : Route) (request : Request) (supply : Supply) :
    Authentication :=
  if !route.usesAuth then { result := .ok none, events := [], supply }
  else
    match router.resolver with
    | none => { result := .error (.resolverMissing route.label), events := [], supply }
    | some resolve =>
      match resolve request supply with
      | (.error e, supply) => { result := .error e, events := [], supply }
      | (.ok none, supply) => { result := .error .authRequired, events := [.authRejected], supply }
      | (.ok (some claims), supply) =>
        { result := .ok (some claims), events := [.authResolved], supply }

/-- What a request offers to the expressions of a route. -/
def contextOf (route : Route) (params : Dictionary String) (request : Request)
    (auth : Option Json.Fields) : Context :=
  { path := params
    query := Request.parameters request.queryString route.arrayParams
    body := request.body.value
    auth }

/-- What came of running a query.  `executed` is what an adapter was given, with
its name. -/
structure Execution where
  result : Except Failure (List Row)
  executed : Option (String × Artifact)
  adapters : Adapters
  supply : Supply

/-- Runs the query of a route. -/
def execute (router : Router) (route : Route) (ctx : Context) (supply : Supply) : Execution :=
  let adapters := router.adapters
  match adapters.select route.adapter with
  | .error e => { result := .error (.selection e), executed := none, adapters, supply }
  | .ok (name, adapter) =>
    match adapter.interpolate router.delimiters ctx route.template supply with
    | .error e => { result := .error (.interpolation e), executed := none, adapters, supply }
    | .ok (artifact, supply) =>
      let (rows, adapter, supply) := adapter.execute artifact supply
      { result := rows.mapError .execution, executed := some (name, artifact)
        adapters := adapters.insert name adapter, supply }

/-- The response that rows make.  A route that returns a single item has none when
there is no item. -/
def respond (route : Route) (rows : List Row) : Except Failure Response :=
  let body := Response.shape route.fieldMap route.extraction rows
  if route.extraction.any (·.isSingleItem) && body.isNull then .error .notFound
  else .ok { status := route.status, body }

/-- The events at the end of a request. -/
def closing : Except Failure Response → List Event
  | .ok _ => [.queryExecuted, .requestComplete]
  | .error failure =>
    match failure.kind with
    | .notFound => [.resourceNotFound]
    | .query => [.queryFailed]
    | _ => [.requestFailed]

/-- What came of a request.  There is no result when no route matched.  The router
that comes back holds what its stores hold afterwards. -/
structure Handled where
  result : Option (Except Failure Response)
  events : List Event
  executed : Option (String × Artifact)
  router : Router
  supply : Supply

/-- Runs a request on the route that it matched. -/
def run (router : Router) (route : Route) (params : Dictionary String) (request : Request)
    (supply : Supply) : Handled :=
  let auth := router.authenticate route request supply
  match auth.result with
  | .error e =>
    { result := some (.error e), events := auth.events ++ closing (.error e), executed := none
      router, supply := auth.supply }
  | .ok claims =>
    let execution := router.execute route (contextOf route params request claims) auth.supply
    let result := execution.result.bind (respond route)
    { result := some result, events := auth.events ++ closing result
      executed := execution.executed
      router := { router with adapters := execution.adapters }
      supply := execution.supply }

/-- Handles a request. -/
def handle (router : Router) (request : Request) (supply : Supply) : Handled :=
  match Route.find? router.routes request.method (Request.pathOf request.target) with
  | none =>
    { result := none, events := [.requestUnmatched], executed := none, router, supply }
  | some (route, params) =>
    let handled := router.run route params request supply
    { handled with events := .requestMatched :: handled.events }

end QueryGateway.Router
