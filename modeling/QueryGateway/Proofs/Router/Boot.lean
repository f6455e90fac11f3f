import QueryGateway.Proofs.Adapter
import QueryGateway.Router.Handling

/-!
What a router that was made keeps.

Every route of such a router was compiled, has a resolver if it uses claims, and runs on an
adapter that takes its template.  Requests change documents alone, so this stays true however
many of them are handled (`Reachable.ready`).
-/

namespace QueryGateway

/-- Whether a route has all that it needs on a router. -/
structure Route.Ready (router : Router) (route : Route) : Prop where
  compiled : route.Compiled router.delimiters
  resolved : route.usesAuth → router.resolver.isSome
  runs : ∃ name adapter, router.adapters.select route.adapter = .ok (name, adapter) ∧
    adapter.validate route.template = .ok ()

/-- The expressions of a route that is ready can be read. -/
theorem Route.Ready.readable {router : Router} {route : Route} (h : route.Ready router) :
    Document.Readable router.delimiters route.template := by
  obtain ⟨exprs, hexprs, -⟩ := h.compiled
  intro s hs
  obtain ⟨es, hread, -⟩ := Route.mem_expressions hexprs hs
  exact ⟨es, hread⟩

namespace Router

/-- Whether all routes have what they need. -/
def Ready (router : Router) : Prop := ∀ route ∈ router.routes, route.Ready router

/-! ## Making a router -/

variable {d : Delimiters} {adapters : Adapters} {resolver : Option Access.Resolver}

theorem exists_prepared {definitions : List Route.Definition} {route : Route}
    (h : route ∈ (prepareAll d adapters resolver definitions).1) :
    ∃ definition ∈ definitions, prepare d adapters resolver definition = .ok route := by
  induction definitions with
  | nil => cases h
  | cons definition rest ih =>
    rw [prepareAll] at h
    cases hprepared : prepare d adapters resolver definition with
    | error e =>
      rw [hprepared] at h
      cases h
    | ok first =>
      rw [hprepared] at h
      rcases List.mem_cons.mp h with rfl | hrest
      · exact ⟨definition, List.mem_cons_self, hprepared⟩
      · obtain ⟨other, hother, hroute⟩ := ih hrest
        exact ⟨other, List.mem_cons_of_mem _ hother, hroute⟩

theorem ready_of_prepare {routes : List Route} {definition : Route.Definition} {route : Route}
    (h : prepare d adapters resolver definition = .ok route) :
    route.Ready { routes, adapters, resolver, delimiters := d } := by
  obtain ⟨compiled, hcompiled, h⟩ := exists_of_bind_eq_ok h
  obtain ⟨⟨⟩, hcheck, h⟩ := exists_of_bind_eq_ok h
  obtain rfl := Except.ok.inj h
  rw [check] at hcheck
  split at hcheck
  · cases hcheck
  · rename_i hresolver
    obtain ⟨⟨name, adapter⟩, hselected, hvalid⟩ := exists_of_bind_eq_ok hcheck
    refine ⟨Route.compiled_of_compile (eq_ok_of_mapError hcompiled), fun hauth => ?_,
      name, adapter, eq_ok_of_mapError hselected, eq_ok_of_mapError hvalid⟩
    rw [Option.isSome_iff_ne_none]
    exact fun hnone => hresolver ⟨hauth, Option.isNone_iff_eq_none.mpr hnone⟩

/-- A router is made with all that its routes need. -/
theorem ready_of_boot {definitions : List Route.Definition} {router : Router}
    (h : (boot d adapters resolver definitions).1 = .ok router) : router.Ready := by
  rw [boot] at h
  simp only at h
  split at h
  · cases h
  · obtain rfl := Except.ok.inj h
    intro route hroute
    obtain ⟨definition, -, hprepared⟩ := exists_prepared hroute
    exact ready_of_prepare hprepared

/-! ## Handling requests -/

/-- The adapters after a request: those before it, with the documents of one of them changed. -/
theorem adapters_execute (router : Router) (route : Route) (ctx : Context) (supply : Supply) :
    (router.execute route ctx supply).adapters = router.adapters ∨
      ∃ name adapter adapter', router.adapters.get? name = some adapter ∧
        adapter.SameKind adapter' ∧
        (router.execute route ctx supply).adapters = router.adapters.insert name adapter' := by
  rw [execute]
  cases hselected : router.adapters.select route.adapter with
  | error e => exact .inl rfl
  | ok found =>
    obtain ⟨name, adapter⟩ := found
    cases hmade : adapter.interpolate router.delimiters ctx route.template supply with
    | error e => simp only [hmade, true_or]
    | ok made =>
      simp only [hmade]
      exact .inr ⟨name, adapter, _, Adapters.get?_of_select hselected,
        adapter.sameKind_execute made.1 made.2, rfl⟩

/-- Whether one router is another one after changes to the engine of one adapter. -/
inductive Follows (router : Router) : Router → Prop
  | same : Follows router router
  | changed {name : String} {adapter adapter' : Adapter}
    (present : router.adapters.get? name = some adapter) (kind : adapter.SameKind adapter') :
    Follows router { router with adapters := router.adapters.insert name adapter' }

theorem follows_handle (router : Router) (request : Request) (supply : Supply) :
    router.Follows (router.handle request supply).router := by
  rw [handle]
  split
  · exact .same
  · rename_i route params hmatched
    show router.Follows (router.run route params request supply).router
    rw [run]
    simp only
    split
    · exact .same
    · rename_i claims hclaims
      rcases router.adapters_execute route (contextOf route params request claims)
        (router.authenticate route request supply).supply with
        hsame | ⟨name, adapter, adapter', hpresent, hkind, hchanged⟩
      · rw [hsame]
        exact .same
      · rw [hchanged]
        exact .changed hpresent hkind

theorem Follows.ready {router next : Router} (h : router.Follows next) (hready : router.Ready) :
    next.Ready := by
  cases h with
  | same => exact hready
  | changed present kind =>
    intro route hroute
    obtain ⟨compiled, resolved, name, adapter, hselected, hvalid⟩ := hready route hroute
    -- The route selects an engine of the same kind, which validates its template as before.
    obtain ⟨after, hafter, hsame⟩ := Adapters.select_insert present kind hselected
    exact ⟨compiled, resolved, name, after, hafter, (hsame.validate_eq _).symm.trans hvalid⟩

/-- The routers that requests can lead to.  In between, an engine can come to answer otherwise. -/
inductive Reachable (start : Router) : Router → Prop
  | start : Reachable start start
  | handle {router : Router} (before : Reachable start router) (request : Request)
    (supply : Supply) : Reachable start (router.handle request supply).router
  | changed {router next : Router} (before : Reachable start router)
    (follows : router.Follows next) : Reachable start next

/-- What a router was made with stays true after every number of requests and changes. -/
theorem Reachable.ready {start router : Router} (h : Reachable start router)
    (hstart : start.Ready) : router.Ready := by
  induction h with
  | start => exact hstart
  | @handle before _ request supply ih => exact (follows_handle before request supply).ready ih
  | changed before follows ih => exact follows.ready ih

/-! ## Callers -/

/-- What becomes of asking for the claims of a caller, where a route that uses them has a
resolver. -/
inductive Authenticates (router : Router) (route : Route) (request : Request) (supply : Supply) :
    Authentication → Prop
  | unused (unused : route.usesAuth = false) :
    Authenticates router route request supply { result := .ok none, events := [], supply }
  | failed {resolve : Access.Resolver} {failure : Failure} {supply' : Supply}
    (used : route.usesAuth) (asked : router.resolver = some resolve)
    (answer : resolve request supply = (.error failure, supply')) :
    Authenticates router route request supply
      { result := .error failure, events := [], supply := supply' }
  | unknown {resolve : Access.Resolver} {supply' : Supply}
    (used : route.usesAuth) (asked : router.resolver = some resolve)
    (answer : resolve request supply = (.ok none, supply')) :
    Authenticates router route request supply
      { result := .error .authRequired, events := [.authRejected], supply := supply' }
  | known {resolve : Access.Resolver} {claims : Json.Fields} {supply' : Supply}
    (used : route.usesAuth) (asked : router.resolver = some resolve)
    (answer : resolve request supply = (.ok (some claims), supply')) :
    Authenticates router route request supply
      { result := .ok (some claims), events := [.authResolved], supply := supply' }

theorem authenticate_of_unused {router : Router} {route : Route} (h : route.usesAuth = false)
    (request : Request) (supply : Supply) :
    router.authenticate route request supply = { result := .ok none, events := [], supply } := by
  rw [authenticate, h]
  rfl

/-- On a route that uses claims the resolver is missing, or it is asked. -/
theorem missing_or_authenticates (router : Router) (route : Route) (request : Request)
    (supply : Supply) :
    (route.usesAuth ∧ router.resolver = none ∧
      router.authenticate route request supply =
        { result := .error (.resolverMissing route.label), events := [], supply }) ∨
      Authenticates router route request supply (router.authenticate route request supply) := by
  cases hused : route.usesAuth with
  | false =>
    rw [authenticate_of_unused hused]
    exact .inr (.unused hused)
  | true =>
    rw [authenticate, hused]
    cases hresolve : router.resolver with
    | none => exact .inl ⟨rfl, rfl, rfl⟩
    | some resolve =>
      simp only [Bool.not_true, Bool.false_eq_true, if_false]
      split
      · rename_i failure supply' hanswer
        exact .inr (.failed hused hresolve hanswer)
      · rename_i supply' hanswer
        exact .inr (.unknown hused hresolve hanswer)
      · rename_i claims supply' hanswer
        exact .inr (.known hused hresolve hanswer)

theorem authenticates {router : Router} {route : Route} (h : route.Ready router)
    (request : Request) (supply : Supply) :
    Authenticates router route request supply (router.authenticate route request supply) := by
  rcases missing_or_authenticates router route request supply with ⟨hused, hmissing, -⟩ | hasked
  · have hresolved := h.resolved hused
    rw [hmissing] at hresolved
    cases hresolved
  · exact hasked

/-! ## Requests that reach an adapter -/

/-- The context that a request has the template of its route interpolated in, and the supply
from there, if it comes that far. -/
inductive Interpolates (router : Router) (request : Request) (supply : Supply) :
    Route → Context → Supply → Prop
  | intro {route : Route} {params : Dictionary String} {claims : Option Json.Fields}
    (matched : Route.find? router.routes request.method (Request.pathOf request.target) =
      some (route, params))
    (authenticated : (router.authenticate route request supply).result = .ok claims) :
    Interpolates router request supply route (contextOf route params request claims)
      (router.authenticate route request supply).supply

theorem mem_of_find? {routes : List Route} {method : String} {path : List Char} {route : Route}
    {params : Dictionary String} (h : Route.find? routes method path = some (route, params)) :
    route ∈ routes := by
  obtain ⟨found, hfound, haccepted⟩ := List.exists_of_findSome?_eq_some h
  obtain ⟨_, -, heq⟩ := Option.map_eq_some_iff.mp haccepted
  obtain ⟨rfl, -⟩ := Prod.mk.inj heq
  exact hfound

variable {router : Router} {request : Request} {supply supply' : Supply} {route : Route}
  {ctx : Context}

/-- A request that comes that far is answered by what the adapter does there. -/
theorem Interpolates.handle (h : Interpolates router request supply route ctx supply') :
    (router.handle request supply).result =
        some ((router.execute route ctx supply').result.bind (respond route)) ∧
      (router.handle request supply).executed = (router.execute route ctx supply').executed := by
  obtain ⟨hmatched, hauthenticated⟩ := h
  rw [Router.handle, hmatched]
  simp only [run, hauthenticated, and_self]

/-- A request that matched a route has failed to authenticate, or it comes that far. -/
theorem interpolates_or_error {params : Dictionary String}
    (h : Route.find? router.routes request.method (Request.pathOf request.target) =
      some (route, params)) (supply : Supply) :
    (∃ failure, (router.authenticate route request supply).result = .error failure ∧
        (router.handle request supply).result = some (.error failure)) ∨
      ∃ ctx supply', Interpolates router request supply route ctx supply' := by
  cases hauth : (router.authenticate route request supply).result with
  | error failure =>
    refine .inl ⟨failure, rfl, ?_⟩
    rw [Router.handle, h]
    simp only [run, hauth]
  | ok claims => exact .inr ⟨_, _, .intro h hauth⟩

/-- Nothing is executed but what the adapter made of the template in that context. -/
theorem exists_interpolates_of_executed {params : Dictionary String} {name name' : String}
    {adapter : Adapter} {artifact : Artifact}
    (hmatched : Route.find? router.routes request.method (Request.pathOf request.target) =
      some (route, params))
    (hselected : router.adapters.select route.adapter = .ok (name, adapter))
    (h : (router.handle request supply).executed = some (name', artifact)) :
    name' = name ∧ ∃ ctx supply' after, Interpolates router request supply route ctx supply' ∧
      adapter.interpolate router.delimiters ctx route.template supply' = .ok (artifact, after) := by
  rcases interpolates_or_error hmatched supply with
    ⟨failure, hauth, -⟩ | ⟨ctx, supply', hinterpolates⟩
  · rw [Router.handle, hmatched] at h
    simp only [run, hauth] at h
    cases h
  · rw [hinterpolates.handle.2, execute, hselected] at h
    cases hmade : adapter.interpolate router.delimiters ctx route.template supply' with
    | error e =>
      simp only [hmade] at h
      cases h
    | ok made =>
      simp only [hmade] at h
      obtain ⟨rfl, rfl⟩ := Prod.mk.inj (Option.some.inj h)
      exact ⟨rfl, ctx, supply', made.2, hinterpolates, hmade⟩

end Router
end QueryGateway
