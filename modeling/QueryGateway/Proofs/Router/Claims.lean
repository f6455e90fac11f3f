import QueryGateway.Proofs.Router.Boot

/-!
Where the claims in a context come from.

A template that reads a claim is interpolated only with the claims that the resolver returned
for this very request.  A route that does not use claims never asks the resolver, and is blind
to the headers of a request (`claims_from_resolver`).
-/

namespace QueryGateway

open Document (Agree)

/-- A route that is ready uses claims if its adapter evaluates an expression that reads one. -/
theorem Route.Ready.usesAuth_of_reads {router : Router} {route : Route} (h : route.Ready router)
    {adapter : Adapter} {e : Expr}
    (hevaluates : adapter.Evaluates router.delimiters route.template e) (hreads : e.Reads .auth) :
    route.usesAuth := by
  obtain ⟨exprs, hexprs, huses⟩ := h.compiled
  obtain ⟨s, hs, es, hread, he⟩ := hevaluates.exists_string
  obtain ⟨es', hread', hsubset⟩ := Route.mem_expressions hexprs hs
  obtain rfl := Except.ok.inj (hread.symm.trans hread')
  rw [huses]
  exact Expr.anyReadsPropertyOf_of_mem (hsubset he) hreads.readsPropertyOf

namespace Router

variable {router : Router} {request : Request} {supply supply' : Supply} {route : Route}
  {ctx : Context}

theorem Interpolates.auth_of_unused (h : Interpolates router request supply route ctx supply')
    (hunused : route.usesAuth = false) : ctx.auth = none := by
  obtain ⟨hmatched, hauthenticated⟩ := h
  rw [authenticate_of_unused hunused] at hauthenticated
  exact (Except.ok.inj hauthenticated).symm

/-- A route that uses claims is interpolated with those that the resolver returned. -/
theorem Interpolates.auth_of_used (h : Interpolates router request supply route ctx supply')
    (hready : route.Ready router) (hused : route.usesAuth) :
    ∃ resolve claims, router.resolver = some resolve ∧
      resolve request supply = (.ok (some claims), supply') ∧ ctx.auth = some claims := by
  obtain ⟨hmatched, hauthenticated⟩ := h
  have hcases := authenticates hready request supply
  cases hcase : router.authenticate route request supply
  rw [hcase] at hcases hauthenticated
  obtain rfl := hauthenticated
  cases hcases with
  | unused unused =>
    rw [unused] at hused
    cases hused
  | known used asked answer => exact ⟨_, _, asked, answer, rfl⟩

/-- Requests that differ in headers alone are handled alike where claims are not used. -/
theorem handle_headers {params : Dictionary String}
    (hmatched : Route.find? router.routes request.method (Request.pathOf request.target) =
      some (route, params))
    (hunused : route.usesAuth = false) (headers : Headers) (supply : Supply) :
    router.handle { request with headers } supply = router.handle request supply := by
  rw [handle, handle, hmatched]
  simp only [run, authenticate_of_unused hunused]
  rfl

/-- On a router that was made, for every request that matches a route: an artifact depends on
the context through the expressions that the adapter evaluates; what is executed was made of the
template in the context of the request; if one of the expressions reads a claim, the claims in
that context are those that the resolver returned for the request; and if the route uses no
claims, the resolver is not asked, there are none in the context, and headers change nothing. -/
theorem claims_from_resolver {d : Delimiters} {adapters : Adapters}
    {resolver : Option Access.Resolver} {definitions : List Route.Definition}
    {start router : Router}
    (hboot : (boot d adapters resolver definitions).1 = .ok start) (hreach : Reachable start router)
    {request : Request} {supply : Supply} {route : Route} {params : Dictionary String}
    (hmatched : Route.find? router.routes request.method (Request.pathOf request.target) =
      some (route, params)) :
    ∃ name adapter, router.adapters.select route.adapter = .ok (name, adapter) ∧
      (∀ ctx ctx', Agree ctx ctx' (adapter.Evaluates router.delimiters route.template) →
        ∀ supply, adapter.interpolate router.delimiters ctx route.template supply =
          adapter.interpolate router.delimiters ctx' route.template supply) ∧
      (∀ name' artifact, (router.handle request supply).executed = some (name', artifact) →
        name' = name ∧ ∃ ctx supply' after,
          Interpolates router request supply route ctx supply' ∧
          adapter.interpolate router.delimiters ctx route.template supply' =
            .ok (artifact, after)) ∧
      ((∃ e, adapter.Evaluates router.delimiters route.template e ∧ e.Reads .auth) →
        ∀ ctx supply', Interpolates router request supply route ctx supply' →
          ∃ resolve claims, router.resolver = some resolve ∧
            resolve request supply = (.ok (some claims), supply') ∧ ctx.auth = some claims) ∧
      (route.usesAuth = false →
        (∀ resolver, authenticate { router with resolver } route request supply =
          { result := .ok none, events := [], supply }) ∧
        (∀ ctx supply', Interpolates router request supply route ctx supply' → ctx.auth = none) ∧
        ∀ headers,
          router.handle { request with headers } supply = router.handle request supply) := by
  have hready := hreach.ready (ready_of_boot hboot) route (mem_of_find? hmatched)
  obtain ⟨name, adapter, hselected, -⟩ := hready.runs
  refine ⟨name, adapter, hselected, fun ctx ctx' => Adapter.interpolate_congr,
    fun name' artifact => exists_interpolates_of_executed hmatched hselected, ?_,
    fun hunused => ?_⟩
  · rintro ⟨e, hevaluates, hreads⟩ ctx supply' hinterpolates
    exact hinterpolates.auth_of_used hready (hready.usesAuth_of_reads hevaluates hreads)
  · exact ⟨fun resolver => authenticate_of_unused hunused request supply,
      fun ctx supply' hinterpolates => hinterpolates.auth_of_unused hunused,
      fun headers => handle_headers hmatched hunused headers supply⟩

/-- A filter that reads a claim gets the one that the resolver returned. -/
theorem claims_from_resolver_filter :
    let definition : Route.Definition := {
      method := "GET", path := "/users"
      query := .obj [("collection", .str "users"), ("operation", .str "find"),
        ("filter", .obj [("tenant", .str "$\x7b\x7b auth.tenant \x7d\x7d")])] }
    let adapters : Adapters := Dictionary.empty.insert "docs" (.document .empty)
    let resolve : Access.Resolver := .fixed (some [("tenant", .str "t1")])
    let request : Request := { method := "GET", target := "/users" }
    let supply : Supply := ⟨fun _ => ⟨0⟩, fun _ => "a", 0⟩
    ∃ start route params, (boot .standard adapters (some resolve) [definition]).1 = .ok start ∧
      Route.find? start.routes request.method (Request.pathOf request.target) =
        some (route, params) ∧
      route.usesAuth ∧ (start.handle request supply).executed.isSome ∧
      ∃ name adapter, start.adapters.select route.adapter = .ok (name, adapter) ∧
        (∀ ctx ctx', Agree ctx ctx' (adapter.Evaluates start.delimiters route.template) →
          ∀ supply, adapter.interpolate start.delimiters ctx route.template supply =
            adapter.interpolate start.delimiters ctx' route.template supply) ∧
        (∀ name' artifact, (start.handle request supply).executed = some (name', artifact) →
          name' = name ∧ ∃ ctx supply' after,
            Interpolates start request supply route ctx supply' ∧
            adapter.interpolate start.delimiters ctx route.template supply' =
              .ok (artifact, after)) ∧
        ((∃ e, adapter.Evaluates start.delimiters route.template e ∧ e.Reads .auth) →
          ∀ ctx supply', Interpolates start request supply route ctx supply' →
            ∃ resolve claims, start.resolver = some resolve ∧
              resolve request supply = (.ok (some claims), supply') ∧ ctx.auth = some claims) ∧
        (route.usesAuth = false →
          (∀ resolver, authenticate { start with resolver } route request supply =
            { result := .ok none, events := [], supply }) ∧
          (∀ ctx supply', Interpolates start request supply route ctx supply' →
            ctx.auth = none) ∧
          ∀ headers,
            start.handle { request with headers } supply = start.handle request supply) := by
  intro definition adapters resolve request supply
  have hrun : ((boot .standard adapters (some resolve) [definition]).1.toOption.any fun start =>
      (Route.find? start.routes request.method (Request.pathOf request.target)).any fun found =>
        found.1.usesAuth && (start.handle request supply).executed.isSome) = true := by
    decide +kernel +revert
  cases hstart : (boot .standard adapters (some resolve) [definition]).1 with
  | error e =>
    rw [hstart] at hrun
    cases hrun
  | ok start =>
    rw [hstart, Except.toOption, Option.any_some] at hrun
    obtain ⟨⟨route, params⟩, hmatched, hdone⟩ := (Option.any_eq_true _ _).mp hrun
    obtain ⟨hused, hexecuted⟩ := Bool.and_eq_true_iff.mp hdone
    exact ⟨start, route, params, rfl, hmatched, hused, hexecuted,
      claims_from_resolver hstart .start hmatched⟩

end Router
end QueryGateway
