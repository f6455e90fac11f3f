import QueryGateway.Proofs.Router.Boot

/-!
How requests fail.

All that can be wrong with the routes of a router is found when it is made.  What is left to a
request is that its caller is refused, that an engine fails, that nothing is found, or that a
section of a document query resolves to a value of the wrong type (`fails_after_boot`).
-/

namespace QueryGateway.Router

open Document (Misfit wrongType)

/-- The failures that a request can still meet, apart from those of the resolver itself. -/
inductive Fails (router : Router) (request : Request) (supply : Supply) (route : Route) :
    Failure → Prop
  | authRequired {resolve : Access.Resolver} {supply' : Supply} (used : route.usesAuth)
    (asked : router.resolver = some resolve)
    (answer : resolve request supply = (.ok none, supply')) :
    Fails router request supply route .authRequired
  | query {name : String} {adapter : Adapter} {artifact : Artifact} {supply' : Supply}
    {error : ExecutionError} (selected : router.adapters.select route.adapter = .ok (name, adapter))
    (executed : (router.handle request supply).executed = some (name, artifact))
    (answer : (adapter.execute artifact supply').1 = .error error)
    (refused : Adapter.Refused error) :
    Fails router request supply route (.execution error)
  | notFound {pointer : Response.Pointer} (extraction : route.extraction = some pointer)
    (single : pointer.isSingleItem) : Fails router request supply route .notFound
  | misfit {name : String} {driver : DocumentDriver} {ctx : Context} {supply' : Supply}
    {operation : Document.Operation} {part : Document.Section} {got : Json}
    (selected : router.adapters.select route.adapter = .ok (name, .documentOn driver))
    (reached : Interpolates router request supply route ctx supply')
    (misfit : Misfit router.delimiters ctx route.template operation part got) :
    Fails router request supply route
      (.interpolation (.template (.document (wrongType operation part got))))

/-- Whether a failure is one that making a router rules out. -/
def RuledOut (failure : Failure) : Prop :=
  failure.kind = .unknownFunction ∨ failure.kind = .authResolverMissing ∨
    (∃ e, failure = .selection e) ∨ failure = .execution .notSql ∨ failure = .execution .notDocument

theorem Fails.not_ruledOut {router : Router} {request : Request} {supply : Supply} {route : Route}
    {failure : Failure} (h : Fails router request supply route failure) : ¬RuledOut failure := by
  cases h with
  | authRequired used asked answer => rintro (h | h | ⟨e, h⟩ | h | h) <;> cases h
  | query selected executed answer refused =>
    cases refused <;> rintro (h | h | ⟨e, h⟩ | h | h) <;> cases h
  | notFound extraction single => rintro (h | h | ⟨e, h⟩ | h | h) <;> cases h
  | misfit selected reached misfit => rintro (h | h | ⟨e, h⟩ | h | h) <;> cases h

theorem respond_eq_error {route : Route} {rows : List Row} {failure : Failure}
    (h : respond route rows = .error failure) :
    failure = .notFound ∧ ∃ pointer, route.extraction = some pointer ∧ pointer.isSingleItem := by
  rw [respond] at h
  split at h
  · rename_i hnull
    obtain rfl := Except.error.inj h
    refine ⟨rfl, ?_⟩
    cases hextraction : route.extraction with
    | none =>
      rw [hextraction] at hnull
      cases hnull
    | some pointer =>
      rw [hextraction] at hnull
      exact ⟨pointer, rfl, (Bool.and_eq_true_iff.mp hnull).1⟩
  · cases h

/-- How a request fails that comes as far as its adapter. -/
theorem Interpolates.fails {router : Router} {request : Request} {supply supply' : Supply}
    {route : Route} {ctx : Context} {failure : Failure} (hready : route.Ready router)
    (h : Interpolates router request supply route ctx supply')
    (hfail : (router.handle request supply).result = some (.error failure)) :
    Fails router request supply route failure := by
  obtain ⟨name, adapter, hselected, hvalid⟩ := hready.runs
  obtain ⟨hresult, hexecuted⟩ := h.handle
  rw [hresult] at hfail
  have hfail := Option.some.inj hfail
  cases hmade : adapter.interpolate router.delimiters ctx route.template supply' with
  | error e =>
    obtain ⟨driver, operation, part, got, rfl, hmisfit, rfl⟩ :=
      Adapter.misfit_of_interpolate hvalid hready.readable hmade
    rw [execute, hselected] at hfail
    simp only [hmade] at hfail
    obtain rfl := Except.error.inj hfail
    exact .misfit hselected h hmisfit
  | ok made =>
    obtain ⟨artifact, after⟩ := made
    rw [execute, hselected] at hfail hexecuted
    simp only [hmade] at hfail hexecuted
    cases hrows : (adapter.execute artifact after).1 with
    | error error =>
      rw [hrows] at hfail
      obtain rfl := Except.error.inj hfail
      exact .query hselected hexecuted hrows ((Adapter.fits_of_interpolate hmade).refused hrows)
    | ok rows =>
      rw [hrows] at hfail
      obtain ⟨rfl, pointer, hpointer, hsingle⟩ := respond_eq_error hfail
      exact .notFound hpointer hsingle

/-- On a router that was made, however many requests it has handled, a request that matched a
route fails as the resolver says, or in one of the ways that making the router does not rule out. -/
theorem fails_after_boot {d : Delimiters} {adapters : Adapters} {resolver : Option Access.Resolver}
    {definitions : List Route.Definition} {start router : Router}
    (hboot : (boot d adapters resolver definitions).1 = .ok start) (hreach : Reachable start router)
    {request : Request} {supply : Supply} {failure : Failure}
    (hfail : (router.handle request supply).result = some (.error failure)) :
    ∃ route params,
      Route.find? router.routes request.method (Request.pathOf request.target) =
        some (route, params) ∧
      ((∃ resolve supply', route.usesAuth ∧ router.resolver = some resolve ∧
          resolve request supply = (.error failure, supply')) ∨
        Fails router request supply route failure ∧ ¬RuledOut failure) := by
  cases hfound : Route.find? router.routes request.method (Request.pathOf request.target) with
  | none =>
    rw [handle, hfound] at hfail
    cases hfail
  | some found =>
    obtain ⟨route, params⟩ := found
    refine ⟨route, params, rfl, ?_⟩
    have hready := hreach.ready (ready_of_boot hboot) route (mem_of_find? hfound)
    -- The request stops at its caller, or the adapter is asked.
    rcases interpolates_or_error hfound supply with
      ⟨failure', hauth, hresult⟩ | ⟨ctx, supply', hinterpolates⟩
    · obtain rfl := Except.error.inj (Option.some.inj (hfail.symm.trans hresult))
      have hcases := authenticates hready request supply
      cases hcase : router.authenticate route request supply
      rw [hcase] at hcases hauth
      obtain rfl := hauth
      cases hcases with
      | failed used asked answer => exact .inl ⟨_, _, used, asked, answer⟩
      | unknown used asked answer =>
        have hfails : Fails router request supply route .authRequired :=
          .authRequired used asked answer
        exact .inr ⟨hfails, hfails.not_ruledOut⟩
    · have hfails := hinterpolates.fails hready hfail
      exact .inr ⟨hfails, hfails.not_ruledOut⟩

/-- A filter that a request sends as a string fails on a router that was made. -/
theorem fails_after_boot_filter :
    let definition : Route.Definition := {
      method := "GET", path := "/users"
      query := .obj [("collection", .str "users"), ("operation", .str "find"),
        ("filter", .str "$\x7b\x7b body.filter \x7d\x7d")] }
    let adapters : Adapters := Dictionary.empty.insert "docs" (.document .empty)
    let request : Request := {
      method := "GET", target := "/users", body := .parsed (.obj [("filter", .str "x")]) }
    let supply : Supply := ⟨fun _ => ⟨0⟩, fun _ => "a", 0⟩
    ∃ start failure, (boot .standard adapters none [definition]).1 = .ok start ∧
      (start.handle request supply).result = some (.error failure) ∧
      failure.kind = .validation ∧
      ∃ route params,
        Route.find? start.routes request.method (Request.pathOf request.target) =
          some (route, params) ∧
        ((∃ resolve supply', route.usesAuth ∧ start.resolver = some resolve ∧
            resolve request supply = (.error failure, supply')) ∨
          Fails start request supply route failure ∧ ¬RuledOut failure) := by
  intro definition adapters request supply
  have hrun : ((boot .standard adapters none [definition]).1.toOption.any fun start =>
      match (start.handle request supply).result with
      | some (.error failure) => decide (failure.kind = .validation)
      | some (.ok _) | none => false) = true := by decide +kernel +revert
  cases hstart : (boot .standard adapters none [definition]).1 with
  | error e =>
    rw [hstart] at hrun
    cases hrun
  | ok start =>
    rw [hstart, Except.toOption, Option.any_some] at hrun
    split at hrun
    · rename_i failure hfailure
      exact ⟨start, failure, rfl, hfailure, of_decide_eq_true hrun,
        fails_after_boot hstart .start hfailure⟩
    · cases hrun
    · cases hrun

end QueryGateway.Router
