import Mathlib.Data.List.Forall2
import QueryGateway.Proofs.Router.Absence
import QueryGateway.Proofs.Router.Course
import QueryGateway.Service.Cors

/-!
What a client is told when an engine fails.

What an engine says of its failure is kept as the detail of the error.  The answer is made of the
artifact alone, so it is the same whatever the engine says (`answerTo_of_tells`).  A request goes
the same way on routers that differ in their engines, up to the engine itself
(`Alike.settles_or_prepares`).  Thus no message tells one failing engine from another, whether it
takes statements or commands, and whether it is a store in memory or an engine outside
(`answer_of_refused`).
-/

namespace QueryGateway

namespace Adapters

variable {a b : Adapters}

/-- Whether adapters have the same names and differ in their engines alone. -/
def Alike (a b : Adapters) : Prop :=
  List.Forall₂ (fun x y => x.1 = y.1 ∧ x.2.SameKind y.2) a.entries b.entries

theorem Alike.keys_eq (h : a.Alike b) : a.keys = b.keys := by
  rw [Alike] at h
  rw [Dictionary.keys, Dictionary.keys]
  generalize a.entries = left, b.entries = right at h ⊢
  induction h with
  | nil => rfl
  | cons hentry _ ih => rw [List.map_cons, List.map_cons, ih, hentry.1]

theorem Alike.get? (h : a.Alike b) (name : String) :
    a.get? name = none ∧ b.get? name = none ∨
      ∃ adapter adapter', a.get? name = some adapter ∧ b.get? name = some adapter' ∧
        adapter.SameKind adapter' := by
  rw [Alike] at h
  rw [Dictionary.get?, Dictionary.get?]
  generalize a.entries = left, b.entries = right at h ⊢
  induction h with
  | nil => exact .inl ⟨rfl, rfl⟩
  | @cons x y _ _ hentry _ ih =>
    rw [List.lookup_cons, List.lookup_cons, ← hentry.1]
    cases name == x.1 with
    | true => exact .inr ⟨x.2, y.2, rfl, rfl, hentry.2⟩
    | false => exact ih

/-- A route selects the same name, and engines of one kind. -/
theorem Alike.select (h : a.Alike b) (requested : Option String) :
    (∃ e, a.select requested = .error e ∧ b.select requested = .error e) ∨
      ∃ name adapter adapter', a.select requested = .ok (name, adapter) ∧
        b.select requested = .ok (name, adapter') ∧ adapter.SameKind adapter' := by
  cases requested with
  | some name =>
    simp only [Adapters.select]
    rcases h.get? name with ⟨ha, hb⟩ | ⟨adapter, adapter', ha, hb, hkind⟩
    · rw [ha, hb, h.keys_eq]
      exact .inl ⟨_, rfl, rfl⟩
    · rw [ha, hb]
      exact .inr ⟨name, adapter, adapter', rfl, rfl, hkind⟩
  | none =>
    rw [Alike] at h
    simp only [Adapters.select]
    generalize a.entries = left, b.entries = right at h ⊢
    cases h with
    | nil => exact .inl ⟨_, rfl, rfl⟩
    | @cons x y _ _ hentry hrest =>
      obtain ⟨name, adapter⟩ := x
      obtain ⟨name', adapter'⟩ := y
      obtain ⟨rfl, hkind⟩ := hentry
      cases hrest with
      | nil => exact .inr ⟨name, adapter, adapter', rfl, rfl, hkind⟩
      | cons _ hmore =>
        refine .inl ⟨_, rfl, ?_⟩
        simp only [List.length_cons, hmore.length_eq]

end Adapters

theorem Failure.exists_execution {failure : Failure} (h : failure.kind = .query) :
    ∃ error, failure = .execution error := by
  cases failure with
  | execution error => exact ⟨error, rfl⟩
  | interpolation error =>
    cases error with
    | template error => cases h
    | expression error => cases error <;> cases h
  | _ => cases h

namespace Router

/-! ## Routers on other engines -/

/-- Whether two routers differ in their engines alone. -/
structure Alike (a b : Router) : Prop where
  routes : a.routes = b.routes
  adapters : a.adapters.Alike b.adapters
  resolver : a.resolver = b.resolver
  delimiters : a.delimiters = b.delimiters

section Boot

variable {d : Delimiters} {adapters adapters' : Adapters} {resolver : Option Access.Resolver}

theorem check_alike (h : adapters.Alike adapters') (route : Route) :
    check adapters resolver route = check adapters' resolver route := by
  rw [check, check]
  rcases h.select route.adapter with ⟨e, ha, hb⟩ | ⟨name, adapter, adapter', ha, hb, hkind⟩
  · rw [ha, hb]
  · rw [ha, hb]
    split
    · rfl
    · show (adapter.validate _).mapError _ = (adapter'.validate _).mapError _
      rw [hkind.validate_eq]

theorem prepareAll_alike (h : adapters.Alike adapters') (definitions : List Route.Definition) :
    prepareAll d adapters resolver definitions = prepareAll d adapters' resolver definitions := by
  have hprepare (definition : Route.Definition) :
      prepare d adapters resolver definition = prepare d adapters' resolver definition := by
    simp only [prepare, check_alike h]
  induction definitions with
  | nil => rfl
  | cons definition rest ih => rw [prepareAll, prepareAll, hprepare, ih]

/-- The same definitions make a router on other engines. -/
theorem alike_of_boot (h : adapters.Alike adapters') {definitions : List Route.Definition}
    {router : Router} (hboot : (boot d adapters resolver definitions).1 = .ok router) :
    ∃ other, (boot d adapters' resolver definitions).1 = .ok other ∧ router.Alike other := by
  simp only [boot, ← prepareAll_alike h] at hboot ⊢
  cases hprepared : (prepareAll d adapters resolver definitions).2 with
  | some e =>
    rw [hprepared] at hboot
    cases hboot
  | none =>
    rw [hprepared] at hboot
    obtain rfl := Except.ok.inj hboot
    exact ⟨_, rfl, rfl, h, rfl, rfl⟩

end Boot

variable {router other : Router} {request : Request} {supply after : Supply} {route : Route}
  {name : String} {adapter : Adapter} {artifact : Artifact}

theorem Alike.authenticate_eq (h : router.Alike other) (route : Route) (request : Request)
    (supply : Supply) :
    router.authenticate route request supply = other.authenticate route request supply := by
  rw [authenticate, authenticate, h.resolver]

theorem Prepares.handle (h : Prepares router request supply route name adapter artifact after) :
    (router.handle request supply).result =
        some (((adapter.execute artifact after).1.mapError .execution).bind (respond route)) ∧
      (router.handle request supply).executed = some (name, artifact) := by
  obtain ⟨reached, selected, made⟩ := h
  rw [reached.handle.1, reached.handle.2, execute, selected]
  simp only [made, and_self]

/-- A route fails before any engine is asked, or it makes the same artifact. -/
theorem Alike.fails_or_interpolates (h : router.Alike other) (route : Route) (ctx : Context)
    (supply : Supply) :
    ((router.execute route ctx supply).executed = none ∧
        (other.execute route ctx supply).executed = none ∧
        (router.execute route ctx supply).result = (other.execute route ctx supply).result) ∨
      ∃ name adapter adapter' made,
        router.adapters.select route.adapter = .ok (name, adapter) ∧
        other.adapters.select route.adapter = .ok (name, adapter') ∧
        adapter.interpolate router.delimiters ctx route.template supply = .ok made ∧
        adapter'.interpolate other.delimiters ctx route.template supply = .ok made := by
  rcases h.adapters.select route.adapter with
    ⟨e, hselected, hselected'⟩ | ⟨name, adapter, adapter', hselected, hselected', hkind⟩
  · simp only [execute, hselected, hselected']
    exact .inl ⟨trivial, trivial, trivial⟩
  · have hsame : adapter.interpolate router.delimiters ctx route.template supply =
        adapter'.interpolate other.delimiters ctx route.template supply := by
      rw [hkind.interpolate_eq, h.delimiters]
    cases hmade : adapter'.interpolate other.delimiters ctx route.template supply with
    | error e =>
      simp only [execute, hselected, hselected', hsame, hmade]
      exact .inl ⟨trivial, trivial, trivial⟩
    | ok made =>
      exact .inr ⟨name, adapter, adapter', made, hselected, hselected', hsame.trans hmade, hmade⟩

/-- On routers that differ in their engines alone, a request settles before any engine is asked, or
it comes to the same artifact. -/
theorem Alike.settles_or_prepares (h : router.Alike other) (request : Request) (supply : Supply) :
    ((router.handle request supply).executed = none ∧
        (other.handle request supply).executed = none ∧
        (router.handle request supply).result = (other.handle request supply).result) ∨
      ∃ route name adapter adapter' artifact after,
        Prepares router request supply route name adapter artifact after ∧
        Prepares other request supply route name adapter' artifact after := by
  cases hmatched : Route.find? router.routes request.method (Request.pathOf request.target) with
  | none =>
    have hmatched' := h.routes ▸ hmatched
    rw [Router.handle, Router.handle, hmatched, hmatched']
    exact .inl ⟨rfl, rfl, rfl⟩
  | some found =>
    obtain ⟨route, params⟩ := found
    have hmatched' := h.routes ▸ hmatched
    have hcaller := h.authenticate_eq route request supply
    cases hauth : (router.authenticate route request supply).result with
    | error failure =>
      rw [Router.handle, Router.handle, hmatched, hmatched']
      simp only [run, ← hcaller, hauth]
      exact .inl ⟨trivial, trivial, trivial⟩
    | ok claims =>
      have hreached : Interpolates router request supply route _ _ := .intro hmatched hauth
      have hreached' : Interpolates other request supply route _ _ :=
        .intro hmatched' (hcaller ▸ hauth)
      rw [← hcaller] at hreached'
      rw [hreached.handle.1, hreached.handle.2, hreached'.handle.1, hreached'.handle.2]
      rcases h.fails_or_interpolates route (contextOf route params request claims)
        (router.authenticate route request supply).supply with
        ⟨hnone, hnone', hsame⟩ | ⟨name, adapter, adapter', made, hsel, hsel', hmade, hmade'⟩
      · exact .inl ⟨hnone, hnone', by rw [hsame]⟩
      · exact .inr ⟨route, name, adapter, adapter', made.1, made.2, .intro hreached hsel hmade,
          .intro hreached' hsel' hmade'⟩

/-- Whether the engine that a request comes to, if any, refuses what it is given. -/
def Refused (router : Router) (request : Request) (supply : Supply) : Prop :=
  (router.handle request supply).executed ≠ none →
    ∃ error, (router.handle request supply).result = some (.error (.execution error))

/-- A request whose query fails has had its artifact refused. -/
theorem refused_of_failureKind?
    (h : (router.handle request supply).result.bind failureKind? = some .query) :
    router.Refused request supply := by
  intro _
  obtain ⟨result, hresult, hkind⟩ := Option.bind_eq_some_iff.mp h
  cases result with
  | ok response => cases hkind
  | error failure =>
    obtain ⟨error, rfl⟩ := Failure.exists_execution (Option.some.inj hkind)
    exact ⟨error, hresult⟩

theorem Prepares.tells (h : Prepares router request supply route name adapter artifact after)
    (hrefused : router.Refused request supply) :
    ∃ text error, Adapter.Tells artifact text error ∧
      (router.handle request supply).result = some (.error (.execution error)) := by
  obtain ⟨hresult, hexecuted⟩ := h.handle
  obtain ⟨error, herror⟩ := hrefused (by rw [hexecuted]; exact Option.some_ne_none _)
  rw [hresult] at herror
  have hfailed := Option.some.inj herror
  obtain ⟨-, -, made⟩ := h
  cases hanswer : (adapter.execute artifact after).1 with
  | error e =>
    rw [hanswer] at hfailed
    obtain rfl : e = error := Failure.execution.inj (Except.error.inj hfailed)
    obtain ⟨text, htells⟩ := (Adapter.fits_of_interpolate made).tells hanswer
    exact ⟨text, e, htells, hresult.trans (congrArg some (hanswer ▸ rfl))⟩
  | ok rows =>
    rw [hanswer] at hfailed
    have hresponse : respond route rows = .error (.execution error) := hfailed
    rw [respond] at hresponse
    split at hresponse <;> cases hresponse

end Router

/-! ## Answers -/

namespace Service

open Adapter (Tells)

/-- The answer to a message, from the result of the request in it. -/
def answerTo (settings : Settings) (m : Message) (result : Option (Except Failure Response)) :
    Answer :=
  if m.method = "OPTIONS" then preflight settings.corsOrigins m.headers
  else
    let answer :=
      if m.body.length > settings.bodyLimit then tooLarge settings.bodyLimit
      else answerOf m.request result
    { answer with
      headers := originFields settings.corsOrigins m.headers ++ answer.headers ++ varyFields }

theorem answer_respond (settings : Settings) (router : Router) (m : Message) (supply : Supply) :
    (respond ⟨settings, router⟩ m supply).answer =
      answerTo settings m (router.handle m.request supply).result := by
  rw [respond, answerTo]
  split
  · rfl
  · simp only [dispatch]
    split <;> rfl

/-- The answer to a refusal is made of the artifact, and not of what the engine says. -/
theorem answerTo_of_tells {artifact : Artifact} {text text' : String} {e e' : ExecutionError}
    (h : Tells artifact text e) (h' : Tells artifact text' e') (settings : Settings) (m : Message) :
    answerTo settings m (some (.error (.execution e))) =
      answerTo settings m (some (.error (.execution e'))) := by
  have hsame : e.message = e'.message ∧ e.kind = e'.kind := by
    cases h <;> cases h' <;> exact ⟨rfl, rfl⟩
  have hanswer (e : ExecutionError) : answerOf m.request (some (.error (.execution e))) =
      failureAnswer e.kind.code (e.kind.describe e.message) e.kind.status := rfl
  rw [answerTo, answerTo, hanswer, hanswer, hsame.1, hsame.2]

theorem detail?_of_tells {artifact : Artifact} {text : String} {e : ExecutionError}
    (h : Tells artifact text e) : (Failure.execution e).detail? = some text := by
  cases h <;> rfl

/-- Two routers that differ in their engines alone give the same answer to every message for which
these engines fail.  It is the answer to whatever else the engine could say of the same artifact,
and what it says is the detail of the failure. -/
theorem answer_of_refused {router other : Router} (halike : router.Alike other)
    (settings : Settings) (m : Message) (supply : Supply)
    (hrefused : router.Refused m.request supply) (hother : other.Refused m.request supply) :
    (respond ⟨settings, router⟩ m supply).answer = (respond ⟨settings, other⟩ m supply).answer ∧
      ∀ name artifact, (router.handle m.request supply).executed = some (name, artifact) →
        (other.handle m.request supply).executed = some (name, artifact) ∧
        ∀ text error, Tells artifact text error →
          (respond ⟨settings, router⟩ m supply).answer =
              answerTo settings m (some (.error (.execution error))) ∧
            (Failure.execution error).detail? = some text := by
  rw [answer_respond, answer_respond]
  rcases halike.settles_or_prepares m.request supply with
    ⟨hnone, -, hsame⟩ | ⟨route, name, adapter, adapter', artifact, after, hready, hready'⟩
  · rw [hsame, hnone]
    exact ⟨rfl, nofun⟩
  · obtain ⟨text, error, htells, hresult⟩ := hready.tells hrefused
    obtain ⟨text', error', htells', hresult'⟩ := hready'.tells hother
    rw [hresult, hresult', hready.handle.2, hready'.handle.2]
    refine ⟨answerTo_of_tells htells htells' settings m, fun found given hfound => ?_⟩
    obtain ⟨rfl, rfl⟩ := Prod.mk.inj (Option.some.inj hfound)
    refine ⟨rfl, fun said e he => ?_⟩
    exact ⟨answerTo_of_tells htells he settings m, detail?_of_tells he⟩

/-- A password in the error of an engine does not show, whichever kind of engine it is. -/
theorem answer_of_refused_password :
    let definitions : List Route.Definition := [
      { method := "GET", path := "/users", adapter := some "db"
        query := .str "SELECT * FROM users" },
      { method := "GET", path := "/notes", adapter := some "docs"
        query := .obj [("collection", .str "notes"), ("operation", .str "find")] }]
    let adapters (text : String) : Adapters :=
      (Dictionary.empty.insert "db" (.sql .numbered fun _ => .error text)).insert "docs"
        (.documentOn (.outside fun _ => .error text))
    let messages : List Message :=
      [{ method := "GET", target := "/users" }, { method := "GET", target := "/notes" }]
    let supply : Supply := ⟨fun _ => ⟨0⟩, fun _ => "a", 0⟩
    ∃ router other,
      (Router.boot .standard (adapters "not found") none definitions).1 = .ok router ∧
      (Router.boot .standard (adapters "bad password: s3cret") none definitions).1 = .ok other ∧
      router.Alike other ∧
      ∀ m ∈ messages,
        (router.handle m.request supply).result.bind Router.failureKind? = some .query ∧
        router.Refused m.request supply ∧ other.Refused m.request supply ∧
        (respond ⟨{}, router⟩ m supply).answer = (respond ⟨{}, other⟩ m supply).answer := by
  intro definitions adapters messages supply
  have hfails : ∀ text ∈ ["not found", "bad password: s3cret"],
      ((Router.boot .standard (adapters text) none definitions).1.toOption.any fun router =>
        messages.all fun m =>
          (router.handle m.request supply).result.bind Router.failureKind? == some .query) =
        true := by
    decide +kernel +revert
  have hfirst := hfails _ List.mem_cons_self
  have hsecond := hfails _ (List.mem_cons_of_mem _ List.mem_cons_self)
  have hadapters : (adapters "not found").Alike (adapters "bad password: s3cret") :=
    .cons ⟨rfl, .sql .numbered _ _⟩ (.cons ⟨rfl, .document _ _⟩ .nil)
  cases hboot : (Router.boot .standard (adapters "not found") none definitions).1 with
  | error e =>
    rw [hboot] at hfirst
    cases hfirst
  | ok router =>
    obtain ⟨other, hother, halike⟩ := Router.alike_of_boot hadapters hboot
    rw [hboot, Except.toOption, Option.any_some, List.all_eq_true] at hfirst
    rw [hother, Except.toOption, Option.any_some, List.all_eq_true] at hsecond
    refine ⟨router, other, rfl, hother, halike, fun m hm => ?_⟩
    have hkind := beq_iff_eq.mp (hfirst m hm)
    have hrefused := Router.refused_of_failureKind? hkind
    have hrefused' := Router.refused_of_failureKind? (beq_iff_eq.mp (hsecond m hm))
    exact ⟨hkind, hrefused, hrefused',
      (answer_of_refused halike {} m supply hrefused hrefused').1⟩

end Service
end QueryGateway
