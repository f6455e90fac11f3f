import QueryGateway.Proofs.Document.Absence
import QueryGateway.Proofs.Router.Boot

/-!
Requests that find nothing.

A route that returns a single item has none only if its query answered with no rows.  So a
request that fails for that reason has written nothing, or its query is a silent upsert and has
inserted a document (`documents_after_not_found`).
-/

namespace QueryGateway

open Document (Collection)
open Document.Collection (SilentUpsert UpsertsSilently)

/-- The documents of a collection behind an adapter.  An engine outside has none to show. -/
def Adapter.documents? (collection : String) : Adapter → Option Collection
  | .sql _ _ => none
  | .documentOn (.memory store) => some (store.documents collection)
  | .documentOn (.outside _) => none

theorem Adapter.documents_of_no_rows {adapter : Adapter} {artifact : Artifact} {supply : Supply}
    (h : (adapter.execute artifact supply).1 = .ok []) :
    let after := (adapter.execute artifact supply).2.1
    (∀ command docs, artifact = .document command →
          adapter.documents? command.collection = some docs → ¬UpsertsSilently command docs) ∧
        (∀ collection, after.documents? collection = adapter.documents? collection) ∨
      ∃ command docs doc, artifact = .document command ∧
        adapter.documents? command.collection = some docs ∧ SilentUpsert command docs doc ∧
        ∀ collection, after.documents? collection =
          if collection = command.collection then some (docs ++ [doc])
          else adapter.documents? collection := by
  intro after
  cases adapter with
  | sql dialect engine =>
    refine .inl ⟨fun _ _ _ hheld => absurd hheld.symm (Option.some_ne_none _), fun _ => ?_⟩
    cases artifact <;> rfl
  | documentOn driver =>
    cases driver with
    | outside engine =>
      refine .inl ⟨fun _ _ _ hheld => absurd hheld.symm (Option.some_ne_none _), fun _ => ?_⟩
      cases artifact <;> rfl
    | memory store =>
      cases artifact with
      | sql statement => cases h
      | document command =>
        have hresult : (store.execute command supply).1 = .ok [] :=
          eq_ok_of_mapError (eq_ok_of_mapError h)
        rcases Document.Store.documents_of_no_rows hresult with
          ⟨hspoken, hsame⟩ | ⟨doc, hsilent, hdocs⟩
        · refine .inl ⟨?_, fun collection => congrArg some (hsame collection)⟩
          rintro _ _ ⟨⟩ ⟨⟩
          exact hspoken
        · refine .inr ⟨command, _, doc, rfl, rfl, hsilent, fun collection => ?_⟩
          refine (congrArg some (hdocs collection)).trans ?_
          by_cases hcollection : collection = command.collection
          · rw [if_pos hcollection, if_pos hcollection, hcollection]
          · rw [if_neg hcollection, if_neg hcollection]
            rfl

theorem InterpolationError.kind_ne_notFound (e : InterpolationError) : e.kind ≠ .notFound := by
  cases e with
  | template error => nofun
  | expression error => cases error <;> nofun

theorem ExecutionError.kind_ne_notFound (e : ExecutionError) : e.kind ≠ .notFound := by
  cases e <;> nofun

/-! ## Answers -/

theorem Response.Pointer.resolve_of_isSingleItem {p : Pointer} (h : p.isSingleItem = true)
    (items : List Json) : p.resolve (.arr items) = (items[0]?).getD .null := by
  have htext : p.text = "/0" := beq_iff_eq.mp h
  have htokens : p.tokens = ["0"] := by
    rw [tokens, htext]
    decide
  have hindex : index? "0" = some 0 := by decide
  rw [resolve, htokens, follow, hindex, Option.bind_some]
  cases items[0]? <;> rfl

theorem Response.length_renameRows (fieldMap : Option FieldMap) (rows : List Row) :
    (renameRows fieldMap rows).length = rows.length := by
  cases fieldMap with
  | none => rfl
  | some m =>
    rw [renameRows]
    by_cases hempty : m.columns.isEmpty = true
    · simp only [hempty, if_true]
    · simp only [hempty, Bool.false_eq_true, if_false, List.length_map]

namespace Router

/-- Nothing is found only if there are no rows. -/
theorem rows_of_respond {route : Route} {rows : List Row} {failure : Failure}
    (h : respond route rows = .error failure) : rows = [] := by
  rw [respond] at h
  split at h
  · rename_i hnull
    obtain ⟨hsingle, hnull⟩ := Bool.and_eq_true_iff.mp hnull
    obtain ⟨pointer, hextraction, hsingle⟩ := (Option.any_eq_true _ _).mp hsingle
    rw [hextraction, Response.shape] at hnull
    simp only [Response.Pointer.resolve_of_isSingleItem hsingle, List.getElem?_map] at hnull
    cases hfirst : (Response.renameRows route.fieldMap rows)[0]? with
    | some row =>
      rw [hfirst] at hnull
      cases hnull
    | none =>
      have hlength := List.getElem?_eq_none_iff.mp hfirst
      rw [Response.length_renameRows] at hlength
      exact List.eq_nil_of_length_eq_zero (Nat.le_zero.mp hlength)
  · cases h

variable {router : Router} {request : Request} {supply supply' : Supply} {route : Route}
  {ctx : Context}

/-- The kind of failure, if a request has failed. -/
def failureKind? : Except Failure Response → Option FailureKind
  | .error failure => some failure.kind
  | .ok _ => none

/-- The documents of a collection behind the adapter of a name. -/
def documents (router : Router) (name collection : String) : Option Collection :=
  (router.adapters.get? name).bind (·.documents? collection)

/-- A query that is found to have no item was executed and has answered with no rows. -/
theorem execute_of_not_found
    (h : failureKind? ((router.execute route ctx supply).result.bind (respond route)) =
      some .notFound) :
    ∃ name adapter artifact supply', router.adapters.get? name = some adapter ∧
      (adapter.execute artifact supply').1 = .ok [] ∧
      (router.execute route ctx supply).executed = some (name, artifact) ∧
      (router.execute route ctx supply).adapters =
        router.adapters.insert name (adapter.execute artifact supply').2.1 := by
  rw [execute] at h ⊢
  cases hselected : router.adapters.select route.adapter with
  | error e =>
    rw [hselected] at h
    cases h
  | ok found =>
    obtain ⟨name, adapter⟩ := found
    rw [hselected] at h
    simp only at h ⊢
    cases hmade : adapter.interpolate router.delimiters ctx route.template supply with
    | error e =>
      rw [hmade] at h
      exact absurd (Option.some.inj h) (InterpolationError.kind_ne_notFound e)
    | ok made =>
      rw [hmade] at h
      simp only at h ⊢
      refine ⟨name, adapter, made.1, made.2, Adapters.get?_of_select hselected, ?_, rfl, rfl⟩
      cases hrows : (adapter.execute made.1 made.2).1 with
      | error e =>
        rw [hrows] at h
        exact absurd (Option.some.inj h) (ExecutionError.kind_ne_notFound e)
      | ok rows =>
        rw [hrows] at h
        cases hresponse : respond route rows with
        | error failure => rw [rows_of_respond hresponse]
        | ok response =>
          simp only [Except.mapError, Except.bind, hresponse] at h
          cases h

/-! ## Documents -/

theorem documents_insert {name : String} {adapter : Adapter} (other collection : String) :
    Router.documents { router with adapters := router.adapters.insert name adapter } other
        collection =
      if other = name then adapter.documents? collection
      else router.documents other collection := by
  rw [documents, documents, Dictionary.get?_insert]
  by_cases hname : other = name
  · rw [if_pos hname, if_pos hname, Option.bind_some]
  · rw [if_neg hname, if_neg hname]

/-- The documents after a query that answered with no rows. -/
theorem documents_of_no_rows {name : String} {adapter : Adapter} {artifact : Artifact}
    (hadapter : router.adapters.get? name = some adapter)
    (hrows : (adapter.execute artifact supply).1 = .ok []) :
    let after : Router :=
      { router with adapters := router.adapters.insert name (adapter.execute artifact supply).2.1 }
    (∀ command docs, artifact = .document command →
          router.documents name command.collection = some docs → ¬UpsertsSilently command docs) ∧
        (∀ other collection,
          after.documents other collection = router.documents other collection) ∨
      ∃ command docs doc, artifact = .document command ∧
        router.documents name command.collection = some docs ∧ SilentUpsert command docs doc ∧
        ∀ other collection, after.documents other collection =
          if other = name ∧ collection = command.collection then some (docs ++ [doc])
          else router.documents other collection := by
  intro after
  have hbefore (collection : String) :
      router.documents name collection = adapter.documents? collection := by
    rw [documents, hadapter, Option.bind_some]
  rcases Adapter.documents_of_no_rows hrows with
    ⟨hspoken, hsame⟩ | ⟨command, docs, doc, hcommand, hheld, hsilent, hdocs⟩
  · refine .inl ⟨fun command docs hcommand hheld => ?_, fun other collection => ?_⟩
    · exact hspoken command docs hcommand ((hbefore _).symm.trans hheld)
    · rw [documents_insert]
      by_cases hname : other = name
      · rw [if_pos hname, hsame, hname, hbefore]
      · rw [if_neg hname]
  · refine .inr ⟨command, docs, doc, hcommand, (hbefore _).trans hheld, hsilent,
      fun other collection => ?_⟩
    rw [documents_insert]
    by_cases hname : other = name
    · rw [if_pos hname, hdocs, hname, hbefore]
      by_cases hcollection : collection = command.collection
      · rw [if_pos hcollection, if_pos ⟨rfl, hcollection⟩]
      · rw [if_neg hcollection, if_neg fun h => hcollection h.2]
    · rw [if_neg hname, if_neg fun h => hname h.1]

/-- A request that finds nothing has run no silent upsert and leaves every collection as it was, or
it has run one.  Then one collection has gained a document at its end, and the others are as they
were. -/
theorem documents_after_not_found
    (h : (router.handle request supply).result.bind failureKind? = some .notFound) :
    let handled := router.handle request supply
    (∀ name command docs, handled.executed = some (name, .document command) →
          router.documents name command.collection = some docs → ¬UpsertsSilently command docs) ∧
        (∀ name collection,
          handled.router.documents name collection = router.documents name collection) ∨
      ∃ name command docs doc, handled.executed = some (name, .document command) ∧
        router.documents name command.collection = some docs ∧ SilentUpsert command docs doc ∧
        ∀ other collection, handled.router.documents other collection =
          if other = name ∧ collection = command.collection then some (docs ++ [doc])
          else router.documents other collection := by
  rw [handle] at h ⊢
  cases hmatched : Route.find? router.routes request.method (Request.pathOf request.target) with
  | none =>
    rw [hmatched] at h
    cases h
  | some found =>
    obtain ⟨route, params⟩ := found
    rw [hmatched] at h
    simp only [run] at h ⊢
    cases hauth : (router.authenticate route request supply).result with
    | error e =>
      refine .inl ⟨fun _ _ _ hexecuted => ?_, fun _ _ => rfl⟩
      cases hexecuted
    | ok claims =>
      rw [hauth] at h
      simp only at h ⊢
      obtain ⟨name, adapter, artifact, supply', hadapter, hrows, hexecuted, hadapters⟩ :=
        execute_of_not_found h
      rw [hexecuted, hadapters]
      rcases documents_of_no_rows hadapter hrows with
        ⟨hspoken, hsame⟩ | ⟨command, docs, doc, rfl, hdocs, hsilent, hafter⟩
      · refine .inl ⟨fun found command docs hfound hdocs => ?_, hsame⟩
        obtain ⟨rfl, hcommand⟩ := Prod.mk.inj (Option.some.inj hfound)
        exact hspoken command docs hcommand hdocs
      · exact .inr ⟨name, command, docs, doc, rfl, hdocs, hsilent, hafter⟩

/-- A document that is asked for by an `_id` that nobody has. -/
theorem documents_after_missing :
    let definition : Route.Definition := {
      method := "GET", path := "/users/{id}"
      query := .obj [("collection", .str "users"), ("operation", .str "findOne"),
        ("filter", .obj [("_id", .str "${{ path.id }}")])]
      returns := some "/0" }
    let store : Document.Store := Document.Store.empty.put "users" [[("_id", .str "u1")]]
    let adapters : Adapters := Dictionary.empty.insert "docs" (.document store)
    let request : Request := { method := "GET", target := "/users/u2", body := .empty }
    let supply : Supply := ⟨fun _ => ⟨0⟩, fun _ => "a", 0⟩
    ∃ start, (boot .standard adapters none [definition]).1 = .ok start ∧
      (start.handle request supply).result.bind failureKind? = some .notFound ∧
      ((∀ name command docs,
            (start.handle request supply).executed = some (name, .document command) →
            start.documents name command.collection = some docs →
              ¬UpsertsSilently command docs) ∧
          (∀ name collection, (start.handle request supply).router.documents name collection =
            start.documents name collection) ∨
        ∃ name command docs doc,
          (start.handle request supply).executed = some (name, .document command) ∧
          start.documents name command.collection = some docs ∧ SilentUpsert command docs doc ∧
          ∀ other collection, (start.handle request supply).router.documents other collection =
            if other = name ∧ collection = command.collection then some (docs ++ [doc])
            else start.documents other collection) := by
  intro definition store adapters request supply
  have hrun : ((boot .standard adapters none [definition]).1.toOption.any fun start =>
      (start.handle request supply).result.bind failureKind? == some .notFound) = true := by
    decide +kernel +revert
  cases hstart : (boot .standard adapters none [definition]).1 with
  | error e =>
    rw [hstart] at hrun
    cases hrun
  | ok start =>
    rw [hstart, Except.toOption, Option.any_some, beq_iff_eq] at hrun
    exact ⟨start, rfl, hrun, documents_after_not_found hrun⟩

/-- An upsert that answers with the document as it was before, which there was not. -/
theorem documents_after_silent_upsert :
    let definition : Route.Definition := {
      method := "PUT", path := "/users/{id}"
      query := .obj [("collection", .str "users"), ("operation", .str "findOneAndUpdate"),
        ("filter", .obj [("_id", .str "${{ path.id }}")]),
        ("update", .obj [("$set", .obj [("name", .str "Ada")])]),
        ("options", .obj [("upsert", .bool true), ("returnDocument", .str "before")])]
      returns := some "/0" }
    let adapters : Adapters := Dictionary.empty.insert "docs" (.document .empty)
    let request : Request := { method := "PUT", target := "/users/u1", body := .empty }
    let supply : Supply := ⟨fun _ => ⟨0⟩, fun _ => "a", 0⟩
    ∃ start, (boot .standard adapters none [definition]).1 = .ok start ∧
      (start.handle request supply).result.bind failureKind? = some .notFound ∧
      (start.documents "docs" "users").map List.length = some 0 ∧
      ((start.handle request supply).router.documents "docs" "users").map List.length =
        some 1 := by
  intro definition adapters request supply
  have hrun : ((boot .standard adapters none [definition]).1.toOption.any fun start =>
      (start.handle request supply).result.bind failureKind? == some .notFound &&
        ((start.documents "docs" "users").map List.length == some 0 &&
          ((start.handle request supply).router.documents "docs" "users").map List.length ==
            some 1)) = true := by
    decide +kernel +revert
  cases hstart : (boot .standard adapters none [definition]).1 with
  | error e =>
    rw [hstart] at hrun
    cases hrun
  | ok start =>
    rw [hstart, Except.toOption, Option.any_some] at hrun
    simp only [Bool.and_eq_true, beq_iff_eq] at hrun
    exact ⟨start, rfl, hrun⟩

end Router
end QueryGateway
