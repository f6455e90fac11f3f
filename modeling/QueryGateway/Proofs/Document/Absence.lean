import QueryGateway.Proofs.Document.Selection
import QueryGateway.Proofs.Document.Write

/-!
What an answer without rows says about the documents.

An operation that writes answers with a row, of counts, of `_id`s or of a document.  The one
exception is an upsert by `findOneAndUpdate` that is asked for the document as it was before:
it answers with no rows and has always appended a document (`SilentUpsert`).  Every other answer
without rows comes from a command that has written nothing (`documents_of_no_rows`).
-/

namespace QueryGateway.Document

open Json (Fields)

namespace Collection

variable {filter options change : Json} {docs : Collection} {supply : Supply}

/-- Whether an outcome without rows leaves the documents as they were. -/
def Quiet (docs : Collection) (o : Outcome (List Row)) : Prop :=
  o.result = .ok [] → o.documents = docs

theorem quiet_reading (docs : Collection) (supply : Supply) (result : Except Error (List Row)) :
    Quiet docs (reading docs supply result) :=
  fun _ => rfl

theorem map_singleton_ne_nil {α : Type} (x : Except Error α) (row : α → Row) :
    x.map (fun a => [row a]) ≠ .ok [] := by
  intro h
  cases x with
  | error e => cases h
  | ok a => cases h

theorem quiet_of_row {α : Type} {o : Outcome (List Row)} {x : Except Error α} {row : α → Row}
    (h : o.result = x.map fun a => [row a]) : Quiet docs o :=
  fun hnone => absurd (h.symm.trans hnone) (map_singleton_ne_nil x row)

theorem quiet_update (many : Bool) (filter change options : Json) (docs : Collection)
    (supply : Supply) : Quiet docs (update many filter change options docs supply) := by
  rw [update]
  cases positions filter docs with
  | error e => exact quiet_reading docs supply _
  | ok found =>
    simp only
    generalize (if many then found else found.take 1) = targets
    by_cases hupsert : (targets.isEmpty && upsertRequested options) = true
    · rw [if_pos hupsert]
      exact quiet_of_row rfl
    · rw [if_neg hupsert]
      cases updateAt change targets docs with
      | error e => exact quiet_reading docs supply _
      | ok staged =>
        intro hnone
        cases hnone

theorem quiet_delete (many : Bool) (filter : Json) (docs : Collection) (supply : Supply) :
    Quiet docs (delete many filter docs supply) := by
  rw [delete]
  cases positions filter docs with
  | error e => exact quiet_reading docs supply _
  | ok found =>
    intro hnone
    cases hnone

theorem quiet_findOneAndDelete (filter options : Json) (docs : Collection) (supply : Supply) :
    Quiet docs (findOneAndDelete filter options docs supply) := by
  rw [findOneAndDelete]
  split
  · exact quiet_reading docs supply _
  · exact quiet_reading docs supply _
  · split
    · exact quiet_reading docs supply _
    · exact quiet_of_row rfl

/-- Nothing is found first exactly where nothing is found. -/
theorem positions_of_firstPosition {first : Option Nat}
    (h : firstPosition filter options docs = .ok first) :
    positions filter docs = .ok [] ↔ first = none := by
  cases hselected : selected filter options docs with
  | error e =>
    obtain ⟨e', herror⟩ := firstPosition_of_error hselected
    rw [herror] at h
    cases h
  | ok chosen =>
    obtain rfl := Except.ok.inj ((firstPosition_of_selected hselected).symm.trans h)
    obtain ⟨sorted, hsorted, rfl⟩ := exists_of_map_eq_ok hselected
    obtain ⟨found, hfound, hranked⟩ := exists_of_bind_eq_ok hsorted
    -- The sorted entries are those that were found, in another order.
    have hperm := ranked_perm hranked
    rw [← map_fst_entries, hfound, Option.map_eq_none_iff, List.head?_eq_none_iff]
    show Except.ok (found.map (·.1)) = .ok [] ↔ sorted = []
    rw [Except.ok.injEq, List.map_eq_nil_iff]
    exact ⟨fun hnil => List.perm_nil.mp (hnil ▸ hperm), fun hnil => List.nil_perm.mp (hnil ▸ hperm)⟩

theorem documents_of_insert {document id : Json}
    (h : (insert document docs supply).result = .ok id) :
    ∃ doc, (insert document docs supply).documents = docs ++ [doc] := by
  cases document with
  | obj given =>
    rw [insert_obj] at h ⊢
    by_cases hheld : docs.holds (identify given supply).1 = true
    · rw [if_pos hheld] at h
      cases h
    · rw [if_neg hheld]
      exact ⟨_, rfl⟩
  | _ => cases h

theorem documents_of_upsert {id : Json} (h : (upsert filter change docs supply).result = .ok id) :
    ∃ doc, (upsert filter change docs supply).documents = docs ++ [doc] := by
  simp only [upsert] at h ⊢
  cases hmade : applyUpdate change (Fields.erase "_id" (upsertSeed filter)) with
  | error e =>
    rw [hmade] at h
    cases h
  | ok made =>
    rw [hmade] at h
    exact documents_of_insert h

/-- Whether a command upserts where nothing is found, and is to answer with the document as it
was before. -/
structure UpsertsSilently (c : Command) (docs : Collection) : Prop where
  operation : c.operation = .findOneAndUpdate
  requested : upsertRequested (c.arg 2) = true
  before : (c.arg 2).field? "returnDocument" = some (.str "before")
  unmatched : positions (c.arg 0) docs = .ok []

/-- Whether such a command inserts the document. -/
structure SilentUpsert (c : Command) (docs : Collection) (doc : Fields) : Prop
    extends UpsertsSilently c docs where
  made : ∃ supply, (upsert (c.arg 0) (c.arg 1) docs supply).documents = docs ++ [doc]

theorem eq_str_of_bind_str? {value : Option Json} {s : String}
    (h : value.bind Json.str? = some s) : value = some (.str s) := by
  obtain ⟨v, hv, hs⟩ := Option.bind_eq_some_iff.mp h
  cases v with
  | str t => rw [hv, Option.some.inj hs]
  | _ => cases hs

/-- An upsert that answers with no rows has inserted a document, and was asked for the document as
it was before. -/
theorem upsert_of_no_rows (hfirst : firstPosition filter options docs = .ok none)
    (hupsert : upsertRequested options = true)
    (h : (findOneAndUpdate filter change options docs supply).result = .ok []) :
    options.field? "returnDocument" = some (.str "before") ∧
      ∃ doc, (upsert filter change docs supply).documents = docs ++ [doc] ∧
        (findOneAndUpdate filter change options docs supply).documents = docs ++ [doc] := by
  simp only [findOneAndUpdate, hfirst, hupsert, if_true] at h ⊢
  cases hresult : (upsert filter change docs supply).result with
  | error e =>
    rw [hresult] at h
    cases h
  | ok id =>
    simp only [hresult] at h
    by_cases hafter : ((options.field? "returnDocument").bind Json.str? != some "before") = true
    · rw [if_pos hafter] at h
      exact absurd h (map_singleton_ne_nil _ _)
    · have hbefore : (options.field? "returnDocument").bind Json.str? = some "before" := by
        simpa using hafter
      obtain ⟨doc, hdoc⟩ := documents_of_upsert hresult
      exact ⟨eq_str_of_bind_str? hbefore, doc, hdoc, hdoc⟩

/-- An update of one document that answers with no rows has changed nothing, or it is an upsert
that has inserted a document and shows none. -/
theorem findOneAndUpdate_of_no_rows
    (h : (findOneAndUpdate filter change options docs supply).result = .ok []) :
    let after := (findOneAndUpdate filter change options docs supply).documents
    let silent := upsertRequested options = true ∧
      options.field? "returnDocument" = some (.str "before") ∧ positions filter docs = .ok []
    ¬silent ∧ after = docs ∨
      silent ∧ ∃ doc, (upsert filter change docs supply).documents = docs ++ [doc] ∧
        after = docs ++ [doc] := by
  intro after silent
  cases hfirst : firstPosition filter options docs with
  | error e =>
    rw [findOneAndUpdate, hfirst] at h
    cases h
  | ok first =>
    have hplaces := positions_of_firstPosition hfirst
    cases first with
    | none =>
      by_cases hupsert : upsertRequested options = true
      · obtain ⟨hbefore, hinserted⟩ := upsert_of_no_rows hfirst hupsert h
        exact .inr ⟨⟨hupsert, hbefore, hplaces.mpr rfl⟩, hinserted⟩
      · refine .inl ⟨fun hsilent => hupsert hsilent.1, ?_⟩
        simp only [after, findOneAndUpdate, hfirst, hupsert]
        rfl
    | some i =>
      refine .inl ⟨fun hsilent => Option.some_ne_none i (hplaces.mp hsilent.2.2), ?_⟩
      simp only [after, findOneAndUpdate, hfirst] at h ⊢
      cases hat : docs[i]? with
      | none => rfl
      | some before =>
        simp only [hat] at h ⊢
        cases hmade : applyUpdate change before with
        | error e => rfl
        | ok updated =>
          rw [hmade] at h
          exact absurd h (map_singleton_ne_nil _ _)

theorem quiet_run {c : Command} (h : c.operation ≠ .findOneAndUpdate) (docs : Collection)
    (supply : Supply) : Quiet docs (run c docs supply) := by
  rw [run]
  cases hop : c.operation with
  | find => exact quiet_reading docs supply _
  | findOne => exact quiet_reading docs supply _
  | countDocuments => exact quiet_reading docs supply _
  | insertOne => exact quiet_of_row rfl
  | insertMany => exact quiet_of_row rfl
  | updateOne => exact quiet_update false _ _ _ docs supply
  | updateMany => exact quiet_update true _ _ _ docs supply
  | deleteOne => exact quiet_delete false _ docs supply
  | deleteMany => exact quiet_delete true _ docs supply
  | findOneAndUpdate => exact absurd hop h
  | findOneAndDelete => exact quiet_findOneAndDelete _ _ docs supply
  | aggregate => exact quiet_reading docs supply _

/-- A command that answers with no rows is a silent upsert and has inserted a document, or it has
written nothing. -/
theorem documents_of_no_rows {c : Command} (h : (run c docs supply).result = .ok []) :
    ¬UpsertsSilently c docs ∧ (run c docs supply).documents = docs ∨
      ∃ doc, SilentUpsert c docs doc ∧ (run c docs supply).documents = docs ++ [doc] := by
  by_cases hop : c.operation = .findOneAndUpdate
  · have hrun : run c docs supply =
        findOneAndUpdate (c.arg 0) (c.arg 1) (c.arg 2) docs supply := by rw [run, hop]
    rw [hrun] at h ⊢
    rcases findOneAndUpdate_of_no_rows h with
      ⟨hspoken, hsame⟩ | ⟨⟨hrequested, hbefore, hunmatched⟩, doc, hmade, hdocs⟩
    · exact .inl ⟨fun hs => hspoken ⟨hs.requested, hs.before, hs.unmatched⟩, hsame⟩
    · exact .inr ⟨doc, ⟨⟨hop, hrequested, hbefore, hunmatched⟩, supply, hmade⟩, hdocs⟩
  · exact .inl ⟨fun hs => hop hs.operation, quiet_run hop docs supply h⟩

end Collection

namespace Store

open Collection (SilentUpsert UpsertsSilently)

theorem documents_of_no_rows {store : Store} {c : Command} {supply : Supply}
    (h : (store.execute c supply).1 = .ok []) :
    ¬UpsertsSilently c (store.documents c.collection) ∧
        (∀ name, (store.execute c supply).2.1.documents name = store.documents name) ∨
      ∃ doc, SilentUpsert c (store.documents c.collection) doc ∧
        ∀ name, (store.execute c supply).2.1.documents name =
          if name = c.collection then store.documents name ++ [doc] else store.documents name := by
  rcases Collection.documents_of_no_rows h with ⟨hspoken, hsame⟩ | ⟨doc, hsilent, hdocs⟩
  · exact .inl ⟨hspoken, documents_put_of_eq hsame⟩
  · refine .inr ⟨doc, hsilent, fun name => ?_⟩
    rw [execute, documents_put, hdocs]
    by_cases hname : name = c.collection
    · rw [if_pos hname, if_pos hname, hname]
    · rw [if_neg hname, if_neg hname]

end Store
end QueryGateway.Document
