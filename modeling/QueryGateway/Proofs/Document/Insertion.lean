import QueryGateway.Proofs.Document.Failure
import QueryGateway.Proofs.Traversal

/-!
Inserting many documents.

Inserting a list of documents in one command is inserting them with a command each, as long as all
of these succeed: the documents with their `_id`s stand behind those that were there before.  If
one of them fails, the one command fails in the same way and writes nothing
(`insertMany_inserts_each`).
-/

namespace QueryGateway.Document

open Json (Fields)

namespace Collection

/-- Whether a collection takes a document, and with which `_id`. -/
def Takes (state : Collection × Supply) (document id : Json) (state' : Collection × Supply) :
    Prop :=
  insert document state.1 state.2 =
    { result := .ok id, documents := state'.1, supply := state'.2 }

/-- The form in which a document is stored: with an `_id`, drawn from the supply if it has none. -/
def Completes (supply : Supply) (document : Json) (stored : Fields) (supply' : Supply) : Prop :=
  ∃ given, document = .obj given ∧ (identify given supply).2 = (stored, supply')

theorem takes_iff {docs docs' : Collection} {supply supply' : Supply} {document id : Json} :
    Takes (docs, supply) document id (docs', supply') ↔
      docs.holds id = false ∧ ∃ stored, docs' = docs ++ [stored] ∧
        Completes supply document stored supply' ∧ Fields.get? "_id" stored = some id := by
  cases document with
  | obj given =>
    have hid := get?_id_identify given supply
    rw [Takes, insert_obj]
    constructor
    · intro h
      by_cases htaken : docs.holds (identify given supply).1 = true
      · rw [if_pos htaken, Outcome.mk.injEq] at h
        cases h.1
      · rw [if_neg htaken, Outcome.mk.injEq] at h
        obtain ⟨hresult, hdocs, hsupply⟩ := h
        obtain rfl := Except.ok.inj hresult
        exact ⟨Bool.eq_false_iff.mpr htaken, _, hdocs.symm,
          ⟨given, rfl, Prod.ext rfl hsupply⟩, hid⟩
    · rintro ⟨hfree, stored, rfl, ⟨given', hgiven, hstored⟩, hget⟩
      obtain rfl := Json.obj.inj hgiven
      rw [hstored] at hid ⊢
      obtain rfl := Option.some.inj (hid.symm.trans hget)
      exact if_neg (Bool.eq_false_iff.mp hfree)
  | _ =>
    refine iff_of_false (fun h => ?_) ?_
    · cases congrArg Outcome.result h
    · rintro ⟨-, stored, -, ⟨given, hgiven, -⟩, -⟩
      cases hgiven

/-- Documents go in one after the other if each is taken where the one before it leaves off. -/
theorem insertEach_eq_ok_iff {documents ids : List Json} {docs docs' : Collection}
    {supply supply' : Supply} :
    insertEach documents docs supply =
        { result := .ok ids, documents := docs', supply := supply' } ↔
      Threaded Takes (docs, supply) documents ids (docs', supply') := by
  induction documents generalizing docs supply ids with
  | nil =>
    rw [insertEach, Threaded.nil_iff, Outcome.mk.injEq, Except.ok.injEq, Prod.mk.injEq, eq_comm,
      @eq_comm _ docs, @eq_comm _ supply]
  | cons document rest ih =>
    rw [Threaded.cons_iff, insertEach]
    cases hinserted : insert document docs supply with
    | mk result docs₁ supply₁ =>
      cases result with
      | error e =>
        refine iff_of_false (fun h => ?_) ?_
        · cases congrArg Outcome.result h
        · rintro ⟨id, next, others, -, hfirst, -⟩
          cases congrArg Outcome.result (hinserted.symm.trans hfirst)
      | ok id =>
        constructor
        · intro h
          obtain ⟨hresult, hdocs, hsupply⟩ := Outcome.mk.inj h
          obtain ⟨others, hothers, rfl⟩ := exists_of_map_eq_ok hresult
          refine ⟨id, (docs₁, supply₁), others, rfl, hinserted, ih.mp ?_⟩
          rw [← hothers, ← hdocs, ← hsupply]
        · rintro ⟨id', ⟨docs₂, supply₂⟩, others, rfl, hfirst, hothers⟩
          obtain ⟨hresult, rfl, rfl⟩ := Outcome.mk.inj (hinserted.symm.trans hfirst)
          obtain rfl := Except.ok.inj hresult
          rw [ih.mpr hothers]
          rfl

/-- What a run of inserts makes of a collection. -/
theorem of_threaded_takes {documents ids : List Json} {docs docs' : Collection}
    {supply supply' : Supply} (h : Threaded Takes (docs, supply) documents ids (docs', supply')) :
    ∃ added, docs' = docs ++ added ∧ Threaded Completes supply documents added supply' ∧
      added.map (Fields.get? "_id") = ids.map some := by
  generalize hfirst : (docs, supply) = first at h
  generalize hlast : (docs', supply') = last at h
  induction h generalizing docs supply with
  | nil start =>
    obtain ⟨rfl, rfl⟩ := Prod.mk.inj (hlast.trans hfirst.symm)
    exact ⟨[], (List.append_nil _).symm, .nil _, rfl⟩
  | @cons start next _ document id rest others taken _ ih =>
    subst hfirst
    obtain ⟨-, stored, hdocs, hstored, hid⟩ := takes_iff.mp taken
    obtain ⟨added, hadded, hcompleted, hids⟩ := ih rfl hlast
    refine ⟨stored :: added, ?_, .cons hstored hcompleted, ?_⟩
    · rw [hadded, hdocs, List.append_assoc]
      rfl
    · rw [List.map_cons, List.map_cons, hid, hids]

/-- They fail as the first one that is refused. -/
theorem insertEach_eq_error_iff {documents : List Json} {docs : Collection} {supply : Supply}
    {e : Error} :
    (insertEach documents docs supply).result = .error e ↔
      ∃ before document after ids between, documents = before ++ document :: after ∧
        Threaded Takes (docs, supply) before ids between ∧
        (insert document between.1 between.2).result = .error e := by
  constructor
  · intro h
    induction documents generalizing docs supply with
    | nil => cases h
    | cons document rest ih =>
      rw [insertEach] at h
      cases hinserted : insert document docs supply with
      | mk result docs₁ supply₁ =>
        rw [hinserted] at h
        cases result with
        | error e' =>
          obtain rfl := Except.error.inj h
          exact ⟨[], document, rest, [], _, rfl, .nil _, congrArg Outcome.result hinserted⟩
        | ok id =>
          have hrest : (insertEach rest docs₁ supply₁).result = .error e :=
            map_eq_error_iff.mp h
          have htaken : Takes (docs, supply) document id (docs₁, supply₁) := hinserted
          obtain ⟨before, refused, after, ids, between, rfl, hbefore, hrefused⟩ := ih hrest
          exact ⟨document :: before, refused, after, id :: ids, between, rfl,
            .cons htaken hbefore, hrefused⟩
  · rintro ⟨before, document, after, ids, between, rfl, hbefore, hrefused⟩
    induction before generalizing docs supply ids with
    | nil =>
      obtain ⟨-, rfl⟩ := Threaded.nil_iff.mp hbefore
      rw [List.nil_append, insertEach, hrefused]
    | cons first before ih =>
      obtain ⟨id, next, others, -, htaken, hothers⟩ := Threaded.cons_iff.mp hbefore
      rw [Takes] at htaken
      rw [List.cons_append, insertEach, htaken]
      exact map_eq_error_iff.mpr (ih others hothers)

theorem insertMany_of_threaded {documents ids : List Json} {docs docs' : Collection}
    {supply supply' : Supply} (h : Threaded Takes (docs, supply) documents ids (docs', supply')) :
    insertMany documents docs supply =
      { result := .ok ids, documents := docs', supply := supply' } := by
  rw [insertMany, insertEach_eq_ok_iff.mpr h]

theorem threaded_of_insertMany {documents ids : List Json} {docs : Collection} {supply : Supply}
    (h : (insertMany documents docs supply).result = .ok ids) :
    ∃ last, Threaded Takes (docs, supply) documents ids last := by
  rw [insertMany] at h
  cases hstaged : insertEach documents docs supply with
  | mk result docs' supply' =>
    rw [hstaged] at h
    cases result with
    | error e => cases h
    | ok others =>
      obtain rfl := Except.ok.inj h
      exact ⟨(docs', supply'), insertEach_eq_ok_iff.mp hstaged⟩

theorem result_insertMany_eq_error_iff {documents : List Json} {docs : Collection}
    {supply : Supply} {e : Error} : (insertMany documents docs supply).result = .error e ↔
      (insertEach documents docs supply).result = .error e := by
  rw [insertMany]
  cases hresult : (insertEach documents docs supply).result with
  | error e' => rfl
  | ok ids =>
    show (insertEach documents docs supply).result = _ ↔ _
    rw [hresult]

end Collection

/-! ## Commands -/

namespace Command

/-- Inserts a document; whatever options there are, they are not looked at. -/
def insertOne (collection : String) (document : Json) (options : List Json) : Command :=
  { collection, operation := .insertOne, args := document :: options }

/-- Inserts documents; whatever options there are, they are not looked at. -/
def insertMany (collection : String) (documents : List Json) (options : List Json) : Command :=
  { collection, operation := .insertMany, args := .arr documents :: options }

end Command

namespace Store

/-- The answer to the insert of a document. -/
def insertedOne (id : Json) : List Row := [[("insertedId", id)]]

/-- The answer to the insert of documents. -/
def insertedMany (ids : List Json) : List Row :=
  [[("insertedCount", .nat ids.length), ("insertedIds", .arr ids)]]

/-- Whether the command that inserts one document succeeds, and with which answer. -/
def Inserts (collection : String) (options : List Json) (state : Store × Supply)
    (document : Json) (rows : List Row) (state' : Store × Supply) : Prop :=
  state.1.execute (.insertOne collection document options) state.2 = (.ok rows, state')

variable {collection : String} {options documents : List Json} {store store' : Store}
  {supply supply' : Supply}

theorem execute_insertOne (document : Json) :
    store.execute (.insertOne collection document options) supply =
      let inserted := Collection.insert document (store.documents collection) supply
      (inserted.result.map insertedOne, store.put collection inserted.documents,
        inserted.supply) := rfl

theorem execute_insertMany :
    store.execute (.insertMany collection documents options) supply =
      let inserted := Collection.insertMany documents (store.documents collection) supply
      (inserted.result.map insertedMany, store.put collection inserted.documents,
        inserted.supply) := rfl

theorem inserts_iff {document : Json} {rows : List Row} :
    Inserts collection options (store, supply) document rows (store', supply') ↔
      ∃ id docs, rows = insertedOne id ∧ store' = store.put collection docs ∧
        Collection.Takes (store.documents collection, supply) document id (docs, supply') := by
  rw [Inserts, execute_insertOne]
  constructor
  · intro h
    obtain ⟨hresult, hrest⟩ := Prod.mk.inj h
    obtain ⟨id, hid, rfl⟩ := exists_of_map_eq_ok hresult
    obtain ⟨rfl, rfl⟩ := Prod.mk.inj hrest
    exact ⟨id, _, rfl, rfl, congrArg (Outcome.mk · _ _) hid⟩
  · rintro ⟨id, docs, rfl, rfl, htakes⟩
    rw [Collection.Takes] at htakes
    rw [htakes]
    rfl

theorem documents_put_documents
    (h : ∀ name, name ≠ collection → store'.documents name = store.documents name)
    (name : String) : (store.put collection (store'.documents collection)).documents name =
      store'.documents name := by
  rw [documents_put]
  by_cases hname : name = collection
  · rw [if_pos hname, hname]
  · rw [if_neg hname, h name hname]

/-- A run of commands that insert is a run of inserts into their collection. -/
theorem of_threaded_inserts {answers : List (List Row)}
    (h : Threaded (Inserts collection options) (store, supply) documents answers
      (store', supply')) :
    ∃ ids, answers = ids.map insertedOne ∧
      Threaded Collection.Takes (store.documents collection, supply) documents ids
        (store'.documents collection, supply') ∧
      ∀ name, name ≠ collection → store'.documents name = store.documents name := by
  induction documents generalizing store supply answers with
  | nil =>
    obtain ⟨rfl, hlast⟩ := Threaded.nil_iff.mp h
    obtain ⟨rfl, rfl⟩ := Prod.mk.inj hlast
    exact ⟨[], rfl, .nil _, fun _ _ => rfl⟩
  | cons document rest ih =>
    obtain ⟨rows, ⟨between, supply₁⟩, others, rfl, hfirst, hothers⟩ := Threaded.cons_iff.mp h
    obtain ⟨id, docs, rfl, rfl, htaken⟩ := inserts_iff.mp hfirst
    obtain ⟨ids, rfl, hids, houtside⟩ := ih hothers
    rw [documents_put, if_pos rfl] at hids
    refine ⟨id :: ids, rfl, .cons htaken hids, fun name hname => ?_⟩
    rw [houtside name hname, documents_put, if_neg hname]

theorem exists_threaded_inserts {ids : List Json} {docs' : Collection}
    (h : Threaded Collection.Takes (store.documents collection, supply) documents ids
      (docs', supply')) :
    ∃ store', store'.documents collection = docs' ∧
      Threaded (Inserts collection options) (store, supply) documents (ids.map insertedOne)
        (store', supply') := by
  induction documents generalizing store supply ids with
  | nil =>
    obtain ⟨rfl, hlast⟩ := Threaded.nil_iff.mp h
    obtain ⟨rfl, rfl⟩ := Prod.mk.inj hlast
    exact ⟨store, rfl, .nil _⟩
  | cons document rest ih =>
    obtain ⟨id, ⟨docs, supply₁⟩, others, rfl, hfirst, hothers⟩ := Threaded.cons_iff.mp h
    have hput : (store.put collection docs).documents collection = docs := by
      rw [documents_put, if_pos rfl]
    rw [← hput] at hothers
    obtain ⟨store', hdocs', hrest⟩ := ih hothers
    have hinserts : Inserts collection options (store, supply) document (insertedOne id)
        (store.put collection docs, supply₁) := inserts_iff.mpr ⟨id, docs, rfl, rfl, hfirst⟩
    exact ⟨store', hdocs', .cons hinserts hrest⟩

/-- A command that inserts documents fails as the first of the commands that insert one of them
each, and leaves the documents as they are. -/
theorem execute_insertMany_of_error {e : Error}
    (h : (store.execute (.insertMany collection documents options) supply).1 = .error e) :
    (∃ before document after answers between, documents = before ++ document :: after ∧
      Threaded (Inserts collection options) (store, supply) before answers between ∧
      (between.1.execute (.insertOne collection document options) between.2).1 = .error e) ∧
    ∀ name, (store.execute (.insertMany collection documents options) supply).2.1.documents name =
      store.documents name := by
  have hresult : (Collection.insertMany documents (store.documents collection) supply).result =
      .error e := map_eq_error_iff.mp h
  constructor
  · obtain ⟨before, document, after, ids, ⟨docs, supply₁⟩, hsplit, hbefore, hrefused⟩ :=
      Collection.insertEach_eq_error_iff.mp
        (Collection.result_insertMany_eq_error_iff.mp hresult)
    obtain ⟨between, rfl, hrun⟩ := exists_threaded_inserts hbefore
    exact ⟨before, document, after, _, (between, supply₁), hsplit, hrun,
      map_eq_error_iff.mpr hrefused⟩
  · intro name
    have hwhole : (Collection.insertMany documents (store.documents collection) supply).documents =
        store.documents collection := Collection.whole_insertMany _ _ _ e hresult
    exact (congrArg (fun docs => (store.put collection docs).documents name) hwhole).trans
      (documents_put_documents (fun _ _ => rfl) name)

/-- A command that inserts documents succeeds exactly if the commands that insert them one after
the other all do.  Then it leaves the same documents and the same supply as these: the earlier
documents, and behind them the inserted ones in order, each with its own `_id` or one from the
supply.  It answers with their number and their `_id`s, which are the answers of the single
commands.  If it fails, it fails as the first of these, and leaves the documents as they are. -/
theorem insertMany_inserts_each (collection : String) (options documents : List Json)
    (store : Store) (supply : Supply) :
    let many := store.execute (.insertMany collection documents options) supply
    ((∃ rows, many.1 = .ok rows) ↔ ∃ answers last,
      Threaded (Inserts collection options) (store, supply) documents answers last) ∧
    (∀ answers last,
      Threaded (Inserts collection options) (store, supply) documents answers last →
      (∀ name, many.2.1.documents name = last.1.documents name) ∧ many.2.2 = last.2 ∧
      ∃ ids added, answers = ids.map insertedOne ∧
        many.1 = .ok [[("insertedCount", .nat documents.length), ("insertedIds", .arr ids)]] ∧
        added.map (Fields.get? "_id") = ids.map some ∧
        Threaded Collection.Completes supply documents added many.2.2 ∧
        many.2.1.documents collection = store.documents collection ++ added ∧
        ∀ name, name ≠ collection → many.2.1.documents name = store.documents name) ∧
    ∀ e, many.1 = .error e →
      (∃ before document after answers between, documents = before ++ document :: after ∧
        Threaded (Inserts collection options) (store, supply) before answers between ∧
        (between.1.execute (.insertOne collection document options) between.2).1 = .error e) ∧
      ∀ name, many.2.1.documents name = store.documents name := by
  intro many
  refine ⟨⟨?_, ?_⟩, ?_, fun e he => execute_insertMany_of_error he⟩
  · rintro ⟨rows, hrows⟩
    obtain ⟨ids, hids, -⟩ := exists_of_map_eq_ok hrows
    obtain ⟨⟨docs', supply'⟩, hthreaded⟩ := Collection.threaded_of_insertMany hids
    obtain ⟨store', -, hrun⟩ := exists_threaded_inserts hthreaded
    exact ⟨_, (store', supply'), hrun⟩
  · rintro ⟨answers, ⟨store', supply'⟩, hrun⟩
    obtain ⟨ids, -, hthreaded, -⟩ := of_threaded_inserts hrun
    exact ⟨insertedMany ids, congrArg (fun inserted => inserted.result.map insertedMany)
      (Collection.insertMany_of_threaded hthreaded)⟩
  · rintro answers ⟨store', supply'⟩ hrun
    obtain ⟨ids, hanswers, hthreaded, houtside⟩ := of_threaded_inserts hrun
    obtain ⟨added, hadded, hcompleted, hids⟩ := Collection.of_threaded_takes hthreaded
    have hmany : many = (.ok (insertedMany ids),
        store.put collection (store'.documents collection), supply') := by
      show store.execute (.insertMany collection documents options) supply = _
      rw [execute_insertMany, Collection.insertMany_of_threaded hthreaded]
      rfl
    have hlength : ids.length = documents.length := hthreaded.length_eq
    rw [hmany]
    refine ⟨documents_put_documents houtside, rfl, ids, added, hanswers, ?_, hids, hcompleted,
      ?_, ?_⟩
    · rw [insertedMany, hlength]
    · rw [documents_put, if_pos rfl, hadded]
    · intro name hname
      rw [documents_put, if_neg hname]

/-- A document without an `_id` goes in behind another one; two with the same `_id` do not. -/
theorem insertMany_inserts_each_generated :
    let store := empty.put "users" [[("_id", .str "u1")]]
    let supply : Supply := ⟨fun _ => ⟨0⟩, fun _ => "g", 0⟩
    let documents : List Json := [.obj [("_id", .str "a")], .obj [("name", .str "Ada")]]
    let twice : List Json := [.obj [("_id", .str "a")], .obj [("_id", .str "a")]]
    let many := store.execute (.insertMany "users" documents []) supply
    let refused := store.execute (.insertMany "users" twice []) supply
    (∃ answers last, Threaded (Inserts "users" []) (store, supply) documents answers last ∧
        ∀ name, many.2.1.documents name = last.1.documents name) ∧
      many.1 = .ok [[("insertedCount", .nat 2), ("insertedIds", .arr [.str "a", .str "g"])]] ∧
      many.2.1.documents "users" = [[("_id", .str "u1")], [("_id", .str "a")],
        [("name", .str "Ada"), ("_id", .str "g")]] ∧
      refused.1 = .error (.duplicateKey (.str "a")) ∧
      ∀ name, refused.2.1.documents name = store.documents name := by
  intro store supply documents twice many refused
  obtain ⟨hsucceeds, hleaves, -⟩ := insertMany_inserts_each "users" [] documents store supply
  obtain ⟨-, -, hfails⟩ := insertMany_inserts_each "users" [] twice store supply
  obtain ⟨answers, last, hrun⟩ := hsucceeds.mp ⟨_, rfl⟩
  have hrefused : refused.1 = .error (.duplicateKey (.str "a")) := rfl
  exact ⟨⟨answers, last, hrun, (hleaves answers last hrun).1⟩, rfl, rfl, hrefused,
    (hfails _ hrefused).2⟩

end Store
end QueryGateway.Document
