import QueryGateway.Proofs.Document.Identity
import QueryGateway.Proofs.Document.Matching

/-!
How many documents meet a filter.

A find and a pipeline build the list of accepted documents.  A count, an update and a removal
go by positions, and a removal erases them one by one, the last first, so that the positions
before stay what they are (`eraseAt_findIdxs`).  All of them tell the same number, or all of
them fail (`counts_agree`).
-/

namespace QueryGateway.Document

open Json (Fields)

namespace Collection

variable {filter : Json} {docs : Collection}

/-! ## Erasing positions -/

theorem eraseAt_cons (i : Nat) (targets : List Nat) (docs : Collection) :
    eraseAt (i :: targets) docs = (eraseAt targets docs).eraseIdx i := rfl

/-- Positions behind the first document are positions in the rest. -/
theorem eraseAt_map_succ (targets : List Nat) (doc : Fields) (rest : Collection) :
    eraseAt (targets.map (· + 1)) (doc :: rest) = doc :: eraseAt targets rest := by
  induction targets with
  | nil => rfl
  | cons i targets ih =>
    rw [List.map_cons, eraseAt_cons, ih, List.eraseIdx_cons_succ, ← eraseAt_cons]

theorem findIdxs_cons_succ (p : Fields → Bool) (doc : Fields) (rest : Collection) :
    (doc :: rest).findIdxs p =
      if p doc then 0 :: (rest.findIdxs p).map (· + 1) else (rest.findIdxs p).map (· + 1) := by
  rw [List.findIdxs_cons, List.findIdxs_start]

/-- Erasing all positions of accepted documents leaves the others in order. -/
theorem eraseAt_findIdxs (p : Fields → Bool) (docs : Collection) :
    eraseAt (docs.findIdxs p) docs = docs.filter fun doc => !p doc := by
  induction docs with
  | nil => rfl
  | cons doc rest ih =>
    rw [findIdxs_cons_succ]
    cases hp : p doc with
    | true =>
      have hdropped : (doc :: rest).filter (fun doc => !p doc) = rest.filter fun doc => !p doc :=
        List.filter_cons_of_neg (by simp [hp])
      rw [if_pos rfl, eraseAt_cons, eraseAt_map_succ, List.eraseIdx_cons_zero, ih, hdropped]
    | false =>
      have hkept : (doc :: rest).filter (fun doc => !p doc) =
          doc :: rest.filter fun doc => !p doc := List.filter_cons_of_pos (by simp [hp])
      rw [if_neg Bool.false_ne_true, eraseAt_map_succ, ih, hkept]

/-- Erasing the first of these positions is erasing the first accepted document. -/
theorem eraseAt_take_one (p : Fields → Bool) (docs : Collection) :
    eraseAt ((docs.findIdxs p).take 1) docs = docs.eraseP p := by
  induction docs with
  | nil => rfl
  | cons doc rest ih =>
    rw [findIdxs_cons_succ]
    cases hp : p doc with
    | true =>
      rw [if_pos rfl, List.take_succ_cons, List.take_zero, List.eraseP_cons_of_pos hp]
      rfl
    | false =>
      have hskipped : (doc :: rest).eraseP p = doc :: rest.eraseP p :=
        List.eraseP_cons_of_neg (by simp [hp])
      rw [if_neg Bool.false_ne_true, ← List.map_take, eraseAt_map_succ, ih, hskipped]

/-! ## Operations on a filter that can be judged -/

theorem length_findIdxs_eq (p : Fields → Bool) (docs : Collection) :
    (docs.findIdxs p).length = (docs.filter p).length := by
  rw [List.length_findIdxs, List.countP_eq_length_filter]

theorem find_of_accepted (h : Judged filter docs) :
    find filter (.obj []) docs = .ok (docs.filter (accepts filter)) := by
  have hpresent (found : Collection) : present (.obj []) found = .ok found := mapM_ok found
  rw [find, filterMeeting_of_judged h]
  exact hpresent _

theorem aggregate_count_of_judged (h : Judged filter docs) (name : String) :
    aggregate (.arr [.obj [("$match", filter)], .obj [("$count", .str name)]]) docs =
      .ok [[(name, .nat (docs.filter (accepts filter)).length)]] := by
  show (filterMeeting filter docs).bind _ = _
  rw [filterMeeting_of_judged h]
  rfl

theorem positions_of_judged (h : Judged filter docs) :
    positions filter docs = .ok (docs.findIdxs (accepts filter)) :=
  positionsFrom_of_judged h 0

theorem delete_many_of_judged (h : Judged filter docs) (supply : Supply) :
    delete true filter docs supply = reading (docs.filter fun doc => !accepts filter doc) supply
      (.ok [[("deletedCount", .nat (docs.filter (accepts filter)).length)]]) := by
  rw [delete, positions_of_judged h, ← eraseAt_findIdxs, ← length_findIdxs_eq]
  rfl

theorem delete_one_of_judged (h : Judged filter docs) (supply : Supply) :
    delete false filter docs supply = reading (docs.eraseP (accepts filter)) supply
      (.ok [[("deletedCount", .nat (min 1 (docs.filter (accepts filter)).length))]]) := by
  rw [delete, positions_of_judged h, ← eraseAt_take_one, ← length_findIdxs_eq, ← List.length_take]
  rfl

theorem delete_of_error {e : Error} (h : positions filter docs = .error e) (many : Bool)
    (supply : Supply) : delete many filter docs supply = reading docs supply (.error e) := by
  rw [delete, h]

/-- An update that inserts has found nothing, and says so. -/
theorem matchedCount_of_update_many {change options : Json} {supply : Supply} {rows : List Row}
    (h : Judged filter docs)
    (hrows : (update true filter change options docs supply).result = .ok rows) :
    ∃ row, rows = [row] ∧
      Fields.get? "matchedCount" row = some (.nat (docs.filter (accepts filter)).length) := by
  rw [update, positions_of_judged h] at hrows
  simp only [if_true] at hrows
  rw [← length_findIdxs_eq]
  split at hrows
  · rename_i hinserts
    obtain ⟨id, -, rfl⟩ := exists_of_map_eq_ok hrows
    have hnone : docs.findIdxs (accepts filter) = [] :=
      List.isEmpty_iff.mp (Bool.and_eq_true_iff.mp hinserts).1
    rw [hnone]
    exact ⟨_, rfl, rfl⟩
  · split at hrows
    · cases hrows
    · obtain rfl := Except.ok.inj hrows
      exact ⟨_, rfl, rfl⟩

/-- What is left after a removal is judged as before, and none of it is accepted. -/
theorem positions_rest (h : Judged filter docs) :
    positions filter (docs.filter fun doc => !accepts filter doc) = .ok [] := by
  have hrest : Judged filter (docs.filter fun doc => !accepts filter doc) :=
    fun doc hdoc => h doc (List.mem_of_mem_filter hdoc)
  rw [positions_of_judged hrest, Except.ok.injEq, List.findIdxs_eq_nil_iff]
  intro doc hdoc
  exact (Bool.not_eq_true' _).mp (List.mem_filter.mp hdoc).2

end Collection

namespace Store

open Collection (Judged)

/-- A find, a count, a pipeline that counts and the removals fail together, if the filter cannot
be judged on some document.  Otherwise the found documents are as many as all of these and every
successful update tell, the removal of all leaves the other documents in order and nothing to be
counted, and the removal of one erases the first of them. -/
theorem counts_agree (store : Store) (collection : String) (filter : Json) (rest : List Json)
    (supply : Supply) :
    let docs := store.documents collection
    let run (operation : Operation) (args : List Json) :=
      store.execute ⟨collection, operation, args⟩ supply
    let counting (name : String) : Json :=
      .arr [.obj [("$match", filter)], .obj [("$count", .str name)]]
    (∃ e, (run .countDocuments (filter :: rest)).1 = .error e ∧
        (run .find [filter, .obj []]).1 = .error e ∧
        (∀ name, (run .aggregate (counting name :: rest)).1 = .error e) ∧
        (run .deleteMany (filter :: rest)).1 = .error e ∧
        (run .deleteOne (filter :: rest)).1 = .error e) ∨
      Judged filter docs ∧ ∃ found n, found = docs.filter (accepts filter) ∧ n = found.length ∧
        (run .countDocuments (filter :: rest)).1 = .ok [[("count", .nat n)]] ∧
        (run .find [filter, .obj []]).1 = .ok found ∧
        (∀ name, (run .aggregate (counting name :: rest)).1 = .ok [[(name, .nat n)]]) ∧
        (∀ change options rows, (run .updateMany [filter, change, options]).1 = .ok rows →
          ∃ row, rows = [row] ∧ Fields.get? "matchedCount" row = some (.nat n)) ∧
        (run .deleteMany (filter :: rest)).1 = .ok [[("deletedCount", .nat n)]] ∧
        (run .deleteMany (filter :: rest)).2.1 =
          store.put collection (docs.filter fun doc => !accepts filter doc) ∧
        (∀ after, ((run .deleteMany (filter :: rest)).2.1.execute
            ⟨collection, .countDocuments, filter :: rest⟩ after).1 = .ok [[("count", .nat 0)]]) ∧
        (run .deleteOne (filter :: rest)).1 = .ok [[("deletedCount", .nat (min 1 n))]] ∧
        (run .deleteOne (filter :: rest)).2.1 =
          store.put collection (docs.eraseP (accepts filter)) := by
  intro docs run counting
  rcases Collection.judged_or_error filter docs with hjudged | ⟨e, hfound, hpositions⟩
  · have hcounted : (run .countDocuments (filter :: rest)).1 =
        .ok [[("count", .nat (docs.filter (accepts filter)).length)]] := by
      show (Collection.positions filter docs).map _ = _
      rw [Collection.positions_of_judged hjudged, ← Collection.length_findIdxs_eq]
      rfl
    have hdeleted := Collection.delete_many_of_judged hjudged supply
    have herased := Collection.delete_one_of_judged hjudged supply
    have hleft : (run .deleteMany (filter :: rest)).2.1 =
        store.put collection (docs.filter fun doc => !accepts filter doc) :=
      congrArg (put collection · store) (congrArg Outcome.documents hdeleted)
    refine .inr ⟨hjudged, _, _, rfl, rfl, hcounted, Collection.find_of_accepted hjudged,
      Collection.aggregate_count_of_judged hjudged,
      fun change options rows => Collection.matchedCount_of_update_many hjudged,
      congrArg Outcome.result hdeleted, hleft, fun after => ?_, congrArg Outcome.result herased,
      congrArg (put collection · store) (congrArg Outcome.documents herased)⟩
    rw [hleft]
    show (Collection.positions filter (documents _ collection)).map _ = _
    rw [documents_put, if_pos rfl, Collection.positions_rest hjudged]
    rfl
  · have hcounted : Collection.positions filter docs = .error e := hpositions 0
    refine .inl ⟨e, ?_, ?_, fun name => ?_,
      congrArg Outcome.result (Collection.delete_of_error hcounted true supply),
      congrArg Outcome.result (Collection.delete_of_error hcounted false supply)⟩
    · show (Collection.positions filter docs).map _ = _
      rw [hcounted]
      rfl
    · show (Collection.filterMeeting filter docs).bind _ = _
      rw [hfound]
      rfl
    · show (Collection.filterMeeting filter docs).bind _ = _
      rw [hfound]
      rfl

end Store
end QueryGateway.Document
