import QueryGateway.Proofs.Document.Absence
import QueryGateway.Proofs.Document.Below
import QueryGateway.Proofs.Document.Key
import QueryGateway.Proofs.Document.Targets

/-!
What an upsert inserts.

The new document starts as the entries of the filter that ask for the value of a field, without
the dotted ones, and the update then works on it.  An update at paths apart from those of the
filter leaves the values there (`at?_of_upserted`).  So the filter judges the new document as it
judges the entries that it started from, and where no path is dotted the document meets the
filter, and the same upsert inserts no second one (`upserted_meets_filter`).
-/

namespace QueryGateway

namespace Document

open Json (Fields Apart)

/-! ## The start of an upsert -/

theorem AsksForValue.passesToUpsert_iff {entry : String × Json} (h : AsksForValue entry) :
    Collection.passesToUpsert entry.1 entry.2 = true ↔ '.' ∉ entry.1.toList := by
  have hcondition : ((entry.2.fields?).any fun fields =>
      fields.any fun field => isOperatorKey field.1) = false := by
    cases hvalue : entry.2 with
    | obj fields =>
      show fields.any (fun field => isOperatorKey field.1) = false
      rw [List.any_eq_false]
      intro field hfield
      rw [h.condition fields hvalue field hfield]
      exact Bool.false_ne_true
    | _ => rfl
  simp [Collection.passesToUpsert, h.path, hcondition]

namespace Collection

variable {filter change options : Json} {fields doc : Fields} {docs : Collection}
  {supply : Supply}

theorem at?_upsertSeed (hfilter : (Json.obj fields).namesDiffer) {entry : String × Json}
    (hentry : entry ∈ fields) (h : AsksForValue entry) (hplain : '.' ∉ entry.1.toList) :
    (Json.obj (upsertSeed (.obj fields))).at? entry.1 = some entry.2 := by
  have hn : (Fields.names (upsertSeed (.obj fields))).Nodup :=
    (Json.namesDiffer_obj.mp (namesDiffer_upsertSeed hfilter)).1
  have hmem : entry ∈ upsertSeed (.obj fields) :=
    List.mem_filter.mpr ⟨hentry, h.passesToUpsert_iff.mpr hplain⟩
  rw [Json.at?_of_not_mem hplain]
  exact Fields.get?_eq_some_of_mem hn hmem

/-- A filter without dotted paths accepts the document that an upsert starts from. -/
theorem meets_upsertSeed (hfilter : (Json.obj fields).namesDiffer)
    (hvalues : ∀ entry ∈ fields, AsksForValue entry)
    (hplain : ∀ entry ∈ fields, '.' ∉ entry.1.toList) :
    meets (.obj (upsertSeed (.obj fields))) (.obj fields) = .ok true := by
  rw [meets, AsksForValue.meetsFields_eq hvalues]
  refine congrArg Except.ok (List.all_eq_true.mpr fun entry hentry => ?_)
  rw [at?_upsertSeed hfilter hentry (hvalues entry hentry) (hplain entry hentry)]
  exact valuesEqual_refl ((Json.namesDiffer_obj.mp hfilter).2 entry hentry)

/-! ## The inserted document -/

/-- What an upsert makes of its start, with the `_id` that was kept away from the update. -/
def restored (filter : Json) (made : Fields) : Fields :=
  (Fields.get? "_id" (upsertSeed filter)).elim made fun id => Fields.set "_id" id made

theorem upsert_cases (filter change : Json) (docs : Collection) (supply : Supply) :
    (upsert filter change docs supply).documents = docs ∨
      ∃ made, applyUpdate change (Fields.erase "_id" (upsertSeed filter)) = .ok made ∧
        (upsert filter change docs supply).documents =
          docs ++ [(identify (restored filter made) supply).2.1] := by
  simp only [upsert]
  cases hmade : applyUpdate change (Fields.erase "_id" (upsertSeed filter)) with
  | error e => exact .inl rfl
  | ok made =>
    simp only
    rw [← restored, insert_obj]
    split
    · exact .inl rfl
    · exact .inr ⟨made, rfl, rfl⟩

theorem get?_identify_of_ne {key : String} (h : key ≠ "_id") (given : Fields) (supply : Supply) :
    Fields.get? key (identify given supply).2.1 = Fields.get? key given := by
  rw [identify]
  cases Fields.get? "_id" given with
  | some id => rfl
  | none => exact Fields.get?_set_of_ne h _ given

theorem get?_restored_of_ne {key : String} (h : key ≠ "_id") (filter : Json) (made : Fields) :
    Fields.get? key (restored filter made) = Fields.get? key made := by
  rw [restored]
  cases Fields.get? "_id" (upsertSeed filter) with
  | none => rfl
  | some id => exact Fields.get?_set_of_ne h id made

theorem get?_id_of_upserted {id : Json} (h : Fields.get? "_id" (upsertSeed filter) = some id)
    (made : Fields) (supply : Supply) :
    Fields.get? "_id" (identify (restored filter made) supply).2.1 = some id := by
  have hrestored : Fields.get? "_id" (restored filter made) = some id := by
    rw [restored, h]
    exact Fields.get?_set_self "_id" id made
  rw [identify, hrestored]
  exact hrestored

/-- Nothing is found below an `_id` that is generated. -/
theorem walk_below_id {segment : String} {rest : List String} {given : Fields}
    (h : (Json.obj given).walk ("_id" :: segment :: rest) = none) (supply : Supply) :
    (Json.obj (identify given supply).2.1).walk ("_id" :: segment :: rest) = none := by
  rw [identify]
  cases hid : Fields.get? "_id" given with
  | some id => exact h
  | none => rw [Json.walk_obj, Fields.get?_set_self]; rfl

/-- An update at paths apart from one leaves what a document that is upserted holds there. -/
theorem at?_of_upserted (hfilter : filter.namesDiffer) (hchange : change.namesDiffer)
    {path : String} (hapart : ∀ step ∈ steps change, Apart step.path path)
    (hid : path = "_id" → Fields.get? "_id" (upsertSeed filter) ≠ none) {made : Fields}
    (h : applyUpdate change (Fields.erase "_id" (upsertSeed filter)) = .ok made)
    (supply : Supply) :
    (Json.obj (identify (restored filter made) supply).2.1).at? path =
      (Json.obj (upsertSeed filter)).at? path := by
  have hseed := namesDiffer_upsertSeed hfilter
  have hkept : (Json.obj made).at? path =
      (Json.obj (Fields.erase "_id" (upsertSeed filter))).at? path :=
    at?_applyUpdate_of_apart hchange hapart (Fields.namesDiffer_erase hseed "_id") h
  obtain ⟨name, rest, hsegments⟩ := List.exists_cons_of_ne_nil (Json.segments_ne_nil path)
  rw [Json.at?, Json.at?, hsegments] at hkept ⊢
  by_cases hname : name = "_id"
  · subst hname
    cases hold : Fields.get? "_id" (upsertSeed filter) with
    | some id => rw [Json.walk_obj, Json.walk_obj, get?_id_of_upserted hold, hold]
    | none =>
      -- The path leads below the `_id`, and nothing is there.
      rw [Json.walk_obj _ (upsertSeed filter), hold]
      rw [Json.walk_obj _ (Fields.erase "_id" _), Fields.get?_erase_eq_none hold] at hkept
      cases rest with
      | nil => exact absurd hold (hid (Json.eq_of_segments_eq_singleton hsegments))
      | cons segment rest =>
        rw [restored, hold]
        exact walk_below_id hkept supply
  · have hn := (Json.namesDiffer_obj.mp hseed).1
    rw [Json.walk_obj, Json.walk_obj, Fields.get?_erase_of_ne hn hname] at hkept
    rw [Json.walk_obj, Json.walk_obj, get?_identify_of_ne hname, get?_restored_of_ne hname, hkept]

/-- A filter judges a document that is upserted as it judges the one that the upsert started
from. -/
theorem meets_upserted (hfilter : (Json.obj fields).namesDiffer) (hchange : change.namesDiffer)
    (hvalues : ∀ entry ∈ fields, AsksForValue entry)
    (hapart : ∀ step ∈ steps change, ∀ entry ∈ fields, Apart step.path entry.1) {made : Fields}
    (h : applyUpdate change (Fields.erase "_id" (upsertSeed (.obj fields))) = .ok made)
    (supply : Supply) :
    meets (.obj (identify (restored (.obj fields) made) supply).2.1) (.obj fields) =
      meets (.obj (upsertSeed (.obj fields))) (.obj fields) := by
  rw [meets, meets, AsksForValue.meetsFields_eq hvalues, AsksForValue.meetsFields_eq hvalues,
    Except.ok.injEq, Bool.eq_iff_iff, List.all_eq_true, List.all_eq_true]
  refine forall₂_congr fun entry hentry => ?_
  have hid : entry.1 = "_id" → Fields.get? "_id" (upsertSeed (.obj fields)) ≠ none := by
    intro hpath
    have hplain : '.' ∉ entry.1.toList := by
      rw [hpath]
      decide
    have hat := at?_upsertSeed hfilter hentry (hvalues entry hentry) hplain
    rw [Json.at?_of_not_mem hplain, hpath] at hat
    rw [hat]
    exact Option.some_ne_none _
  rw [at?_of_upserted hfilter hchange (fun step hstep => hapart step hstep entry hentry) hid h]

/-! ## Inserting and repeating -/

/-- The operations that insert a document where they find none to update. -/
def upserting : List Operation := [.updateOne, .updateMany, .findOneAndUpdate]

/-- Whether an outcome has inserted what an upsert makes, where the filter accepts nothing, or has
left the number of documents. -/
def InsertsOrKeeps (filter change : Json) (docs : Collection) (supply : Supply)
    (after : Collection) : Prop :=
  positions filter docs = .ok [] ∧ after = (upsert filter change docs supply).documents ∨
    after.length = docs.length

theorem insertsOrKeeps_update (many : Bool) (filter change options : Json) (docs : Collection)
    (supply : Supply) : InsertsOrKeeps filter change docs supply
      (update many filter change options docs supply).documents := by
  have hupdates := updates_update many filter change options docs supply
  generalize update many filter change options docs supply = outcome at hupdates ⊢
  cases hupdates with
  | unjudged unjudged => exact .inr rfl
  | upserted judged unmatched requested =>
    refine .inl ⟨positions_eq_ok_iff.mpr ⟨judged, ?_⟩, rfl⟩
    exact (chosen_eq_nil_iff.mp unmatched).symm
  | refused judged refused => exact .inr rfl
  | written judged written =>
    obtain ⟨hupdated, -⟩ := updatedAt_of_updateAt (nodup_chosen many filter docs) written
    exact .inr hupdated.length

theorem insertsOrKeeps_findOneAndUpdate (filter change options : Json) (docs : Collection)
    (supply : Supply) : InsertsOrKeeps filter change docs supply
      (findOneAndUpdate filter change options docs supply).documents := by
  simp only [findOneAndUpdate]
  cases hfirst : firstPosition filter options docs with
  | error e => exact .inr rfl
  | ok first =>
    cases first with
    | none =>
      simp only
      split
      · exact .inl ⟨(positions_of_firstPosition hfirst).mpr rfl, rfl⟩
      · exact .inr rfl
    | some i =>
      simp only
      cases docs[i]? with
      | none => exact .inr rfl
      | some before =>
        simp only
        cases applyUpdate change before with
        | error e => exact .inr rfl
        | ok after => exact .inr List.length_set

theorem insertsOrKeeps_run {operation : Operation} (h : operation ∈ upserting)
    (collection : String) (filter change options : Json) (docs : Collection) (supply : Supply) :
    InsertsOrKeeps filter change docs supply
      (run ⟨collection, operation, [filter, change, options]⟩ docs supply).documents := by
  rw [upserting, List.mem_cons, List.mem_cons, List.mem_singleton] at h
  rcases h with rfl | rfl | rfl
  · exact insertsOrKeeps_update false filter change options docs supply
  · exact insertsOrKeeps_update true filter change options docs supply
  · exact insertsOrKeeps_findOneAndUpdate filter change options docs supply

theorem positions_ne_nil (hmem : doc ∈ docs) (h : meets (.obj doc) filter = .ok true) :
    positions filter docs ≠ .ok [] := by
  intro hnone
  obtain ⟨-, hfound⟩ := positions_eq_ok_iff.mp hnone
  obtain ⟨i, hat⟩ := List.mem_iff_getElem?.mp hmem
  have hi := mem_findIdxs_iff.mpr ⟨doc, hat, accepts_of_meets h⟩
  rw [← hfound] at hi
  cases hi

end Collection

namespace Store

open Collection (upserting upsertSeed)

/-- A document that is upserted at paths apart from those of the filter is judged by the filter
like the entries that pass to it.  So it meets a filter without dotted paths, and one that meets
its filter is found when the upsert is repeated: no second one is inserted. -/
theorem upserted_meets_filter {store : Store} {operation : Operation}
    (hoperation : operation ∈ upserting) {collection : String} {fields : Fields}
    {change options : Json} {supply : Supply} (hfilter : (Json.obj fields).namesDiffer)
    (hchange : change.namesDiffer) (hvalues : ∀ entry ∈ fields, AsksForValue entry)
    (hapart : ∀ step ∈ steps change, ∀ entry ∈ fields, Apart step.path entry.1)
    (hinserted : (store.documents collection).length <
      ((store.execute ⟨collection, operation, [.obj fields, change, options]⟩
        supply).2.1.documents collection).length) :
    let command : Command := ⟨collection, operation, [.obj fields, change, options]⟩
    let after := (store.execute command supply).2.1
    ∃ doc, after.documents collection = store.documents collection ++ [doc] ∧
      meets (.obj doc) (.obj fields) = meets (.obj (upsertSeed (.obj fields))) (.obj fields) ∧
      ((∀ entry ∈ fields, '.' ∉ entry.1.toList) → meets (.obj doc) (.obj fields) = .ok true) ∧
      (meets (.obj doc) (.obj fields) = .ok true → ∀ supply',
        ((after.execute command supply').2.1.documents collection).length =
          (after.documents collection).length) := by
  intro command after
  have hdocuments (s : Store) (supply : Supply) :
      (s.execute command supply).2.1.documents collection =
        (Collection.run command (s.documents collection) supply).documents := by
    rw [documents_execute, if_pos rfl]
  have hruns (docs : Collection) (supply : Supply) :=
    Collection.insertsOrKeeps_run hoperation collection (.obj fields) change options docs supply
  rw [hdocuments] at hinserted
  obtain ⟨-, hupserted⟩ := (hruns _ supply).resolve_right (Nat.ne_of_gt hinserted)
  rw [hupserted] at hinserted
  rcases Collection.upsert_cases (.obj fields) change (store.documents collection) supply with
    hkept | ⟨made, hmade, happended⟩
  · rw [hkept] at hinserted
    exact absurd hinserted (Nat.lt_irrefl _)
  · have hjudged := Collection.meets_upserted hfilter hchange hvalues hapart hmade supply
    have hafter := (hdocuments store supply).trans (hupserted.trans happended)
    generalize (Collection.identify _ supply).2.1 = doc at hjudged hafter
    refine ⟨doc, hafter, hjudged, fun hplain => ?_, fun hmeets supply' => ?_⟩
    · rw [hjudged, Collection.meets_upsertSeed hfilter hvalues hplain]
    · rw [hdocuments]
      refine (hruns _ supply').resolve_left fun hnone => ?_
      have hmem : doc ∈ after.documents collection := by
        rw [hafter]
        exact List.mem_append_right _ List.mem_cons_self
      exact Collection.positions_ne_nil hmem hmeets hnone.1

/-- The document that the filter describes is inserted once. -/
theorem upserted_meets_filter_guest :
    let fields : Fields := [("role", .str "guest"), ("tags", .arr [.str "new", .null])]
    let change : Json := .obj [("$set", .obj [("address.city", .str "Rome")])]
    let command : Command :=
      ⟨"users", .updateOne, [.obj fields, change, .obj [("upsert", .bool true)]]⟩
    let after := (empty.execute command ⟨fun _ => ⟨0⟩, fun _ => "u1", 0⟩).2.1
    let doc : Fields := [("role", .str "guest"), ("tags", .arr [.str "new", .null]),
      ("address", .obj [("city", .str "Rome")]), ("_id", .str "u1")]
    (Json.obj fields).namesDiffer ∧ change.namesDiffer ∧ (∀ entry ∈ fields, AsksForValue entry) ∧
      (∀ step ∈ steps change, ∀ entry ∈ fields, Apart step.path entry.1) ∧
      after.documents "users" = [doc] ∧ meets (.obj doc) (.obj fields) = .ok true ∧
      ∀ supply, ((after.execute command supply).2.1.documents "users").length = 1 := by
  intro fields change command after doc
  have hfilter : (Json.obj fields).namesDiffer := by decide
  have hchange : change.namesDiffer := by decide
  have hvalues : ∀ entry ∈ fields, AsksForValue entry :=
    List.forall_mem_cons.mpr ⟨⟨by decide, nofun⟩, List.forall_mem_singleton.mpr ⟨by decide, nofun⟩⟩
  have hapart : ∀ step ∈ steps change, ∀ entry ∈ fields, Apart step.path entry.1 := by decide
  have hdocs : after.documents "users" = [doc] := rfl
  have hinserted : (empty.documents "users").length < (after.documents "users").length := by
    rw [hdocs]
    exact Nat.zero_lt_one
  obtain ⟨made, hmade, -, hmeets, hrepeated⟩ :=
    upserted_meets_filter (by decide) hfilter hchange hvalues hapart hinserted
  obtain rfl : doc = made := List.singleton_injective (hdocs.symm.trans hmade)
  have hmet := hmeets (by decide)
  exact ⟨hfilter, hchange, hvalues, hapart, hdocs, hmet, hrepeated hmet⟩

/-- An entry with a dotted path does not pass to the new document.  Neither does a date, nor an
object with an operator among its keys.  So the filter rejects what its upsert has inserted, and
the same upsert inserts again. -/
theorem upserted_again_nested :
    let change : Json := .obj [("$set", .obj [("name", .str "Ada")])]
    let supply : Supply := ⟨fun _ => ⟨0⟩, fun n => if n = 0 then "u1" else "u2", 0⟩
    let first : Fields := [("name", .str "Ada"), ("_id", .str "u1")]
    let second : Fields := [("name", .str "Ada"), ("_id", .str "u2")]
    ∀ entry ∈ ([("address.city", .str "Rome"),
        ("born", .obj [("$date", .str "1815-12-10T00:00:00Z")]),
        ("size", .obj [("$w", .nat 1), ("h", .nat 2)])] : Fields),
      let command : Command :=
        ⟨"users", .updateOne, [.obj [entry], change, .obj [("upsert", .bool true)]]⟩
      let once := empty.execute command supply
      let twice := once.2.1.execute command once.2.2
      isOperatorKey entry.1 = false ∧
        (∀ fields, entry.2 = .obj fields → isOperatorObject fields = false) ∧
        (∀ step ∈ steps change, Apart step.path entry.1) ∧
        once.2.1.documents "users" = [first] ∧ meets (.obj first) (.obj [entry]) = .ok false ∧
        twice.2.1.documents "users" = [first, second] := by
  intro change supply first second entry hentry
  rw [List.mem_cons, List.mem_cons, List.mem_singleton] at hentry
  rcases hentry with rfl | rfl | rfl
  · exact ⟨by decide, nofun, by decide, rfl, rfl, rfl⟩
  · refine ⟨by decide, fun fields hfields => ?_, by decide, rfl, rfl, rfl⟩
    rw [← Json.obj.inj hfields]
    decide
  · refine ⟨by decide, fun fields hfields => ?_, by decide, rfl, rfl, rfl⟩
    rw [← Json.obj.inj hfields]
    decide

end Store
end Document
end QueryGateway
