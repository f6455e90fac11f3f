import QueryGateway.Proofs.Document.Identity
import QueryGateway.Proofs.Document.Matching
import QueryGateway.Proofs.Number.Exact
import QueryGateway.Proofs.Traversal

/-!
Finding documents by their `_id`.

An insert compares `_id`s as JSON values, a filter compares them as fields: numbers by their
nearest binary64 numbers, and an array by its items.  So an `_id` that is in nobody else's use
can still be taken for another one.  `Mistaken` says for which, and a filter on an `_id`
addresses its document alone exactly if no other document has one of these (`addresses_by_id`).
-/

namespace QueryGateway.Document

open Json (Fields)

/-- Strings, numbers and booleans. -/
def isScalar : Json → Bool
  | .str _ | .num _ | .bool _ => true
  | _ => false

/-- The filter on an `_id`. -/
def byId (id : Json) : Json := .obj [("_id", id)]

/-- The values that differ from an `_id` and that a filter on it takes for it: arrays with an
item that equals it, and numbers with the same nearest binary64 number. -/
inductive Mistaken (id : Json) : Json → Prop
  | item {items : List Json} {item : Json} (hitem : item ∈ items)
      (hequal : scalarEqual item id = true) : Mistaken id (.arr items)
  | number {m n : Number} (hid : id = .num n) (hdiffer : m.same n = false)
      (horder : m.order n = .eq) : Mistaken id (.num m)

theorem fields?_of_isScalar {id : Json} (h : isScalar id = true) : id.fields? = none := by
  cases id with
  | obj fields => cases h
  | _ => rfl

theorem namesDiffer_of_isScalar {id : Json} (h : isScalar id = true) : id.namesDiffer := by
  cases id with
  | arr items => cases h
  | obj fields => cases h
  | _ => rfl

theorem asksForValue_of_isScalar {id : Json} (h : isScalar id = true) :
    AsksForValue ("_id", id) := by
  have hplain : isOperatorKey "_id" = false := by decide
  refine ⟨hplain, fun fields hfields => ?_⟩
  rw [show id = .obj fields from hfields] at h
  cases h

theorem meets_byId {id : Json} (h : isScalar id = true) (doc : Fields) :
    meets (.obj doc) (byId id) = .ok (valuesEqual (Fields.get? "_id" doc) id) := by
  have hentries := List.forall_mem_singleton.mpr (asksForValue_of_isScalar h)
  have hplain : '.' ∉ "_id".toList := by decide
  rw [byId, meets, AsksForValue.meetsFields_eq hentries, List.all_cons, List.all_nil,
    Bool.and_true, Json.at?_of_not_mem hplain]

theorem valuesEqual_refl {value : Json} (h : value.namesDiffer) :
    valuesEqual (some value) value = true := by
  cases value with
  | num n =>
    show (n.order n == .eq) = true
    rw [(Number.order_eq_iff n n).mpr rfl]
    rfl
  | _ => exact Json.same_refl _ h

theorem valuesEqual_self {id : Json} (h : isScalar id = true) :
    valuesEqual (some id) id = true :=
  valuesEqual_refl (namesDiffer_of_isScalar h)

/-- A filter on an `_id` takes a different value for it exactly if the two can be mistaken. -/
theorem valuesEqual_iff_mistaken {id other : Json} (h : isScalar id = true)
    (hdiffer : (other == id) = false) :
    valuesEqual (some other) id = true ↔ Mistaken id other := by
  cases other with
  | arr items =>
    have hany : valuesEqual (some (.arr items)) id = items.any (scalarEqual · id) := by
      cases id with
      | arr others => cases h
      | _ => rfl
    rw [hany, List.any_eq_true]
    constructor
    · rintro ⟨item, hitem, hequal⟩
      exact .item hitem hequal
    · intro hmistaken
      cases hmistaken with
      | item hitem hequal => exact ⟨_, hitem, hequal⟩
  | num m =>
    cases id with
    | num n =>
      have horder : valuesEqual (some (.num m)) (.num n) = (m.order n == .eq) := rfl
      rw [horder, beq_iff_eq]
      constructor
      · exact .number rfl hdiffer
      · intro hmistaken
        cases hmistaken with
        | number hid _ horder =>
          cases hid
          exact horder
    | str _ | bool _ =>
      refine iff_of_false (fun hequal => ?_) (fun hmistaken => ?_)
      · cases hdiffer.symm.trans hequal
      · cases hmistaken with
        | number hid => cases hid
    | null | arr _ | obj _ => cases h
  | null | bool _ | str _ | obj _ =>
    refine iff_of_false (fun hequal => ?_) (fun hmistaken => ?_)
    · cases hdiffer.symm.trans hequal
    · cases hmistaken

/-! ## Addressing one document -/

namespace Collection

/-- Whether a filter addresses the document at a position alone: a find shows it, and an update
or a removal, of the first document or of all, touches no other. -/
structure Addresses (filter : Json) (docs : Collection) (i : Nat) (doc : Fields) : Prop where
  found : find filter (.obj []) docs = .ok [doc]
  updated : ∀ many change options supply after, applyUpdate change doc = .ok after →
    (update many filter change options docs supply).documents = docs.set i after
  deleted : ∀ many supply, (delete many filter docs supply).documents = docs.eraseIdx i

variable {filter : Json} {docs : Collection} {i : Nat} {doc : Fields}

theorem find_of_judged (h : Judged filter docs) :
    find filter (.obj []) docs = .ok (docs.filter (accepts filter)) := by
  rw [find, filterMeeting_of_judged h]
  exact mapM_ok _

theorem addresses_of_findIdxs (hjudged : Judged filter docs) (hat : docs[i]? = some doc)
    (h : docs.findIdxs (accepts filter) = [i]) : Addresses filter docs i doc := by
  have hplaces : positions filter docs = .ok [i] := positions_eq_ok_iff.mpr ⟨hjudged, h.symm⟩
  refine ⟨?_, fun many change options supply after hafter => ?_, fun many supply => ?_⟩
  · have hfound := filterMap_findIdxs_snd (accepts filter) docs
    rw [h, List.filterMap_cons, hat] at hfound
    rw [find_of_judged hjudged, ← hfound]
    rfl
  · have htargets : (if many = true then [i] else [i].take 1) = [i] := by cases many <;> rfl
    rw [update, hplaces]
    simp only [htargets, List.isEmpty_cons, Bool.false_and, Bool.false_eq_true, if_false,
      updateAt_singleton hat, hafter]
    rfl
  · rw [delete, hplaces]
    cases many <;> rfl

/-- A filter addresses a document alone exactly if it accepts that document alone. -/
theorem addresses_iff (hjudged : Judged filter docs) (hat : docs[i]? = some doc)
    (haccepts : accepts filter doc = true) :
    Addresses filter docs i doc ↔
      ∀ j other, j ≠ i → docs[j]? = some other → accepts filter other = false := by
  have honly : docs.findIdxs (accepts filter) = [i] ↔
      ∀ j other, j ≠ i → docs[j]? = some other → accepts filter other = false := by
    rw [findIdxs_eq_singleton_iff]
    exact and_iff_right ⟨doc, hat, haccepts⟩
  rw [← honly]
  refine ⟨fun h => ?_, addresses_of_findIdxs hjudged hat⟩
  have hfound := h.found
  rw [find_of_judged hjudged] at hfound
  have hlength : (docs.findIdxs (accepts filter)).length = 1 := by
    rw [List.length_findIdxs, List.countP_eq_length_filter, Except.ok.inj hfound]
    rfl
  obtain ⟨k, hk⟩ := List.length_eq_one_iff.mp hlength
  have hmem : i ∈ docs.findIdxs (accepts filter) := mem_findIdxs_iff.mpr ⟨doc, hat, haccepts⟩
  rw [hk, List.mem_singleton] at hmem
  rw [hk, hmem]

theorem judged_byId {id : Json} (h : isScalar id = true) (docs : Collection) :
    Judged (byId id) docs :=
  judged_of_meets fun doc _ => ⟨_, meets_byId h doc⟩

theorem accepts_byId {id : Json} (h : isScalar id = true) (doc : Fields) :
    accepts (byId id) doc = valuesEqual (Fields.get? "_id" doc) id :=
  accepts_of_meets (meets_byId h doc)

/-- Where `_id`s differ, a filter on one accepts the documents whose `_id` can be mistaken for
it, apart from its own. -/
theorem Identified.accepts_iff_mistaken (h : docs.Identified) {j : Nat} (hij : j ≠ i)
    {other : Fields} {id key : Json} (hi : docs[i]? = some doc) (hj : docs[j]? = some other)
    (hid : Fields.get? "_id" doc = some id) (hkey : Fields.get? "_id" other = some key)
    (hscalar : isScalar id = true) : accepts (byId id) other = true ↔ Mistaken id key := by
  obtain ⟨hilt, rfl⟩ := List.getElem?_eq_some_iff.mp hi
  obtain ⟨hjlt, rfl⟩ := List.getElem?_eq_some_iff.mp hj
  have hne := h.ne hilt hjlt hij.symm hid hkey (fields?_of_isScalar hscalar)
  have hdiffer : (key == id) = false := by
    have hnamed := Json.namesDiffer_of_get? (h.named _ (List.getElem_mem hilt)) hid
    have hnamed' := Json.namesDiffer_of_get? (h.named _ (List.getElem_mem hjlt)) hkey
    exact (Json.same_comm hnamed' hnamed).trans hne
  rw [accepts_byId hscalar, hkey]
  exact valuesEqual_iff_mistaken hscalar hdiffer

end Collection

namespace Store

open Collection (Addresses)

/-- After any calls of the empty store, a filter on the `_id` of a document, a string, a number
or a boolean, can be judged everywhere and accepts that document, and any other one exactly if
its `_id` can be mistaken for it.  So it addresses its document alone exactly if there is no such
other document. -/
theorem addresses_by_id (calls : List Call) (supply : Supply)
    (hc : ∀ call ∈ calls, call.namesDiffer) (name : String) :
    let docs := (after calls (empty, supply)).1.documents name
    ∀ i doc id, docs[i]? = some doc → Fields.get? "_id" doc = some id → isScalar id = true →
      meets (.obj doc) (byId id) = .ok true ∧
        (∀ j other key, j ≠ i → docs[j]? = some other → Fields.get? "_id" other = some key →
          ∃ taken, meets (.obj other) (byId id) = .ok taken ∧ (taken = true ↔ Mistaken id key)) ∧
        (Addresses (byId id) docs i doc ↔
          ∀ j other key, j ≠ i → docs[j]? = some other → Fields.get? "_id" other = some key →
            ¬Mistaken id key) := by
  intro docs i doc id hat hid hscalar
  have hidentified : docs.Identified := Identified.after hc identified_empty name
  have hjudged : docs.Judged (byId id) := Collection.judged_byId hscalar docs
  have hmeets : meets (.obj doc) (byId id) = .ok true := by
    rw [meets_byId hscalar, hid, valuesEqual_self hscalar]
  have hothers (j : Nat) (other : Fields) (key : Json) (hij : j ≠ i)
      (hj : docs[j]? = some other) (hkey : Fields.get? "_id" other = some key) :
      accepts (byId id) other = true ↔ Mistaken id key :=
    hidentified.accepts_iff_mistaken hij hat hj hid hkey hscalar
  refine ⟨hmeets, fun j other key hij hj hkey => ?_, ?_⟩
  · exact ⟨_, hjudged other (List.mem_of_getElem? hj), hothers j other key hij hj hkey⟩
  · rw [Collection.addresses_iff hjudged hat (accepts_of_meets hmeets)]
    constructor
    · intro h j other key hij hj hkey hmistaken
      have haccepts := (hothers j other key hij hj hkey).mpr hmistaken
      rw [h j other hij hj] at haccepts
      cases haccepts
    · intro h j other hij hj
      obtain ⟨key, hkey⟩ :=
        Option.isSome_iff_exists.mp (hidentified.present other (List.mem_of_getElem? hj))
      refine Bool.eq_false_iff.mpr fun haccepts => h j other key hij hj hkey ?_
      exact (hothers j other key hij hj hkey).mp haccepts

/-- Two neighbouring integers of more than 53 bits: the second `_id` addresses the first document
too. -/
theorem addresses_by_id_large :
    let first : Fields := [("_id", .int 9007199254740992)]
    let second : Fields := [("_id", .int 9007199254740993)]
    let calls : List Call := [.seed "users" [.obj first, .obj second]]
    let supply : Supply := ⟨fun _ => ⟨0⟩, fun _ => "b", 0⟩
    let docs := (after calls (empty, supply)).1.documents "users"
    (∀ call ∈ calls, call.namesDiffer) ∧ docs = [first, second] ∧
      Mistaken (.int 9007199254740993) (.int 9007199254740992) ∧
      ¬Addresses (byId (.int 9007199254740993)) docs 1 second := by
  intro first second calls supply docs
  have hc : ∀ call ∈ calls, call.namesDiffer := by decide
  have hfirst : docs[0]? = some first := rfl
  have hsecond : docs[1]? = some second := rfl
  have hmistaken : Mistaken (.int 9007199254740993) (.int 9007199254740992) :=
    .number rfl rfl (by decide +kernel)
  obtain ⟨-, -, haddresses⟩ := addresses_by_id calls supply hc "users" 1 second _ hsecond rfl rfl
  refine ⟨hc, rfl, hmistaken, fun h => ?_⟩
  exact haddresses.mp h 0 first _ (by decide) hfirst rfl hmistaken

end Store
end QueryGateway.Document
