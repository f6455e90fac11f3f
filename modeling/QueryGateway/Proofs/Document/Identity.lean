import QueryGateway.Proofs.Dictionary
import QueryGateway.Proofs.Document.Write
import QueryGateway.Proofs.Json.Equality

/-!
Documents of a collection keep their own `_id`s.

`Collection.Identified` is what every single write keeps: each document has an `_id`, and
those that are no objects differ.  An `_id` that is an object is left out because updates
can write below it.  Hence it holds of every collection after any run of calls from the
empty store, whatever ids are generated (`ids_differ_after`).
-/

namespace QueryGateway.Document

open Json (Fields)

namespace Collection

/-- Each document has an `_id`, and the `_id`s that are no objects differ. -/
structure Identified (docs : Collection) : Prop where
  named : ∀ doc ∈ docs, (Json.obj doc).namesDiffer
  present : ∀ doc ∈ docs, (Fields.get? "_id" doc).isSome
  apart : (docs.filterMap plainId?).Pairwise fun a b => (a == b) = false

theorem identified_nil : Identified [] :=
  ⟨fun _ h => absurd h List.not_mem_nil, fun _ h => absurd h List.not_mem_nil, .nil⟩

theorem filterMap_set_of_eq {α β : Type} {f : α → Option β} {items : List α} {i : Nat}
    {before after : α} (hi : items[i]? = some before) (hf : f after = f before) :
    (items.set i after).filterMap f = items.filterMap f := by
  induction items generalizing i with
  | nil => rfl
  | cons item rest ih =>
    cases i with
    | zero =>
      rw [List.getElem?_cons_zero, Option.some.injEq] at hi
      rw [List.set_cons_zero, List.filterMap_cons, List.filterMap_cons, hf, hi]
    | succ i =>
      rw [List.getElem?_cons_succ] at hi
      rw [List.set_cons_succ, List.filterMap_cons, List.filterMap_cons, ih hi]

theorem Identified.append {docs : Collection} (h : docs.Identified) {doc : Fields} {id : Json}
    (hdoc : (Json.obj doc).namesDiffer) (hid : Fields.get? "_id" doc = some id)
    (hfresh : ∀ other ∈ docs, ∀ taken, Fields.get? "_id" other = some taken →
      (taken == id) = false) : Identified (docs ++ [doc]) := by
  refine ⟨List.forall_mem_append.mpr ⟨h.named, by simpa using hdoc⟩,
    List.forall_mem_append.mpr ⟨h.present, by simp [hid]⟩, ?_⟩
  rw [List.filterMap_append]
  refine List.pairwise_append.mpr ⟨h.apart, ?_, fun taken ht other ho => ?_⟩
  · cases hp : plainId? doc <;> simp [hp]
  · obtain ⟨first, hfirst, hplain⟩ := List.mem_filterMap.mp ht
    obtain ⟨last, hlast, hother⟩ := List.mem_filterMap.mp ho
    rw [List.mem_singleton.mp hlast] at hother
    have hoid := (Fields.plain?_eq_some_iff.mp hother).1
    rw [hid, Option.some.injEq] at hoid
    rw [← hoid]
    exact hfresh first hfirst taken (Fields.plain?_eq_some_iff.mp hplain).1

theorem Identified.replace {docs : Collection} (h : docs.Identified) {i : Nat}
    {before after : Fields} {update : Json} (hu : update.namesDiffer)
    (hi : docs[i]? = some before) (hafter : applyUpdate update before = .ok after) :
    Identified (docs.set i after) := by
  have hmem := List.mem_of_getElem? hi
  have hnamed := h.named before hmem
  refine ⟨fun doc hdoc => ?_, fun doc hdoc => ?_, ?_⟩
  · rcases List.mem_or_eq_of_mem_set hdoc with hold | rfl
    · exact h.named doc hold
    · exact applyUpdate_namesDiffer hu hnamed hafter
  · rcases List.mem_or_eq_of_mem_set hdoc with hold | rfl
    · exact h.present doc hold
    · exact isSome_id_applyUpdate hu hnamed hafter (h.present before hmem)
  · rw [filterMap_set_of_eq hi (plainId?_applyUpdate hu hnamed hafter)]
    exact h.apart

theorem Identified.sublist {docs docs' : Collection} (h : docs.Identified)
    (hsub : docs'.Sublist docs) : docs'.Identified :=
  ⟨fun doc hdoc => h.named doc (hsub.subset hdoc),
    fun doc hdoc => h.present doc (hsub.subset hdoc), h.apart.sublist (hsub.filterMap plainId?)⟩

theorem Identified.write {docs docs' : Collection} (h : docs.Identified)
    (hw : Write docs docs') : docs'.Identified := by
  cases hw with
  | append named identified fresh => exact h.append named identified fresh
  | replace named found updated => exact h.replace named found updated
  | erase i => exact h.sublist (List.eraseIdx_sublist docs i)

theorem Identified.writes {docs docs' : Collection} (h : docs.Identified)
    (hw : Writes docs docs') : docs'.Identified := by
  induction hw with
  | refl => exact h
  | tail _ hlast ih => exact ih.write hlast

theorem same_eq_false_of_plain {a b : Json} {fields : Fields} (ha : a.fields? = none)
    (hb : b = .obj fields) : (a == b) = false := by
  subst hb
  cases a with
  | obj others => cases ha
  | _ => rfl

/-- The `_id`s of two documents differ as soon as one of them is no object. -/
theorem Identified.ne {docs : Collection} (h : docs.Identified) {i j : Nat}
    (hi : i < docs.length) (hj : j < docs.length) (hij : i ≠ j) {a b : Json}
    (ha : Fields.get? "_id" docs[i] = some a) (hb : Fields.get? "_id" docs[j] = some b)
    (hplain : a.fields? = none) : (a == b) = false := by
  cases hobj : b.fields? with
  | some fields =>
    cases b with
    | obj others => exact same_eq_false_of_plain hplain rfl
    | _ => cases hobj
  | none =>
    have hpa := Fields.plain?_eq_some_iff.mpr ⟨ha, hplain⟩
    have hpb := Fields.plain?_eq_some_iff.mpr ⟨hb, hobj⟩
    have hpairs := List.pairwise_iff_getElem.mp (List.pairwise_filterMap.mp h.apart)
    rcases Nat.lt_or_gt_of_ne hij with hlt | hgt
    · exact hpairs i j hi hj hlt a hpa b hpb
    · have hba := hpairs j i hj hi hgt b hpb a hpa
      have hna := Json.namesDiffer_of_get? (h.named _ (List.getElem_mem hi)) ha
      have hnb := Json.namesDiffer_of_get? (h.named _ (List.getElem_mem hj)) hb
      exact (Json.same_comm hna hnb).trans hba

end Collection

/-! ## Runs of a store -/

namespace Store

theorem documents_put (store : Store) (collection name : String) (docs : Collection) :
    (store.put collection docs).documents name =
      if name = collection then docs else store.documents name := by
  rw [documents, put, Dictionary.get?_insert]
  by_cases h : name = collection
  · rw [if_pos h, if_pos h]
    rfl
  · rw [if_neg h, if_neg h]
    rfl

/-- A command writes its own collection. -/
theorem documents_execute (store : Store) (command : Command) (supply : Supply) (name : String) :
    (store.execute command supply).2.1.documents name =
      if name = command.collection then
        (Collection.run command (store.documents command.collection) supply).documents
      else store.documents name := by
  rw [execute, documents_put]

/-- A call of a store. -/
inductive Call where
  | seed (collection : String) (documents : List Json)
  | execute (command : Command)

namespace Call

/-- What a call leaves of a store and of the supply, whatever it answers. -/
def apply (state : Store × Supply) : Call → Store × Supply
  | .seed collection documents => (state.1.seed collection documents state.2).2
  | .execute command => (state.1.execute command state.2).2

/-- Whether the names of fields differ in everything that a call is given. -/
def namesDiffer : Call → Bool
  | .seed _ documents => documents.all Json.namesDiffer
  | .execute command => command.namesDiffer

end Call

/-- What calls leave, one after the other. -/
def after (calls : List Call) (state : Store × Supply) : Store × Supply :=
  calls.foldl Call.apply state

/-- Every collection of a store keeps its own `_id`s. -/
def Identified (store : Store) : Prop := ∀ name, (store.documents name).Identified

theorem identified_empty : Identified empty := fun _ => Collection.identified_nil

theorem Identified.put {store : Store} (h : store.Identified) (collection : String)
    {docs : Collection} (hw : Writes (store.documents collection) docs) :
    (store.put collection docs).Identified := by
  intro name
  rw [documents_put]
  by_cases hn : name = collection
  · rw [if_pos hn]
    exact (h collection).writes hw
  · rw [if_neg hn]
    exact h name

theorem Identified.apply {state : Store × Supply} (h : state.1.Identified) {call : Call}
    (hc : call.namesDiffer) : (call.apply state).1.Identified := by
  cases call with
  | seed collection documents =>
    exact h.put collection (Collection.writes_insertEach (List.all_eq_true.mp hc) _ _)
  | execute command => exact h.put command.collection (Collection.writes_run hc _ _)

theorem Identified.after {calls : List Call} (hc : ∀ call ∈ calls, call.namesDiffer)
    {state : Store × Supply} (h : state.1.Identified) : (after calls state).1.Identified := by
  induction calls generalizing state with
  | nil => exact h
  | cons call rest ih =>
    exact ih (fun c hm => hc c (List.mem_cons_of_mem _ hm))
      (h.apply (hc call List.mem_cons_self))

/-- After any calls of the empty store, succeeding or failing, every document has an `_id`,
and no two documents have equal ones that are no objects. -/
theorem ids_differ_after (calls : List Call) (supply : Supply)
    (hc : ∀ call ∈ calls, call.namesDiffer) (name : String) :
    let docs := (after calls (empty, supply)).1.documents name
    (∀ doc ∈ docs, ∃ id, Fields.get? "_id" doc = some id) ∧
      ∀ i j (hi : i < docs.length) (hj : j < docs.length), i ≠ j →
        ∀ a b, Fields.get? "_id" docs[i] = some a → Fields.get? "_id" docs[j] = some b →
          a.fields? = none → (a == b) = false := by
  have h : (after calls (empty, supply)).1.Identified := Identified.after hc identified_empty
  exact ⟨fun doc hdoc => Option.isSome_iff_exists.mp ((h name).present doc hdoc),
    fun i j hi hj hij a b ha hb hplain => (h name).ne hi hj hij ha hb hplain⟩

/-- A generated id that is taken and an update below a plain `_id` both fail. -/
theorem ids_differ_after_failures :
    let calls : List Call :=
      [.seed "users" [.obj [("_id", .str "a")], .obj [("name", .str "Ada")],
          .obj [("_id", .obj [("k", .nat 1)])]],
        .execute ⟨"users", .insertOne, [.obj [("name", .str "Bea")]]⟩,
        .execute ⟨"users", .updateMany, [.obj [], .obj [("$set", .obj [("_id.k", .nat 2)])]]⟩]
    let docs := (after calls (empty, ⟨fun _ => ⟨0⟩, fun _ => "b", 0⟩)).1.documents "users"
    (∀ call ∈ calls, call.namesDiffer) ∧ docs.length = 3 ∧
      (∀ doc ∈ docs, ∃ id, Fields.get? "_id" doc = some id) ∧
      ∀ i j (hi : i < docs.length) (hj : j < docs.length), i ≠ j →
        ∀ a b, Fields.get? "_id" docs[i] = some a → Fields.get? "_id" docs[j] = some b →
          a.fields? = none → (a == b) = false :=
  ⟨by decide, by decide, ids_differ_after _ _ (by decide) "users"⟩

end Store
end QueryGateway.Document
