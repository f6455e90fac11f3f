import Mathlib.Logic.Relation
import QueryGateway.Document.Store
import QueryGateway.Proofs.Document.Update

/-!
What a command can do to a collection.

There are three ways to write: a document is appended whose `_id` is not in use, the
document at a position is replaced by what an update makes of it, and the document at a
position goes.  Whatever a command does, and whether it succeeds or fails, it does by such
writes one after the other (`writes_run`).
-/

namespace QueryGateway.Document

open Json (Fields)

/-- A single write to a collection. -/
inductive Write : Collection → Collection → Prop
  | append {docs : Collection} {doc : Fields} {id : Json} (named : (Json.obj doc).namesDiffer)
      (identified : Fields.get? "_id" doc = some id)
      (fresh : ∀ other ∈ docs, ∀ taken, Fields.get? "_id" other = some taken →
        (taken == id) = false) :
      Write docs (docs ++ [doc])
  | replace {docs : Collection} {i : Nat} {before after : Fields} {update : Json}
      (named : update.namesDiffer) (found : docs[i]? = some before)
      (updated : applyUpdate update before = .ok after) :
      Write docs (docs.set i after)
  | erase (docs : Collection) (i : Nat) : Write docs (docs.eraseIdx i)

/-- Writes one after the other. -/
abbrev Writes : Collection → Collection → Prop := Relation.ReflTransGen Write

namespace Collection

/-- A document with its `_id`, which is generated if it has none. -/
def identify (given : Fields) (supply : Supply) : Json × Fields × Supply :=
  match Fields.get? "_id" given with
  | some id => (id, given, supply)
  | none => (.str supply.id.1, Fields.set "_id" (.str supply.id.1) given, supply.id.2)

/-- Whether an `_id` is in use. -/
def holds (docs : Collection) (id : Json) : Bool :=
  docs.any fun doc => (Fields.get? "_id" doc).any (· == id)

theorem insert_obj (given : Fields) (docs : Collection) (supply : Supply) :
    insert (.obj given) docs supply =
      if docs.holds (identify given supply).1 then
        { result := .error (.duplicateKey (identify given supply).1), documents := docs,
          supply := (identify given supply).2.2 }
      else
        { result := .ok (identify given supply).1,
          documents := docs ++ [(identify given supply).2.1],
          supply := (identify given supply).2.2 } := by
  rw [insert, identify]
  cases Fields.get? "_id" given <;> rfl

theorem get?_id_identify (given : Fields) (supply : Supply) :
    Fields.get? "_id" (identify given supply).2.1 = some (identify given supply).1 := by
  rw [identify]
  cases hg : Fields.get? "_id" given with
  | some id => exact hg
  | none => exact Fields.get?_set_self _ _ _

theorem namesDiffer_identify {given : Fields} (hg : (Json.obj given).namesDiffer)
    (supply : Supply) : (Json.obj (identify given supply).2.1).namesDiffer := by
  rw [identify]
  cases Fields.get? "_id" given with
  | some id => exact hg
  | none => exact Fields.namesDiffer_set hg "_id" rfl

theorem ne_of_not_holds {docs : Collection} {id : Json} (h : ¬docs.holds id = true)
    {doc : Fields} (hm : doc ∈ docs) {taken : Json} (ht : Fields.get? "_id" doc = some taken) :
    (taken == id) = false := by
  rw [holds, List.any_eq_true] at h
  refine Bool.eq_false_iff.mpr fun hsame => h ⟨doc, hm, ?_⟩
  rw [ht]
  exact hsame

theorem writes_insert {document : Json} (hd : document.namesDiffer) (docs : Collection)
    (supply : Supply) : Writes docs (insert document docs supply).documents := by
  cases document with
  | obj given =>
    rw [insert_obj]
    by_cases h : docs.holds (identify given supply).1 = true
    · rw [if_pos h]
    · rw [if_neg h]
      exact .single (.append (namesDiffer_identify hd supply) (get?_id_identify given supply)
        fun other hm taken => ne_of_not_holds h hm)
  | _ => exact .refl

theorem writes_insertEach {documents : List Json} (hd : ∀ d ∈ documents, d.namesDiffer)
    (docs : Collection) (supply : Supply) :
    Writes docs (insertEach documents docs supply).documents := by
  induction documents generalizing docs supply with
  | nil => exact .refl
  | cons document rest ih =>
    have hfirst := writes_insert (hd document List.mem_cons_self) docs supply
    rw [insertEach]
    split
    · exact hfirst
    · exact hfirst.trans (ih (fun d hm => hd d (List.mem_cons_of_mem _ hm)) _ _)

theorem writes_insertMany {documents : List Json} (hd : ∀ d ∈ documents, d.namesDiffer)
    (docs : Collection) (supply : Supply) :
    Writes docs (insertMany documents docs supply).documents := by
  rw [insertMany]
  split
  · exact writes_insertEach hd docs supply
  · exact .refl

theorem writes_updateAt {update : Json} (hu : update.namesDiffer) {targets : List Nat}
    {docs docs' : Collection} {count : Nat}
    (h : updateAt update targets docs = .ok (docs', count)) : Writes docs docs' := by
  induction targets generalizing docs docs' count with
  | nil =>
    obtain ⟨rfl, -⟩ := Prod.mk.inj (Except.ok.inj h)
    exact .refl
  | cons i rest ih =>
    rw [updateAt] at h
    cases hi : docs[i]? with
    | none =>
      rw [hi] at h
      exact ih h
    | some doc =>
      rw [hi] at h
      simp only at h
      cases hafter : applyUpdate update doc with
      | error e => simp [hafter] at h
      | ok after =>
        rw [hafter] at h
        simp only at h
        cases hrest : updateAt update rest (docs.set i after) with
        | error e => simp [hrest, Except.map] at h
        | ok p =>
          rw [hrest] at h
          obtain ⟨rfl, -⟩ := Prod.mk.inj (Except.ok.inj h)
          exact .head (.replace hu hi hafter) (ih hrest)

theorem writes_eraseAt (targets : List Nat) (docs : Collection) :
    Writes docs (eraseAt targets docs) := by
  induction targets with
  | nil => exact .refl
  | cons i rest ih => exact ih.tail (.erase _ i)

theorem namesDiffer_upsertSeed {filter : Json} (hf : filter.namesDiffer) :
    (Json.obj (upsertSeed filter)).namesDiffer := by
  rw [upsertSeed]
  cases filter with
  | obj fields => exact Fields.namesDiffer_sublist List.filter_sublist hf
  | _ => exact Fields.namesDiffer_nil

theorem writes_upsert {filter update : Json} (hf : filter.namesDiffer)
    (hu : update.namesDiffer) (docs : Collection) (supply : Supply) :
    Writes docs (upsert filter update docs supply).documents := by
  have hseed := namesDiffer_upsertSeed hf
  simp only [upsert]
  split
  · exact .refl
  · rename_i made hmade
    have hmade' := applyUpdate_namesDiffer hu (Fields.namesDiffer_erase hseed "_id") hmade
    refine writes_insert ?_ docs supply
    cases hid : Fields.get? "_id" (upsertSeed filter) with
    | none => exact hmade'
    | some id => exact Fields.namesDiffer_set hmade' "_id" (Json.namesDiffer_of_get? hseed hid)

theorem writes_update {filter change : Json} (hf : filter.namesDiffer)
    (hu : change.namesDiffer) (many : Bool) (options : Json) (docs : Collection)
    (supply : Supply) : Writes docs (update many filter change options docs supply).documents := by
  rw [update]
  cases positions filter docs with
  | error e => exact .refl
  | ok found =>
    simp only
    generalize (if many then found else found.take 1) = targets
    by_cases hupsert : (targets.isEmpty && upsertRequested options) = true
    · rw [if_pos hupsert]
      exact writes_upsert hf hu docs supply
    · rw [if_neg hupsert]
      cases hafter : updateAt change targets docs with
      | error e => exact .refl
      | ok p => exact writes_updateAt hu hafter

theorem writes_delete (many : Bool) (filter : Json) (docs : Collection) (supply : Supply) :
    Writes docs (delete many filter docs supply).documents := by
  rw [delete]
  split
  · exact .refl
  · exact writes_eraseAt _ docs

theorem writes_findOneAndUpdate {filter change : Json} (hf : filter.namesDiffer)
    (hu : change.namesDiffer) (options : Json) (docs : Collection) (supply : Supply) :
    Writes docs (findOneAndUpdate filter change options docs supply).documents := by
  simp only [findOneAndUpdate]
  split
  · exact .refl
  · split
    · exact writes_upsert hf hu docs supply
    · exact .refl
  · split
    · exact .refl
    · rename_i before hbefore
      split
      · exact .refl
      · rename_i after hafter
        exact .single (.replace hu hbefore hafter)

theorem writes_findOneAndDelete (filter options : Json) (docs : Collection)
    (supply : Supply) : Writes docs (findOneAndDelete filter options docs supply).documents := by
  rw [findOneAndDelete]
  split
  · exact .refl
  · exact .refl
  · split
    · exact .refl
    · exact .single (.erase docs _)

end Collection

namespace Command

/-- Whether the names of fields differ in all arguments. -/
def namesDiffer (c : Command) : Bool := c.args.all Json.namesDiffer

theorem arg_namesDiffer {c : Command} (hc : c.namesDiffer) (i : Nat) :
    (c.arg i).namesDiffer := by
  rw [arg]
  cases hi : c.args[i]? with
  | none => rfl
  | some a => exact List.all_eq_true.mp hc a (List.mem_of_getElem? hi)

end Command

/-- A command changes its collection by writes only, even when it fails. -/
theorem Collection.writes_run {c : Command} (hc : c.namesDiffer) (docs : Collection)
    (supply : Supply) : Writes docs (run c docs supply).documents := by
  have harg := Command.arg_namesDiffer hc
  rw [run]
  cases c.operation with
  | find => exact .refl
  | findOne => exact .refl
  | countDocuments => exact .refl
  | insertOne => exact writes_insert (harg 0) docs supply
  | insertMany =>
    refine writes_insertMany (fun d hd => ?_) docs supply
    cases hitems : (c.arg 0).items? with
    | none =>
      rw [hitems] at hd
      cases hd
    | some items =>
      rw [hitems] at hd
      have h0 := harg 0
      cases hc0 : c.arg 0 with
      | arr others =>
        rw [hc0] at hitems h0
        exact Json.namesDiffer_arr.mp h0 d (Option.some.inj hitems ▸ hd)
      | _ =>
        rw [hc0] at hitems
        cases hitems
  | updateOne => exact writes_update (harg 0) (harg 1) false _ docs supply
  | updateMany => exact writes_update (harg 0) (harg 1) true _ docs supply
  | deleteOne => exact writes_delete false _ docs supply
  | deleteMany => exact writes_delete true _ docs supply
  | findOneAndUpdate => exact writes_findOneAndUpdate (harg 0) (harg 1) _ docs supply
  | findOneAndDelete => exact writes_findOneAndDelete _ _ docs supply
  | aggregate => exact .refl

end QueryGateway.Document
