import Mathlib.Data.Set.Card
import QueryGateway.Proofs.Document.Tally

/-!
Which documents an update changes.

The positions to write are found before the first write, and each is written once.  So every
document is updated as it was before the call, whatever the updates before it have made of other
documents (`updatedAt_of_updateAt`), and the two numbers in the answer are those of the positions
that were found and of the positions that differ (`documents_after_update`).
-/

namespace QueryGateway.Document

open Json (Fields)

namespace Collection

variable {filter change options : Json} {docs docs' : Collection} {targets : List Nat}

/-! ## Writing at positions -/

/-- Whether the document at a position is another one afterwards, as a JSON value. -/
def Differs (docs docs' : Collection) (i : Nat) : Prop :=
  ∃ before after, docs[i]? = some before ∧ docs'[i]? = some after ∧
    (Json.obj after == Json.obj before) = false

/-- Whether the documents at some positions have been updated and all others left. -/
structure UpdatedAt (change : Json) (targets : List Nat) (docs docs' : Collection) : Prop where
  length : docs'.length = docs.length
  others : ∀ i, i ∉ targets → docs'[i]? = docs[i]?
  updated : ∀ i ∈ targets, ∀ before, docs[i]? = some before →
    ∃ after, applyUpdate change before = .ok after ∧ docs'[i]? = some after

/-- Whether a position to write holds another document afterwards. -/
def differsAt (docs docs' : Collection) (i : Nat) : Bool :=
  (docs[i]?).any fun before => (docs'[i]?).any fun after => changed before after

theorem differsAt_iff {i : Nat} : differsAt docs docs' i = true ↔ Differs docs docs' i := by
  simp only [differsAt, Differs, changed, Option.any_eq_true, bne, Bool.not_eq_true']
  constructor
  · rintro ⟨before, hbefore, after, hafter, hdiffer⟩
    exact ⟨before, after, hbefore, hafter, hdiffer⟩
  · rintro ⟨before, after, hbefore, hafter, hdiffer⟩
    exact ⟨before, hbefore, after, hafter, hdiffer⟩

theorem updatedAt_nil (change : Json) (docs : Collection) : UpdatedAt change [] docs docs :=
  ⟨rfl, fun _ _ => rfl, nofun⟩

section Step

variable {i : Nat} {rest : List Nat} {before after : Fields}

theorem UpdatedAt.skip (hat : docs[i]? = none) (h : UpdatedAt change rest docs docs') :
    UpdatedAt change (i :: rest) docs docs' := by
  refine ⟨h.length, fun j hj => h.others j (List.not_mem_of_not_mem_cons hj), ?_⟩
  intro j hj old hold
  have hne : j ≠ i := by
    rintro rfl
    rw [hat] at hold
    cases hold
  exact h.updated j (List.mem_of_ne_of_mem hne hj) old hold

/-- A position that is written once holds what was written there. -/
theorem UpdatedAt.getElem?_written (hi : i ∉ rest) (hat : docs[i]? = some before)
    (h : UpdatedAt change rest (docs.set i after) docs') : docs'[i]? = some after := by
  obtain ⟨hlt, -⟩ := List.getElem?_eq_some_iff.mp hat
  rw [h.others i hi, List.getElem?_set_self hlt]

/-- The later writes go to other positions, so they find what was there before the first. -/
theorem UpdatedAt.cons (hi : i ∉ rest) (hat : docs[i]? = some before)
    (hmade : applyUpdate change before = .ok after)
    (h : UpdatedAt change rest (docs.set i after) docs') :
    UpdatedAt change (i :: rest) docs docs' := by
  have hset (j : Nat) (hj : j ≠ i) : (docs.set i after)[j]? = docs[j]? :=
    List.getElem?_set_ne hj.symm
  refine ⟨?_, fun j hj => ?_, fun j hj old hold => ?_⟩
  · rw [h.length, List.length_set]
  · rw [h.others j (List.not_mem_of_not_mem_cons hj), hset j (List.ne_of_not_mem_cons hj)]
  · by_cases hji : j = i
    · subst hji
      obtain rfl := Option.some.inj (hat.symm.trans hold)
      exact ⟨after, hmade, h.getElem?_written hi hat⟩
    · exact h.updated j (List.mem_of_ne_of_mem hji hj) old ((hset j hji).trans hold)

theorem UpdatedAt.countP_cons (hi : i ∉ rest) (hat : docs[i]? = some before)
    (h : UpdatedAt change rest (docs.set i after) docs') :
    (i :: rest).countP (differsAt docs docs') =
      rest.countP (differsAt (docs.set i after) docs') + if changed before after then 1 else 0 := by
  have hothers : rest.countP (differsAt docs docs') =
      rest.countP (differsAt (docs.set i after) docs') := by
    refine List.countP_congr fun j hj => ?_
    have hji : i ≠ j := fun hij => hi (hij ▸ hj)
    rw [differsAt, differsAt, List.getElem?_set_ne hji]
  have hdiffers : differsAt docs docs' i = changed before after := by
    rw [differsAt, hat, h.getElem?_written hi hat, Option.any_some, Option.any_some]
  rw [List.countP_cons, hothers, hdiffers]

end Step

theorem updatedAt_of_updateAt {count : Nat} (hn : targets.Nodup)
    (h : updateAt change targets docs = .ok (docs', count)) :
    UpdatedAt change targets docs docs' ∧ count = targets.countP (differsAt docs docs') := by
  induction targets generalizing docs docs' count with
  | nil =>
    obtain ⟨rfl, rfl⟩ := Prod.mk.inj (Except.ok.inj h)
    exact ⟨updatedAt_nil change docs, rfl⟩
  | cons i rest ih =>
    obtain ⟨hi, hrest⟩ := List.nodup_cons.mp hn
    rw [updateAt] at h
    cases hat : docs[i]? with
    | none =>
      rw [hat] at h
      obtain ⟨hupdated, hcount⟩ := ih hrest h
      have hnone : ¬differsAt docs docs' i = true := by
        rw [differsAt, hat]
        exact Bool.false_ne_true
      exact ⟨hupdated.skip hat, hcount.trans (List.countP_cons_of_neg hnone).symm⟩
    | some before =>
      rw [hat] at h
      simp only at h
      cases hmade : applyUpdate change before with
      | error e =>
        rw [hmade] at h
        cases h
      | ok after =>
        rw [hmade] at h
        obtain ⟨⟨out, n⟩, hout, hpair⟩ := exists_of_map_eq_ok h
        obtain ⟨rfl, rfl⟩ := Prod.mk.inj hpair
        obtain ⟨hupdated, rfl⟩ := ih hrest hout
        refine ⟨hupdated.cons hi hat hmade, ?_⟩
        rw [hupdated.countP_cons hi hat]
        cases changed before after <;> rfl

/-! ## The positions that are found -/

/-- Whether an update of one document, or of all, is to change the one at a position: it meets
the filter, and for an update of one document none before it does. -/
def Targeted (operation : Operation) (filter : Json) (docs : Collection) (i : Nat) : Prop :=
  (∃ doc, docs[i]? = some doc ∧ meets (.obj doc) filter = .ok true) ∧
    (operation = .updateOne →
      ∀ j < i, ∀ doc, docs[j]? = some doc → meets (.obj doc) filter ≠ .ok true)

theorem mem_take_one_iff (h : targets.Pairwise (· < ·)) {i : Nat} :
    i ∈ targets.take 1 ↔ i ∈ targets ∧ ∀ j ∈ targets, i ≤ j := by
  cases targets with
  | nil => simp
  | cons first rest =>
    obtain ⟨hfirst, -⟩ := List.pairwise_cons.mp h
    have hleast : ∀ j ∈ first :: rest, first ≤ j := by
      intro j hj
      rcases List.mem_cons.mp hj with rfl | hrest
      · exact Nat.le_refl j
      · exact Nat.le_of_lt (hfirst j hrest)
    rw [List.take_succ_cons, List.take_zero, List.mem_singleton]
    constructor
    · rintro rfl
      exact ⟨List.mem_cons_self, hleast⟩
    · rintro ⟨hi, hle⟩
      exact Nat.le_antisymm (hle first List.mem_cons_self) (hleast i hi)

theorem accepts_iff_of_judged (h : Judged filter docs) {i : Nat} {doc : Fields}
    (hat : docs[i]? = some doc) : accepts filter doc = true ↔ meets (.obj doc) filter = .ok true := by
  rw [h doc (List.mem_of_getElem? hat), Except.ok.injEq]

/-- The positions that an update of one document, or of all, writes. -/
def chosen (many : Bool) (filter : Json) (docs : Collection) : List Nat :=
  if many then docs.findIdxs (accepts filter) else (docs.findIdxs (accepts filter)).take 1

theorem nodup_chosen (many : Bool) (filter : Json) (docs : Collection) :
    (chosen many filter docs).Nodup := by
  have hfound : (docs.findIdxs (accepts filter)).Nodup := List.nodup_findIdxs
  rw [chosen]
  split
  · exact hfound
  · exact hfound.sublist (List.take_sublist 1 _)

theorem chosen_eq_nil_iff {many : Bool} :
    chosen many filter docs = [] ↔ docs.findIdxs (accepts filter) = [] := by
  rw [chosen]
  split
  · rfl
  · rw [List.take_eq_nil_iff]
    exact or_iff_right (Nat.one_ne_zero)

theorem mem_findIdxs_iff_meets (h : Judged filter docs) {i : Nat} :
    i ∈ docs.findIdxs (accepts filter) ↔
      ∃ doc, docs[i]? = some doc ∧ meets (.obj doc) filter = .ok true := by
  rw [mem_findIdxs_iff]
  exact exists_congr fun doc => and_congr_right fun hat => accepts_iff_of_judged h hat

theorem targeted_updateMany_iff (h : Judged filter docs) {i : Nat} :
    Targeted .updateMany filter docs i ↔ i ∈ chosen true filter docs := by
  show _ ↔ i ∈ docs.findIdxs (accepts filter)
  rw [mem_findIdxs_iff_meets h]
  exact and_iff_left nofun

theorem targeted_updateOne_iff (h : Judged filter docs) {i : Nat} :
    Targeted .updateOne filter docs i ↔ i ∈ chosen false filter docs := by
  show _ ↔ i ∈ (docs.findIdxs (accepts filter)).take 1
  rw [mem_take_one_iff List.pairwise_findIdxs, Targeted, ← mem_findIdxs_iff_meets h]
  refine and_congr_right fun _ => ⟨fun hbefore j hj => ?_, fun hleast _ j hj doc hat hmeets => ?_⟩
  · obtain ⟨doc, hat, hmeets⟩ := (mem_findIdxs_iff_meets h).mp hj
    by_contra hlt
    exact hbefore rfl j (by omega) doc hat hmeets
  · have hle := hleast j ((mem_findIdxs_iff_meets h).mpr ⟨doc, hat, hmeets⟩)
    omega

theorem ncard_of_mem_iff {p : Nat → Prop} (hn : targets.Nodup) (h : ∀ i, p i ↔ i ∈ targets) :
    {i | p i}.ncard = targets.length := by
  have hset : {i | p i} = (targets.toFinset : Set Nat) := by
    rw [List.coe_toFinset]
    exact Set.ext h
  rw [hset, Set.ncard_coe_finset, List.toFinset_card_of_nodup hn]

/-- Where documents can be told from others, none but those at the positions written differ. -/
theorem UpdatedAt.ncard_differs (h : UpdatedAt change targets docs docs') (hn : targets.Nodup)
    (hnamed : ∀ doc ∈ docs, (Json.obj doc).namesDiffer) :
    {i | Differs docs docs' i}.ncard = targets.countP (differsAt docs docs') := by
  rw [List.countP_eq_length_filter]
  refine ncard_of_mem_iff (hn.filter _) fun i => ?_
  rw [List.mem_filter, differsAt_iff]
  refine ⟨fun hdiffers => ⟨?_, hdiffers⟩, And.right⟩
  by_contra hi
  obtain ⟨before, after, hbefore, hafter, hdiffer⟩ := hdiffers
  rw [h.others i hi, hbefore] at hafter
  obtain rfl := Option.some.inj hafter
  have hsame : (Json.obj before == Json.obj before) = true :=
    Json.same_refl _ (hnamed before (List.mem_of_getElem? hbefore))
  rw [hsame] at hdiffer
  cases hdiffer

/-! ## Updates -/

/-- What an update of one document, or of all, comes to. -/
inductive Updates (many : Bool) (filter change options : Json) (docs : Collection)
    (supply : Supply) : Outcome (List Row) → Prop
  | unjudged {e : Error} (unjudged : positions filter docs = .error e) :
    Updates many filter change options docs supply (reading docs supply (.error e))
  | upserted (judged : Judged filter docs) (unmatched : chosen many filter docs = [])
    (requested : upsertRequested options = true) :
    Updates many filter change options docs supply
      { upsert filter change docs supply with
        result := (upsert filter change docs supply).result.map fun id =>
          [[("matchedCount", .nat 0), ("modifiedCount", .nat 0), ("upsertedId", id)]] }
  | refused {e : Error} (judged : Judged filter docs)
    (refused : updateAt change (chosen many filter docs) docs = .error e) :
    Updates many filter change options docs supply (reading docs supply (.error e))
  | written {out : Collection} {modified : Nat} (judged : Judged filter docs)
    (written : updateAt change (chosen many filter docs) docs = .ok (out, modified)) :
    Updates many filter change options docs supply
      (reading out supply (.ok [[("matchedCount", .nat (chosen many filter docs).length),
        ("modifiedCount", .nat modified)]]))

theorem updates_update (many : Bool) (filter change options : Json) (docs : Collection)
    (supply : Supply) : Updates many filter change options docs supply
      (update many filter change options docs supply) := by
  rw [update]
  cases hfound : positions filter docs with
  | error e => exact .unjudged hfound
  | ok found =>
    obtain ⟨hjudged, rfl⟩ := positions_eq_ok_iff.mp hfound
    simp only
    rw [← chosen]
    split
    · rename_i hupsert
      rw [Bool.and_eq_true, List.isEmpty_iff] at hupsert
      exact .upserted hjudged hupsert.1 hupsert.2
    · cases hout : updateAt change (chosen many filter docs) docs with
      | error e => exact .refused hjudged hout
      | ok written => exact .written hjudged hout

/-- An update that succeeds and inserts nothing has updated the documents at the positions that it
has chosen, and tells how many these are. -/
theorem update_of_kept {many : Bool} {supply : Supply} {rows : List Row}
    (h : (update many filter change options docs supply).result = .ok rows)
    (hkept : ∀ row ∈ rows, Fields.get? "upsertedId" row = none) :
    ∃ out, (update many filter change options docs supply).documents = out ∧
      Judged filter docs ∧ UpdatedAt change (chosen many filter docs) docs out ∧
      rows = [[("matchedCount", .nat (chosen many filter docs).length),
        ("modifiedCount", .nat ((chosen many filter docs).countP (differsAt docs out)))]] := by
  have hupdates := updates_update many filter change options docs supply
  generalize update many filter change options docs supply = outcome at h hupdates ⊢
  cases hupdates with
  | unjudged unjudged => cases h
  | refused judged refused => cases h
  | upserted judged unmatched requested =>
    obtain ⟨id, -, rfl⟩ := exists_of_map_eq_ok h
    cases hkept _ List.mem_cons_self
  | written judged written =>
    obtain ⟨hupdated, rfl⟩ := updatedAt_of_updateAt (nodup_chosen many filter docs) written
    exact ⟨_, rfl, judged, hupdated, (Except.ok.inj h).symm⟩

end Collection

namespace Store

open Collection (Targeted Differs)

theorem run_of_updates {operation : Operation}
    (h : operation = .updateOne ∨ operation = .updateMany) (collection : String)
    (filter change options : Json) (docs : Collection) (supply : Supply) :
    Collection.run ⟨collection, operation, [filter, change, options]⟩ docs supply =
      Collection.update (operation == .updateMany) filter change options docs supply := by
  rcases h with rfl | rfl <;> rfl

/-- An update that succeeds and inserts nothing leaves all documents in their places.  One that
meets the filter, for an update of one document the first that does, becomes what the change makes
of it as it was before the call, and the others stay.  The answer tells how many met the filter,
and how many differ afterwards. -/
theorem documents_after_update {store : Store} {operation : Operation}
    (hoperation : operation = .updateOne ∨ operation = .updateMany) {collection : String}
    {filter change options : Json} {supply : Supply} {rows : List Row}
    (hnamed : ∀ doc ∈ store.documents collection, (Json.obj doc).namesDiffer)
    (h : (store.execute ⟨collection, operation, [filter, change, options]⟩ supply).1 = .ok rows)
    (hkept : ∀ row ∈ rows, Fields.get? "upsertedId" row = none) :
    let docs := store.documents collection
    let after :=
      (store.execute ⟨collection, operation, [filter, change, options]⟩ supply).2.1.documents
    (after collection).length = docs.length ∧
      (∀ i, Targeted operation filter docs i → ∃ before made, docs[i]? = some before ∧
        applyUpdate change before = .ok made ∧ (after collection)[i]? = some made) ∧
      (∀ i, ¬Targeted operation filter docs i → (after collection)[i]? = docs[i]?) ∧
      (∀ name, name ≠ collection → after name = store.documents name) ∧
      rows = [[("matchedCount", .nat {i | Targeted operation filter docs i}.ncard),
        ("modifiedCount", .nat {i | Differs docs (after collection) i}.ncard)]] := by
  intro docs after
  have hrun := run_of_updates hoperation collection filter change options docs supply
  have hresult : (Collection.run ⟨collection, operation, [filter, change, options]⟩ docs
      supply).result = .ok rows := h
  rw [hrun] at hresult
  obtain ⟨out, hout, hjudged, hupdated, hrows⟩ := Collection.update_of_kept hresult hkept
  have hafter (name : String) : after name =
      if name = collection then out else store.documents name := by
    rw [← hout, ← hrun]
    exact documents_execute store _ supply name
  have htargeted (i : Nat) : Targeted operation filter docs i ↔
      i ∈ Collection.chosen (operation == .updateMany) filter docs := by
    rcases hoperation with rfl | rfl
    · exact Collection.targeted_updateOne_iff hjudged
    · exact Collection.targeted_updateMany_iff hjudged
  have hn := Collection.nodup_chosen (operation == .updateMany) filter docs
  rw [hafter collection, if_pos rfl]
  refine ⟨hupdated.length, fun i hi => ?_, fun i hi => ?_, fun name hname => ?_, ?_⟩
  · have hmem := (htargeted i).mp hi
    obtain ⟨⟨before, hbefore, -⟩, -⟩ := hi
    obtain ⟨made, hmade, hat⟩ := hupdated.updated i hmem before hbefore
    exact ⟨before, made, hbefore, hmade, hat⟩
  · exact hupdated.others i fun hmem => hi ((htargeted i).mpr hmem)
  · rw [hafter name, if_neg hname]
  · rw [hrows, Collection.ncard_of_mem_iff hn htargeted, hupdated.ncard_differs hn hnamed]

/-- All three documents are found, and the second is what it was. -/
theorem documents_after_update_many :
    let change : Json := .obj [("$set", .obj [("role", .str "owner")])]
    let docs : Collection := [[("_id", .str "u1"), ("role", .str "guest")],
      [("_id", .str "u2"), ("role", .str "owner")], [("_id", .str "u3")]]
    let store := empty.put "users" docs
    let supply : Supply := ⟨fun _ => ⟨0⟩, fun _ => "b", 0⟩
    let updated := store.execute ⟨"users", .updateMany, [.obj [], change, .null]⟩ supply
    let after := updated.2.1.documents "users"
    (∀ doc ∈ docs, (Json.obj doc).namesDiffer) ∧
      updated.1 = .ok [[("matchedCount", .nat 3), ("modifiedCount", .nat 2)]] ∧
      after.length = 3 ∧
      ([[("matchedCount", .nat 3), ("modifiedCount", .nat 2)]] : List Row) =
        [[("matchedCount", .nat {i | Targeted .updateMany (.obj []) docs i}.ncard),
          ("modifiedCount", .nat {i | Differs docs after i}.ncard)]] := by
  intro change docs store supply updated after
  have hstored : store.documents "users" = docs := rfl
  have hnamed : ∀ doc ∈ store.documents "users", (Json.obj doc).namesDiffer := by
    rw [hstored]
    decide
  have hrows : updated.1 = .ok [[("matchedCount", .nat 3), ("modifiedCount", .nat 2)]] := rfl
  have hkept : ∀ row ∈ ([[("matchedCount", .nat 3), ("modifiedCount", .nat 2)]] : List Row),
      Fields.get? "upsertedId" row = none := by decide
  obtain ⟨hlength, -, -, -, hanswer⟩ := documents_after_update (.inr rfl) hnamed hrows hkept
  exact ⟨hnamed, hrows, hlength, hanswer⟩

end Store
end QueryGateway.Document
