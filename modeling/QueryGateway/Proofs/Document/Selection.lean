import QueryGateway.Proofs.Document.Matching
import QueryGateway.Proofs.Document.Pipeline
import QueryGateway.Proofs.Document.Sorting

/-!
The document that the operations on one document select.

A find sorts the documents it has found, `findOneAndUpdate` and `findOneAndDelete` sort
positions by the documents at them.  Both orders come from one order of entries, a document
with its position, so `selected` is what `findOne` shows and what the other two write
(`findOneAnd_agree`).
-/

namespace QueryGateway.Document

open Json (Fields)

namespace Collection

/-- Entries in the order that the option `sort` asks for. -/
def ranked (options : Json) (found : List (Nat × Fields)) : Except Error (List (Nat × Fields)) :=
  match options.field? "sort" with
  | none => .ok found
  | some spec => (readSort "" spec).map fun keys =>
      stableSort (fun a b => documentOrder keys (.obj a.2) (.obj b.2)) found

/-- The first entry that meets a filter, in the order that the option `sort` asks for. -/
def selected (filter options : Json) (docs : Collection) : Except Error (Option (Nat × Fields)) :=
  ((entries filter docs).bind (ranked options)).map List.head?

variable {filter options change : Json} {docs : Collection} {supply : Supply}

theorem ranked_perm {found sorted : List (Nat × Fields)} (h : ranked options found = .ok sorted) :
    sorted.Perm found := by
  rw [ranked] at h
  split at h
  · rw [Except.ok.inj h]
  · obtain ⟨keys, -, rfl⟩ := exists_of_map_eq_ok h
    exact stableSort_perm _ _

theorem of_selected {i : Nat} {doc : Fields}
    (h : selected filter options docs = .ok (some (i, doc))) :
    docs[i]? = some doc ∧ meets (.obj doc) filter = .ok true := by
  obtain ⟨sorted, hsorted, hhead⟩ := exists_of_map_eq_ok h
  obtain ⟨found, hfound, hranked⟩ := exists_of_bind_eq_ok hsorted
  have hfirst : (i, doc) ∈ found := (ranked_perm hranked).mem_iff.mp (List.mem_of_head? hhead)
  exact of_mem_entries hfound hfirst

/-! ## Finding -/

/-- The document of an entry, if there is one, as an answer. -/
def shown (options : Json) (chosen : Option (Nat × Fields)) : Except Error (List Row) :=
  (chosen.toList.map (·.2)).mapM (projectAs options)

theorem shown_some (options : Json) (i : Nat) (doc : Fields) :
    shown options (some (i, doc)) = (projectAs options doc).map ([·]) :=
  mapM_projectAs_singleton options doc

/-- The documents of sorted entries are the sorted documents. -/
theorem map_snd_ranked (options : Json) (found : List (Nat × Fields)) :
    (ranked options found).map (List.map (·.2)) =
      runStage? "$sort" (options.field? "sort") (found.map (·.2)) := by
  rw [ranked]
  cases options.field? "sort" with
  | none => rfl
  | some spec =>
    show ((readSort "" spec).map _).map _ = (readSort "" spec).map _
    cases readSort "" spec with
    | error e => rfl
    | ok keys =>
      exact congrArg Except.ok
        (stableSort_map (·.2) (fun a b => documentOrder keys (.obj a) (.obj b)) found)

/-- The options of a find that stops at one document. -/
def limited (options : Json) : Json :=
  .obj (Fields.set "limit" (.nat 1) ((options.fields?).getD []))

theorem field?_limited {key : String} (h : key ≠ "limit") (options : Json) :
    (limited options).field? key = options.field? key := by
  show Fields.get? key (Fields.set "limit" (.nat 1) ((options.fields?).getD [])) = _
  rw [Fields.get?_set_of_ne h]
  cases options <;> rfl

theorem projectAs_limited (options : Json) : projectAs (limited options) = projectAs options := by
  funext doc
  rw [projectAs, projectAs, field?_limited (by decide)]

theorem present_limited (hskip : options.field? "skip" = none) (found : Collection) :
    present (limited options) found =
      (runStage? "$sort" (options.field? "sort") found).bind fun sorted =>
        (sorted.take 1).mapM (projectAs options) := by
  have hlimit : (limited options).field? "limit" = some (.nat 1) := Fields.get?_set_self _ _ _
  have hasked : Window.Asked
      { sort := options.field? "sort", limit := some (.int 1)
        projection := options.field? "projection" } (limited options) :=
    ⟨field?_limited (by decide) options, (field?_limited (by decide) options).trans hskip,
      hlimit, field?_limited (by decide) options⟩
  have hnone : countOption (limited options) "skip" = .ok none := by
    rw [countOption, hasked.skip]
    rfl
  have hone : countOption (limited options) "limit" = .ok (some 1) := by
    rw [countOption, hlimit]
    rfl
  rw [present_eq hasked, hnone, hone, ← projectAs_limited options]
  simp only [mapM_projectAs hasked]
  rfl

/-- What `findOne` shows is the document of the selected entry. -/
theorem findOne_eq (hskip : options.field? "skip" = none) :
    findOne filter options docs = (selected filter options docs).bind (shown options) := by
  show find filter (limited options) docs = _
  rw [find, ← map_snd_entries, selected]
  cases entries filter docs with
  | error e => rfl
  | ok found =>
    show present (limited options) (found.map (·.2)) = _
    rw [present_limited hskip, ← map_snd_ranked]
    simp only [Except.bind]
    cases ranked options found with
    | error e => rfl
    | ok sorted => cases sorted <;> rfl

/-! ## Positions -/

/-- An entry as one document, which can be sorted by the paths below `d`. -/
def tagged (entry : Nat × Fields) : Fields := [("i", .nat entry.1), ("d", .obj entry.2)]

/-- The position that a tagged document holds. -/
def tag? (doc : Fields) : Option Nat :=
  match Fields.get? "i" doc with
  | some (.num n) => n.unsigned?
  | _ => none

theorem tag?_tagged {i : Nat} (h : (i : Int) < Int.pow 2 64) (doc : Fields) :
    tag? (tagged (i, doc)) = some i := by
  have hfits : Number.fitsUnsigned i = true := by
    rw [Number.fitsUnsigned, Bool.and_eq_true, decide_eq_true_eq, decide_eq_true_eq]
    exact ⟨Int.natCast_nonneg i, h⟩
  show (if Number.fitsUnsigned i then some (i : Int).toNat else none) = _
  rw [if_pos hfits, Int.toNat_natCast]

theorem documentOrder_tagged (keys : List SortKey) (a b : Nat × Fields) :
    documentOrder (keys.map (SortKey.below "d")) (.obj (tagged a)) (.obj (tagged b)) =
      documentOrder keys (.obj a.2) (.obj b.2) :=
  documentOrder_below rfl rfl keys

theorem firstPosition_of_unsorted (hsort : options.field? "sort" = none) (filter : Json)
    (docs : Collection) :
    firstPosition filter options docs = (positions filter docs).map List.head? := by
  rw [firstPosition, hsort]
  cases positions filter docs <;> rfl

theorem firstPosition_of_sorted {spec : Json} (hsort : options.field? "sort" = some spec)
    (filter : Json) (docs : Collection) :
    firstPosition filter options docs =
      (entries filter docs).bind fun found =>
        (readSort "d." spec).map fun keys =>
          (stableSort (fun a b => documentOrder keys (.obj a.2) (.obj b.2)) found).head?.map
            (·.1) := by
  rw [firstPosition, hsort, entries]
  cases positions filter docs <;> rfl

/-- The position to write is the tag of the first of the tagged entries, sorted by the paths of
the specification below `d`. -/
theorem firstPosition_eq_tagged {spec : Json} (hsort : options.field? "sort" = some spec)
    (hlength : (docs.length : Int) ≤ Int.pow 2 64) :
    firstPosition filter options docs =
      (entries filter docs).bind fun found =>
        (sortBy "" (below "d" spec) (found.map tagged)).map fun sorted =>
          sorted.head?.bind tag? := by
  rw [firstPosition_of_sorted hsort]
  cases hentries : entries filter docs with
  | error e => rfl
  | ok found =>
    have hbelow : readSort "" (below "d" spec) =
        (readSort "d." spec).map (List.map (SortKey.below "d")) := readSort_below (by decide) spec
    simp only [Except.bind, sortBy, hbelow]
    cases readSort "d." spec with
    | error e => rfl
    | ok keys =>
      let order (a b : Nat × Fields) : Ordering := documentOrder keys (.obj a.2) (.obj b.2)
      have hsorted : stableSort
          (fun a b => documentOrder (keys.map (SortKey.below "d")) (.obj a) (.obj b))
          (found.map tagged) = (stableSort order found).map tagged := by
        rw [← stableSort_map]
        simp only [documentOrder_tagged]
        rfl
      simp only [Except.map, hsorted, List.head?_map]
      show Except.ok ((stableSort order found).head?.map (·.1)) = _
      cases hhead : (stableSort order found).head? with
      | none => rfl
      | some entry =>
        obtain ⟨i, doc⟩ := entry
        have hmem : (i, doc) ∈ found :=
          (stableSort_perm order found).mem_iff.mp (List.mem_of_head? hhead)
        obtain ⟨hat, -⟩ := of_mem_entries hentries hmem
        obtain ⟨hlt, -⟩ := List.getElem?_eq_some_iff.mp hat
        rw [Option.map_some, Option.map_some, Option.bind_some, tag?_tagged (by omega)]

/-! ## Writing -/

/-- The position that is written is the one of the selected entry. -/
theorem toOption_firstPosition (filter options : Json) (docs : Collection) :
    (firstPosition filter options docs).toOption =
      (selected filter options docs).toOption.map (Option.map (·.1)) := by
  rw [selected]
  cases hsort : options.field? "sort" with
  | none =>
    have hranked : ranked options = .ok := by
      funext found
      rw [ranked, hsort]
    rw [firstPosition_of_unsorted hsort, ← map_fst_entries, hranked]
    cases entries filter docs with
    | error e => rfl
    | ok found => exact congrArg some List.head?_map
  | some spec =>
    have hranked (found : List (Nat × Fields)) : (ranked options found).toOption =
        (readSort "d." spec).toOption.map fun keys =>
          stableSort (fun a b => documentOrder keys (.obj a.2) (.obj b.2)) found := by
      rw [ranked, hsort]
      simp only [toOption_map, toOption_readSort "d." spec]
    rw [firstPosition_of_sorted hsort]
    simp only [toOption_bind, toOption_map, hranked, Option.map_bind]
    refine congrArg _ (funext fun found => ?_)
    simp only [Function.comp_apply, Option.map_map]
    rfl

theorem firstPosition_of_selected {chosen : Option (Nat × Fields)}
    (h : selected filter options docs = .ok chosen) :
    firstPosition filter options docs = .ok (chosen.map (·.1)) := by
  have hoption := toOption_firstPosition filter options docs
  rw [h] at hoption
  cases hfirst : firstPosition filter options docs with
  | error e =>
    rw [hfirst] at hoption
    cases hoption
  | ok first =>
    rw [hfirst] at hoption
    exact congrArg Except.ok (Option.some.inj hoption)

theorem firstPosition_of_error {e : Error} (h : selected filter options docs = .error e) :
    ∃ e', firstPosition filter options docs = .error e' := by
  have hoption := toOption_firstPosition filter options docs
  rw [h] at hoption
  cases hfirst : firstPosition filter options docs with
  | error e' => exact ⟨e', rfl⟩
  | ok first =>
    rw [hfirst] at hoption
    cases hoption

/-- A removal shows the selected entry, and removes it whether it can be shown or not. -/
theorem findOneAndDelete_of_selected {chosen : Option (Nat × Fields)}
    (h : selected filter options docs = .ok chosen) (supply : Supply) :
    findOneAndDelete filter options docs supply =
      reading (chosen.elim docs fun entry => docs.eraseIdx entry.1) supply
        (shown options chosen) := by
  rw [findOneAndDelete, firstPosition_of_selected h]
  cases chosen with
  | none => rfl
  | some entry =>
    obtain ⟨i, doc⟩ := entry
    have hat := (of_selected h).1
    simp only [Option.map_some, hat, shown_some]
    rfl

theorem findOneAndDelete_of_error {e : Error} (h : selected filter options docs = .error e)
    (supply : Supply) :
    ∃ e', findOneAndDelete filter options docs supply = reading docs supply (.error e') := by
  obtain ⟨e', hfirst⟩ := firstPosition_of_error h
  refine ⟨e', ?_⟩
  rw [findOneAndDelete, hfirst]

theorem findOneAndUpdate_of_none (hupsert : upsertRequested options = false)
    (h : selected filter options docs = .ok none) (change : Json) (supply : Supply) :
    findOneAndUpdate filter change options docs supply =
      reading docs supply (shown options none) := by
  simp only [findOneAndUpdate, firstPosition_of_selected h, Option.map_none, hupsert]
  rfl

theorem findOneAndUpdate_of_refused {i : Nat} {before : Fields} {e : Error}
    (h : selected filter options docs = .ok (some (i, before)))
    (hrefused : applyUpdate change before = .error e) (supply : Supply) :
    findOneAndUpdate filter change options docs supply = reading docs supply (.error e) := by
  have hat := (of_selected h).1
  simp only [findOneAndUpdate, firstPosition_of_selected h, Option.map_some, hat, hrefused]

/-- An update that answers with the document as it was shows the selected entry. -/
theorem findOneAndUpdate_of_selected {i : Nat} {before after : Fields}
    (hbefore : options.field? "returnDocument" = some (.str "before"))
    (h : selected filter options docs = .ok (some (i, before)))
    (hafter : applyUpdate change before = .ok after) (supply : Supply) :
    findOneAndUpdate filter change options docs supply =
      reading (docs.set i after) supply (shown options (some (i, before))) := by
  have hat := (of_selected h).1
  simp only [findOneAndUpdate, firstPosition_of_selected h, Option.map_some, hat, hafter, hbefore,
    shown_some]
  rfl

theorem findOneAndUpdate_of_error {e : Error} (h : selected filter options docs = .error e)
    (change : Json) (supply : Supply) :
    ∃ e', findOneAndUpdate filter change options docs supply =
      reading docs supply (.error e') := by
  obtain ⟨e', hfirst⟩ := firstPosition_of_error h
  refine ⟨e', ?_⟩
  rw [findOneAndUpdate, hfirst]

/-- Whether options sort and project like others, ask for the document as it was and for no
upsert. -/
structure AsksBefore (options asked : Json) : Prop where
  sort : asked.field? "sort" = options.field? "sort"
  projection : asked.field? "projection" = options.field? "projection"
  returned : asked.field? "returnDocument" = some (.str "before")
  upsert : upsertRequested asked = false

theorem AsksBefore.selected_eq {asked : Json} (h : AsksBefore options asked) :
    selected filter asked docs = selected filter options docs := by
  have hranked : ranked asked = ranked options := by
    funext found
    rw [ranked, ranked, h.sort]
  rw [selected, selected, hranked]

theorem AsksBefore.shown_eq {asked : Json} (h : AsksBefore options asked) :
    shown asked = shown options := by
  have hproject : projectAs asked = projectAs options := by
    funext doc
    rw [projectAs, projectAs, h.projection]
  funext chosen
  rw [shown, shown, hproject]

/-- What an update of the selected entry leaves of the documents. -/
inductive Updated (change : Json) (docs : Collection) :
    Option (Nat × Fields) → Collection → Prop
  | none : Updated change docs none docs
  | some {i : Nat} {before after : Fields} (updated : applyUpdate change before = .ok after) :
    Updated change docs (some (i, before)) (docs.set i after)

/-- An update of one document fails where a find does, or where the change cannot be applied.
Otherwise it shows and changes the selected entry. -/
theorem AsksBefore.findOneAndUpdate {asked : Json} (h : AsksBefore options asked)
    (change : Json) (supply : Supply) :
    (∃ e, (findOneAndUpdate filter change asked docs supply).result = .error e ∧
        ((∃ e', selected filter options docs = .error e') ∨
          ∃ i before, selected filter options docs = .ok (some (i, before)) ∧
            applyUpdate change before = .error e)) ∨
      ∃ chosen after, selected filter options docs = .ok chosen ∧
        Updated change docs chosen after ∧
        findOneAndUpdate filter change asked docs supply =
          reading after supply (shown options chosen) := by
  rw [← h.selected_eq, ← h.shown_eq]
  cases hselected : selected filter asked docs with
  | error e =>
    obtain ⟨e', herror⟩ := findOneAndUpdate_of_error hselected change supply
    exact .inl ⟨e', congrArg Outcome.result herror, .inl ⟨e, rfl⟩⟩
  | ok chosen =>
    cases chosen with
    | none =>
      exact .inr ⟨none, docs, rfl, .none, findOneAndUpdate_of_none h.upsert hselected change supply⟩
    | some entry =>
      obtain ⟨i, before⟩ := entry
      cases hafter : applyUpdate change before with
      | error e =>
        have hrefused := findOneAndUpdate_of_refused hselected hafter supply
        exact .inl ⟨e, congrArg Outcome.result hrefused, .inr ⟨i, before, rfl, hafter⟩⟩
      | ok after =>
        exact .inr ⟨_, _, rfl, .some hafter,
          findOneAndUpdate_of_selected h.returned hselected hafter supply⟩

/-! ## Updates without a sort -/

theorem projectAs_of_none (h : options.field? "projection" = none) (doc : Fields) :
    projectAs options doc = .ok doc := by
  rw [projectAs, h]

/-- Unless it sorts or projects, `findOneAndUpdate` differs from `updateOne` in its answer only. -/
theorem findOneAndUpdate_eq_update (filter change : Json) (docs : Collection) (supply : Supply)
    {other : Json} (hsort : options.field? "sort" = none)
    (hprojection : options.field? "projection" = none)
    (hupsert : upsertRequested other = upsertRequested options) :
    (findOneAndUpdate filter change options docs supply).result.toOption.isSome =
        (update false filter change other docs supply).result.toOption.isSome ∧
      (findOneAndUpdate filter change options docs supply).documents =
        (update false filter change other docs supply).documents ∧
      (findOneAndUpdate filter change options docs supply).supply =
        (update false filter change other docs supply).supply := by
  have hproject : projectAs options = .ok := funext (projectAs_of_none hprojection)
  rw [findOneAndUpdate, update, firstPosition_of_unsorted hsort, hupsert, hproject]
  cases hfound : positions filter docs with
  | error e => exact ⟨rfl, rfl, rfl⟩
  | ok found =>
    cases found with
    | nil =>
      cases hrequested : upsertRequested options with
      | false => exact ⟨rfl, rfl, rfl⟩
      | true =>
        simp only [Except.map, List.head?_nil, List.take_nil, List.isEmpty_nil, Bool.and_self,
          if_true, Bool.false_eq_true, if_false, and_true]
        cases (upsert filter change docs supply).result with
        | error e => rfl
        | ok id => cases (options.field? "returnDocument").bind Json.str? != some "before" <;> rfl
    | cons i rest =>
      obtain ⟨doc, hat, -⟩ := of_mem_positions hfound List.mem_cons_self
      simp only [Except.map, List.head?_cons, List.take_succ_cons, List.take_zero,
        List.isEmpty_cons, Bool.false_and, hat, updateAt_singleton hat, Bool.false_eq_true,
        if_false]
      cases applyUpdate change doc with
      | error e => exact ⟨rfl, rfl, rfl⟩
      | ok after => exact ⟨rfl, rfl, rfl⟩

end Collection

namespace Store

open Collection (selected shown upsertRequested AsksBefore Updated)

/-- A find, a removal and an update of one document with the same sort and projection select the
same entry and answer with the same rows, and only that entry is written.  The removal fails where
the find does, the update also where it cannot be applied.  Without a sort and a projection the
update is `updateOne`, but for its answer. -/
theorem findOneAnd_agree {options : Json} (hskip : options.field? "skip" = none) (store : Store)
    (collection : String) (filter change : Json) (supply : Supply) :
    let docs := store.documents collection
    let found := store.execute ⟨collection, .findOne, [filter, options]⟩ supply
    let deleted := store.execute ⟨collection, .findOneAndDelete, [filter, options]⟩ supply
    let updated (asked : Json) :=
      store.execute ⟨collection, .findOneAndUpdate, [filter, change, asked]⟩ supply
    let counted (asked : Json) :=
      store.execute ⟨collection, .updateOne, [filter, change, asked]⟩ supply
    found.1 = (selected filter options docs).bind (shown options) ∧
      (∀ i doc, selected filter options docs = .ok (some (i, doc)) →
        docs[i]? = some doc ∧ meets (.obj doc) filter = .ok true) ∧
      (deleted.1.toOption = found.1.toOption ∧
        ∀ rows, deleted.1 = .ok rows → found.1 = .ok rows ∧
          ∃ chosen, selected filter options docs = .ok chosen ∧
            deleted.2.1 =
              store.put collection (chosen.elim docs fun entry => docs.eraseIdx entry.1)) ∧
      (∀ asked, AsksBefore options asked →
        (∀ rows, (updated asked).1 = .ok rows → found.1 = .ok rows ∧
          ∃ chosen after, selected filter options docs = .ok chosen ∧
            Updated change docs chosen after ∧
            (updated asked).2.1 = store.put collection after) ∧
        ((updated asked).1.toOption = none → found.1.toOption = none ∨
          ∃ i before, selected filter options docs = .ok (some (i, before)) ∧
            (applyUpdate change before).toOption = none)) ∧
      ∀ asked other, asked.field? "sort" = none → asked.field? "projection" = none →
        upsertRequested other = upsertRequested asked →
          (updated asked).1.toOption.isSome = (counted other).1.toOption.isSome ∧
            (updated asked).2 = (counted other).2 := by
  intro docs found deleted updated counted
  have hfound : found.1 = (selected filter options docs).bind (shown options) :=
    Collection.findOne_eq hskip
  have hdeleted : deleted.1 = (Collection.findOneAndDelete filter options docs supply).result := rfl
  have hupdated (asked : Json) : (updated asked).1 =
      (Collection.findOneAndUpdate filter change asked docs supply).result := rfl
  refine ⟨hfound, fun i doc => Collection.of_selected, ?_, fun asked hasked => ?_, ?_⟩
  · cases hselected : selected filter options docs with
    | error e =>
      obtain ⟨e', herror⟩ := Collection.findOneAndDelete_of_error hselected supply
      rw [hdeleted, herror, hfound, hselected]
      exact ⟨rfl, fun rows hrows => by cases hrows⟩
    | ok chosen =>
      have hremoved := Collection.findOneAndDelete_of_selected hselected supply
      rw [hdeleted, hremoved, hfound, hselected]
      refine ⟨rfl, fun rows hrows => ⟨hrows, chosen, rfl, ?_⟩⟩
      exact congrArg (put collection · store) (congrArg Outcome.documents hremoved)
  · rcases hasked.findOneAndUpdate change supply with
      ⟨e, hresult, hcause⟩ | ⟨chosen, after, hchosen, hafter, hdone⟩
    · rw [hupdated, hresult, hfound]
      refine ⟨fun rows hrows => (by cases hrows), fun _ => ?_⟩
      rcases hcause with ⟨e', hselected⟩ | ⟨i, before, hselected, hrefused⟩
      · rw [hselected]
        exact .inl rfl
      · exact .inr ⟨i, before, hselected, congrArg Except.toOption hrefused⟩
    · rw [hupdated, hdone, hfound, hchosen]
      refine ⟨fun rows hrows => ⟨hrows, chosen, after, rfl, hafter, ?_⟩, .inl⟩
      exact congrArg (put collection · store) (congrArg Outcome.documents hdone)
  · intro asked other hsort hprojection hupsert
    obtain ⟨hanswers, hafter, hsupply⟩ :=
      Collection.findOneAndUpdate_eq_update filter change docs supply hsort hprojection hupsert
    exact ⟨hanswers, Prod.ext (congrArg (put collection · store) hafter) hsupply⟩

/-- A descending sort selects the second document, and the projection hides its name. -/
theorem findOneAnd_agree_descending :
    let options : Json := .obj [("sort", .obj [("name", .int (-1))]),
      ("projection", .obj [("name", .bool false)])]
    let asked : Json := .obj [("sort", .obj [("name", .int (-1))]),
      ("projection", .obj [("name", .bool false)]), ("returnDocument", .str "before")]
    let change : Json := .obj [("$set", .obj [("name", .str "Cleo")])]
    let docs : Collection :=
      [[("_id", .str "u1"), ("name", .str "Ada")], [("_id", .str "u2"), ("name", .str "Bea")]]
    let store := empty.put "users" docs
    let supply : Supply := ⟨fun _ => ⟨0⟩, fun _ => "b", 0⟩
    let found := store.execute ⟨"users", .findOne, [.obj [], options]⟩ supply
    let deleted := store.execute ⟨"users", .findOneAndDelete, [.obj [], options]⟩ supply
    let updated := store.execute ⟨"users", .findOneAndUpdate, [.obj [], change, asked]⟩ supply
    options.field? "skip" = none ∧ AsksBefore options asked ∧
      deleted.1 = .ok [[("_id", .str "u2")]] ∧ updated.1 = .ok [[("_id", .str "u2")]] ∧
      found.1 = .ok [[("_id", .str "u2")]] ∧
      (∃ chosen, selected (.obj []) options docs = .ok chosen ∧
        deleted.2.1 = store.put "users" (chosen.elim docs fun entry => docs.eraseIdx entry.1)) ∧
      ∃ chosen after, selected (.obj []) options docs = .ok chosen ∧
        Updated change docs chosen after ∧ updated.2.1 = store.put "users" after := by
  intro options asked change docs store supply found deleted updated
  have hskip : options.field? "skip" = none := rfl
  have hasked : AsksBefore options asked := ⟨rfl, rfl, rfl, rfl⟩
  have hdeleted : deleted.1 = .ok [[("_id", .str "u2")]] := rfl
  have hupdated : updated.1 = .ok [[("_id", .str "u2")]] := rfl
  obtain ⟨-, -, hremoval, hupdate, -⟩ :=
    findOneAnd_agree hskip store "users" (.obj []) change supply
  obtain ⟨hfound, hremoved⟩ := hremoval.2 _ hdeleted
  exact ⟨hskip, hasked, hdeleted, hupdated, hfound, hremoved,
    ((hupdate asked hasked).1 _ hupdated).2⟩

end Store
end QueryGateway.Document
