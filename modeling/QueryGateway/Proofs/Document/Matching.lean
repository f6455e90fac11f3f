import Mathlib.Data.List.Basic
import QueryGateway.Document.Collection
import QueryGateway.Proofs.Traversal

/-!
Which documents of a collection meet a filter.

A filter is tried on the documents in order, and the first document that it cannot be judged
on ends the trial.  A filter that can be judged on all of them accepts some, and then every
operation chooses from the same ones: a find takes the accepted documents
(`filterMeeting_of_judged`), an update or a removal their positions (`positions_eq_ok_iff`).
-/

namespace QueryGateway.Document

open Json (Fields)

/-- Whether a document meets a filter, where the filter can be judged. -/
def accepts (filter : Json) (doc : Fields) : Bool :=
  match meets (.obj doc) filter with
  | .ok keep => keep
  | .error _ => false

theorem accepts_of_meets {filter : Json} {doc : Fields} {keep : Bool}
    (h : meets (.obj doc) filter = .ok keep) : accepts filter doc = keep := by
  rw [accepts, h]

/-! ## Filters that ask for values -/

/-- Whether an entry of a filter asks for a value: neither its path nor a key of its condition
looks like an operator. -/
structure AsksForValue (entry : String × Json) : Prop where
  path : isOperatorKey entry.1 = false
  condition : ∀ fields, entry.2 = .obj fields → ∀ field ∈ fields, isOperatorKey field.1 = false

namespace AsksForValue

variable {entry : String × Json} {entries : Fields}

theorem matchesCondition_eq (h : AsksForValue entry) (field : Option Json) :
    matchesCondition field entry.2 = .ok (valuesEqual field entry.2) := by
  obtain ⟨key, condition⟩ := entry
  cases condition with
  | obj fields =>
    have hplain : isOperatorObject fields = false := by
      cases fields with
      | nil => rfl
      | cons first rest =>
        have hfirst := h.condition _ rfl first List.mem_cons_self
        simp [isOperatorObject, hfirst]
    simp [matchesCondition, hplain]
  | _ => rfl

theorem meetsField_eq (h : AsksForValue entry) (doc : Json) :
    meetsField doc entry.1 entry.2 = .ok (valuesEqual (doc.at? entry.1) entry.2) := by
  have hjoin : isJoinKey entry.1 = false := by
    rw [isJoinKey, Bool.or_eq_false_iff, beq_eq_false_iff_ne, beq_eq_false_iff_ne]
    refine ⟨fun hand => ?_, fun hor => ?_⟩
    · exact absurd h.path (hand ▸ by decide)
    · exact absurd h.path (hor ▸ by decide)
  have hpath : meetsField doc entry.1 entry.2 = meetsPath doc entry.1 entry.2 := by
    cases entry.2 <;> simp [meetsField, hjoin]
  rw [hpath, meetsPath, h.path, ← h.matchesCondition_eq]
  rfl

theorem meetsFields_eq (h : ∀ entry ∈ entries, AsksForValue entry) (doc : Json) :
    meetsFields doc entries =
      .ok (entries.all fun entry => valuesEqual (doc.at? entry.1) entry.2) := by
  induction entries with
  | nil => rfl
  | cons entry rest ih =>
    obtain ⟨hentry, hrest⟩ := List.forall_mem_cons.mp h
    rw [meetsFields, hentry.meetsField_eq, List.all_cons, ih hrest]
    cases valuesEqual (doc.at? entry.1) entry.2 <;> rfl

end AsksForValue

/-! ## Filters on a collection -/

namespace Collection

/-- Whether a filter can be judged on every document. -/
def Judged (filter : Json) (docs : Collection) : Prop :=
  ∀ doc ∈ docs, meets (.obj doc) filter = .ok (accepts filter doc)

theorem judged_of_meets {filter : Json} {docs : Collection}
    (h : ∀ doc ∈ docs, ∃ keep, meets (.obj doc) filter = .ok keep) : Judged filter docs := by
  intro doc hdoc
  obtain ⟨keep, hkeep⟩ := h doc hdoc
  rw [hkeep, accepts_of_meets hkeep]

variable {filter : Json} {docs : Collection}

theorem filterMeeting_of_judged (h : Judged filter docs) :
    filterMeeting filter docs = .ok (docs.filter (accepts filter)) := by
  induction docs with
  | nil => rfl
  | cons doc rest ih =>
    have hdoc := h doc List.mem_cons_self
    have hrest := ih fun d hd => h d (List.mem_cons_of_mem _ hd)
    rw [filterMeeting, hdoc]
    simp only [hrest, Except.map, List.filter_cons]

theorem positionsFrom_of_judged (h : Judged filter docs) (start : Nat) :
    positionsFrom filter start docs = .ok (docs.findIdxs (accepts filter) start) := by
  induction docs generalizing start with
  | nil => rfl
  | cons doc rest ih =>
    have hdoc := h doc List.mem_cons_self
    have hrest := ih (fun d hd => h d (List.mem_cons_of_mem _ hd)) (start + 1)
    rw [positionsFrom, hdoc]
    simp only [hrest, Except.map, List.findIdxs_cons]

/-- Both ways of trying a filter stop at the same document. -/
theorem judged_or_error (filter : Json) (docs : Collection) :
    Judged filter docs ∨ ∃ e, filterMeeting filter docs = .error e ∧
      ∀ start, positionsFrom filter start docs = .error e := by
  induction docs with
  | nil => exact .inl fun _ h => absurd h List.not_mem_nil
  | cons doc rest ih =>
    cases hdoc : meets (.obj doc) filter with
    | error e =>
      refine .inr ⟨e, ?_, fun start => ?_⟩
      · rw [filterMeeting, hdoc]
      · rw [positionsFrom, hdoc]
    | ok keep =>
      rcases ih with hrest | ⟨e, hfound, hpositions⟩
      · refine .inl fun d hd => ?_
        rcases List.mem_cons.mp hd with rfl | hd
        · rw [hdoc, accepts_of_meets hdoc]
        · exact hrest d hd
      · refine .inr ⟨e, ?_, fun start => ?_⟩
        · rw [filterMeeting, hdoc]
          simp only [hfound, Except.map]
        · rw [positionsFrom, hdoc]
          simp only [hpositions, Except.map]

theorem positions_eq_ok_iff {found : List Nat} :
    positions filter docs = .ok found ↔
      Judged filter docs ∧ found = docs.findIdxs (accepts filter) := by
  constructor
  · intro h
    rcases judged_or_error filter docs with hjudged | ⟨e, -, herror⟩
    · rw [positions, positionsFrom_of_judged hjudged] at h
      exact ⟨hjudged, (Except.ok.inj h).symm⟩
    · rw [positions, herror] at h
      cases h
  · rintro ⟨hjudged, rfl⟩
    exact positionsFrom_of_judged hjudged 0

/-- The documents that meet a filter, each with its position. -/
def entries (filter : Json) (docs : Collection) : Except Error (List (Nat × Fields)) :=
  (positions filter docs).map fun found =>
    found.filterMap fun i => (docs[i]?).map fun doc => (i, doc)

theorem filterMap_findIdxs_snd (p : Fields → Bool) (docs : Collection) :
    ((docs.findIdxs p).filterMap fun i => (docs[i]?).map fun doc => (i, doc)).map (·.2) =
      docs.filter p := by
  have hread : ∀ entry ∈ docs.zipIdx,
      ((bif p entry.1 then some entry.2 else none).bind fun i =>
        (docs[i]?).map fun doc => (i, doc)).map (·.2) = (Option.guard p ∘ Prod.fst) entry := by
    intro entry hentry
    have hat : docs[entry.2]? = some entry.1 := List.mem_zipIdx_iff_getElem?.mp hentry
    cases hp : p entry.1 with
    | true => simp [hp, hat]
    | false => simp [Option.guard, hp]
  calc ((docs.findIdxs p).filterMap fun i => (docs[i]?).map fun doc => (i, doc)).map (·.2)
      = docs.zipIdx.filterMap (Option.guard p ∘ Prod.fst) := by
        rw [List.findIdxs_eq_filterMap_zipIdx, List.filterMap_filterMap, List.map_filterMap]
        exact List.filterMap_congr hread
    _ = (docs.zipIdx.map Prod.fst).filterMap (Option.guard p) := List.filterMap_map.symm
    _ = docs.filter p := by
        rw [List.zipIdx_map_fst]
        exact congrFun List.filterMap_eq_filter docs

theorem filterMap_findIdxs_fst (p : Fields → Bool) (docs : Collection) :
    ((docs.findIdxs p).filterMap fun i => (docs[i]?).map fun doc => (i, doc)).map (·.1) =
      docs.findIdxs p := by
  have hread : ∀ i ∈ docs.findIdxs p,
      ((docs[i]?).map fun doc => (i, doc)).map (·.1) = some i := by
    intro i hi
    obtain ⟨hlt, -⟩ := List.mem_findIdxs_iff_exists_getElem_pos.mp hi
    rw [List.getElem?_eq_getElem hlt]
    rfl
  rw [List.map_filterMap, List.filterMap_congr hread, List.filterMap_some]

/-- A find takes the documents of these entries. -/
theorem map_snd_entries (filter : Json) (docs : Collection) :
    (entries filter docs).map (List.map (·.2)) = filterMeeting filter docs := by
  rcases judged_or_error filter docs with hjudged | ⟨e, hfound, hpositions⟩
  · rw [entries, positions, positionsFrom_of_judged hjudged, filterMeeting_of_judged hjudged,
      ← filterMap_findIdxs_snd]
    rfl
  · rw [entries, positions, hpositions, hfound]
    rfl

/-- An update or a removal takes their positions. -/
theorem map_fst_entries (filter : Json) (docs : Collection) :
    (entries filter docs).map (List.map (·.1)) = positions filter docs := by
  rcases judged_or_error filter docs with hjudged | ⟨e, -, hpositions⟩
  · rw [entries, positions, positionsFrom_of_judged hjudged]
    exact congrArg Except.ok (filterMap_findIdxs_fst _ _)
  · rw [entries, positions, hpositions]
    rfl

theorem of_mem_positions {found : List Nat} (h : positions filter docs = .ok found) {i : Nat}
    (hi : i ∈ found) : ∃ doc, docs[i]? = some doc ∧ meets (.obj doc) filter = .ok true := by
  obtain ⟨hjudged, rfl⟩ := positions_eq_ok_iff.mp h
  obtain ⟨hlt, haccepted⟩ := List.mem_findIdxs_iff_exists_getElem_pos.mp hi
  have hmeets := hjudged _ (List.getElem_mem hlt)
  rw [haccepted] at hmeets
  exact ⟨docs[i], List.getElem?_eq_getElem hlt, hmeets⟩

theorem of_mem_entries {found : List (Nat × Fields)} (h : entries filter docs = .ok found)
    {i : Nat} {doc : Fields} (hmem : (i, doc) ∈ found) :
    docs[i]? = some doc ∧ meets (.obj doc) filter = .ok true := by
  obtain ⟨places, hplaces, rfl⟩ := exists_of_map_eq_ok h
  obtain ⟨j, hj, hentry⟩ := List.mem_filterMap.mp hmem
  obtain ⟨other, hother, heq⟩ := Option.map_eq_some_iff.mp hentry
  obtain ⟨rfl, rfl⟩ := Prod.mk.inj heq
  obtain ⟨found, hfound, hmeets⟩ := of_mem_positions hplaces hj
  obtain rfl := Option.some.inj (hfound.symm.trans hother)
  exact ⟨hother, hmeets⟩

/-! ## Single positions -/

theorem mem_findIdxs_iff {p : Fields → Bool} {i : Nat} :
    i ∈ docs.findIdxs p ↔ ∃ doc, docs[i]? = some doc ∧ p doc = true := by
  rw [List.mem_findIdxs_iff_exists_getElem_pos]
  constructor
  · rintro ⟨hlt, hp⟩
    exact ⟨docs[i], List.getElem?_eq_getElem hlt, hp⟩
  · rintro ⟨doc, hat, hp⟩
    obtain ⟨hlt, rfl⟩ := List.getElem?_eq_some_iff.mp hat
    exact ⟨hlt, hp⟩

/-- One position is found if the document there is accepted and no other one is. -/
theorem findIdxs_eq_singleton_iff {p : Fields → Bool} {i : Nat} :
    docs.findIdxs p = [i] ↔ (∃ doc, docs[i]? = some doc ∧ p doc = true) ∧
      ∀ j other, j ≠ i → docs[j]? = some other → p other = false := by
  constructor
  · intro h
    have hmem {j : Nat} : j ∈ docs.findIdxs p ↔ j = i := by rw [h, List.mem_singleton]
    refine ⟨mem_findIdxs_iff.mp (hmem.mpr rfl), fun j other hne hat => ?_⟩
    refine Bool.eq_false_iff.mpr fun hp => hne ?_
    exact hmem.mp (mem_findIdxs_iff.mpr ⟨other, hat, hp⟩)
  · rintro ⟨hfound, hothers⟩
    have honly (j : Nat) : j ∈ docs.findIdxs p ↔ j ∈ [i] := by
      rw [List.mem_singleton]
      refine ⟨fun hj => ?_, fun hj => hj ▸ mem_findIdxs_iff.mpr hfound⟩
      obtain ⟨other, hat, hp⟩ := mem_findIdxs_iff.mp hj
      by_contra hne
      rw [hothers j other hne hat] at hp
      cases hp
    have hnodup : [i].Nodup := List.pairwise_singleton _ i
    exact List.perm_singleton.mp
      ((List.perm_ext_iff_of_nodup List.nodup_findIdxs hnodup).mpr honly)

theorem updateAt_singleton {i : Nat} {doc : Fields} (h : docs[i]? = some doc) (change : Json) :
    updateAt change [i] docs = (applyUpdate change doc).map fun after =>
      (docs.set i after, if changed doc after then 1 else 0) := by
  rw [updateAt, h]
  cases hafter : applyUpdate change doc with
  | error e => simp only [hafter, Except.map]
  | ok after => simp only [hafter, Except.map, updateAt, Nat.zero_add]

end Collection
end QueryGateway.Document
