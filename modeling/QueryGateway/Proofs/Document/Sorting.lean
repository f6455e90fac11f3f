import QueryGateway.Document.Sort
import QueryGateway.Proofs.Json.Path
import QueryGateway.Proofs.Text.Split
import QueryGateway.Proofs.Traversal

/-!
Stable sorting, and sorting documents with what is attached to them.

A sort sees elements through their order alone.  So elements that carry something else along
are put into the order of the bare documents, ties included (`stableSort_map`).  Where the order
is a total preorder among the elements, nothing stands before what is less than it
(`stableSort_sorted`), and ties keep their order (`filter_stableSort`).  A document that stands
below a field is sorted by paths that start with that field, and the specification
for these is read like the one for the bare documents (`readSort_below`).
-/

namespace QueryGateway.Document

open Json (Fields)

section Elements

variable {α β : Type}

theorem insertReversed_map (f : α → β) (order : β → β → Ordering) (a : α) (items : List α) :
    (insertReversed (fun x y => order (f x) (f y)) a items).map f =
      insertReversed order (f a) (items.map f) := by
  induction items with
  | nil => rfl
  | cons b rest ih =>
    rw [insertReversed, List.map_cons, insertReversed]
    by_cases hlt : order (f a) (f b) = .lt
    · rw [if_pos hlt, if_pos hlt, List.map_cons, ih]
    · rw [if_neg hlt, if_neg hlt, List.map_cons, List.map_cons]

theorem foldl_insertReversed_map (f : α → β) (order : β → β → Ordering) (items sorted : List α) :
    (items.foldl (fun sorted a => insertReversed (fun x y => order (f x) (f y)) a sorted)
        sorted).map f =
      (items.map f).foldl (fun sorted a => insertReversed order a sorted) (sorted.map f) := by
  induction items generalizing sorted with
  | nil => rfl
  | cons a rest ih => rw [List.foldl_cons, List.map_cons, List.foldl_cons, ih, insertReversed_map]

/-- Sorting by what `f` gives, and then taking what `f` gives, is sorting what `f` gives. -/
theorem stableSort_map (f : α → β) (order : β → β → Ordering) (items : List α) :
    (stableSort (fun x y => order (f x) (f y)) items).map f = stableSort order (items.map f) := by
  rw [stableSort, stableSort, List.map_reverse, foldl_insertReversed_map, List.map_nil]

theorem insertReversed_perm (order : α → α → Ordering) (a : α) (items : List α) :
    (insertReversed order a items).Perm (a :: items) := by
  induction items with
  | nil => exact .refl _
  | cons b rest ih =>
    rw [insertReversed]
    by_cases hlt : order a b = .lt
    · rw [if_pos hlt]
      exact (ih.cons b).trans (.swap a b rest)
    · rw [if_neg hlt]

theorem foldl_insertReversed_perm (order : α → α → Ordering) (items sorted : List α) :
    (items.foldl (fun sorted a => insertReversed order a sorted) sorted).Perm
      (items ++ sorted) := by
  induction items generalizing sorted with
  | nil => exact .refl _
  | cons a rest ih =>
    have hfirst := (insertReversed_perm order a sorted).append_left rest
    exact (ih _).trans (hfirst.trans List.perm_middle)

theorem stableSort_perm (order : α → α → Ordering) (items : List α) :
    (stableSort order items).Perm items := by
  have h := foldl_insertReversed_perm order items []
  rw [List.append_nil] at h
  exact (List.reverse_perm _).trans h

/-! ### What a sort gives -/

/-- A total preorder among the elements of a list, with its ties as `.eq`. -/
structure PreorderOn (order : α → α → Ordering) (items : List α) : Prop where
  swap : ∀ a ∈ items, ∀ b ∈ items, order b a = (order a b).swap
  trans : ∀ a ∈ items, ∀ b ∈ items, ∀ c ∈ items,
    (order a b).isLE → (order b c).isLE → (order a c).isLE

namespace PreorderOn

variable {order : α → α → Ordering} {items : List α} {a b c : α}

theorem isLE_iff (h : PreorderOn order items) (ha : a ∈ items) (hb : b ∈ items) :
    (order b a).isLE ↔ order a b ≠ .lt := by
  rw [h.swap a ha b hb]
  cases order a b <;> decide

theorem eq_iff (h : PreorderOn order items) (ha : a ∈ items) (hb : b ∈ items) :
    order a b = .eq ↔ (order a b).isLE ∧ (order b a).isLE := by
  rw [h.swap a ha b hb]
  cases order a b <;> decide

theorem eq_trans (h : PreorderOn order items) (ha : a ∈ items) (hb : b ∈ items) (hc : c ∈ items)
    (hab : order a b = .eq) (hbc : order b c = .eq) : order a c = .eq := by
  obtain ⟨hle, hge⟩ := (h.eq_iff ha hb).mp hab
  obtain ⟨hle', hge'⟩ := (h.eq_iff hb hc).mp hbc
  exact (h.eq_iff ha hc).mpr ⟨h.trans a ha b hb c hc hle hle', h.trans c hc b hb a ha hge' hge⟩

/-- The other direction. -/
theorem reverse (h : PreorderOn order items) :
    PreorderOn (fun a b => (order a b).swap) items where
  swap a ha b hb := by rw [h.swap a ha b hb]
  trans a ha b hb c hc := by
    rw [← h.swap a ha b hb, ← h.swap b hb c hc, ← h.swap a ha c hc]
    exact fun hab hbc => h.trans c hc b hb a ha hbc hab

/-- One preorder that decides first, and another one for its ties. -/
theorem thenBy {second : α → α → Ordering} (h : PreorderOn order items)
    (hsecond : PreorderOn second items) :
    PreorderOn (fun a b => (order a b).then (second a b)) items where
  swap a ha b hb := by rw [h.swap a ha b hb, hsecond.swap a ha b hb, Ordering.swap_then]
  trans a ha b hb c hc := by
    simp only [Ordering.isLE_then_iff_and]
    rintro ⟨hab, htie⟩ ⟨hbc, htie'⟩
    have hac := h.trans a ha b hb c hc hab hbc
    refine ⟨hac, ?_⟩
    by_cases hlt : order a c = .lt
    · exact .inl hlt
    · -- A tie at the ends is one at both steps.
      have hca := (h.isLE_iff ha hc).mpr hlt
      have hba := h.trans b hb c hc a ha hbc hca
      have hcb := h.trans c hc a ha b hb hca hab
      have hle := htie.resolve_left ((h.isLE_iff ha hb).mp hba)
      have hle' := htie'.resolve_left ((h.isLE_iff hb hc).mp hcb)
      exact .inr (hsecond.trans a ha b hb c hc hle hle')

end PreorderOn

section Sorted

variable {order : α → α → Ordering} {items sorted : List α} {a d : α}

theorem insertReversed_subset (order : α → α → Ordering) (ha : a ∈ items) (hsub : sorted ⊆ items) :
    insertReversed order a sorted ⊆ items :=
  List.Subset.trans (insertReversed_perm order a sorted).subset
    (List.cons_subset.mpr ⟨ha, hsub⟩)

theorem insertReversed_sorted (h : PreorderOn order items) (ha : a ∈ items)
    (hsub : sorted ⊆ items) (hsorted : sorted.Pairwise fun x y => (order y x).isLE) :
    (insertReversed order a sorted).Pairwise fun x y => (order y x).isLE := by
  induction sorted with
  | nil => exact List.pairwise_singleton _ _
  | cons b rest ih =>
    obtain ⟨hb, hrest⟩ := List.cons_subset.mp hsub
    obtain ⟨hhead, htail⟩ := List.pairwise_cons.mp hsorted
    rw [insertReversed]
    by_cases hlt : order a b = .lt
    · rw [if_pos hlt]
      refine List.pairwise_cons.mpr ⟨fun c hc => ?_, ih hrest htail⟩
      rcases List.mem_cons.mp ((insertReversed_perm order a rest).subset hc) with rfl | hmem
      · rw [hlt]
        rfl
      · exact hhead c hmem
    · rw [if_neg hlt]
      have hba := (h.isLE_iff ha hb).mpr hlt
      refine List.pairwise_cons.mpr ⟨fun c hc => ?_, hsorted⟩
      rcases List.mem_cons.mp hc with rfl | hmem
      · exact hba
      · exact h.trans c (hrest hmem) b hb a ha (hhead c hmem) hba

/-- An element is inserted before those that it ties with. -/
theorem filter_insertReversed (h : PreorderOn order items) (ha : a ∈ items) (hd : d ∈ items)
    (hsub : sorted ⊆ items) :
    (insertReversed order a sorted).filter (order d · == .eq) =
      (a :: sorted).filter (order d · == .eq) := by
  induction sorted with
  | nil => rfl
  | cons b rest ih =>
    obtain ⟨hb, hrest⟩ := List.cons_subset.mp hsub
    rw [insertReversed]
    by_cases hlt : order a b = .lt
    · rw [if_pos hlt, List.filter_cons, ih hrest]
      by_cases htie : order d b = .eq
      · -- What is put behind `b` is less than `b`, so it does not tie with `d` as `b` does.
        have hne : order d a ≠ .eq := by
          intro heq
          have hbd := ((h.eq_iff hd hb).mp htie).2
          have hda := ((h.eq_iff hd ha).mp heq).1
          exact (h.isLE_iff ha hb).mp (h.trans b hb d hd a ha hbd hda) hlt
        simp [htie, hne]
      · simp [htie, List.filter_cons]
    · rw [if_neg hlt]

theorem foldl_insertReversed_sorted (h : PreorderOn order items) {rest : List α}
    (hrest : rest ⊆ items) (hsub : sorted ⊆ items)
    (hsorted : sorted.Pairwise fun x y => (order y x).isLE) :
    (rest.foldl (fun sorted a => insertReversed order a sorted) sorted).Pairwise
      fun x y => (order y x).isLE := by
  induction rest generalizing sorted with
  | nil => exact hsorted
  | cons a rest ih =>
    obtain ⟨ha, hrest⟩ := List.cons_subset.mp hrest
    have hnext := insertReversed_subset order ha hsub
    exact ih hrest hnext (insertReversed_sorted h ha hsub hsorted)

theorem filter_foldl_insertReversed (h : PreorderOn order items) (hd : d ∈ items)
    {rest : List α} (hrest : rest ⊆ items) (hsub : sorted ⊆ items) :
    (rest.foldl (fun sorted a => insertReversed order a sorted) sorted).filter
        (order d · == .eq) =
      (rest.reverse ++ sorted).filter (order d · == .eq) := by
  induction rest generalizing sorted with
  | nil => rfl
  | cons a rest ih =>
    obtain ⟨ha, hrest⟩ := List.cons_subset.mp hrest
    have hnext := insertReversed_subset order ha hsub
    rw [List.foldl_cons, ih hrest hnext, List.filter_append, filter_insertReversed h ha hd hsub,
      ← List.filter_append, List.reverse_cons, List.append_assoc, List.singleton_append]

theorem stableSort_sorted (h : PreorderOn order items) :
    (stableSort order items).Pairwise fun a b => (order a b).isLE :=
  List.pairwise_reverse.mpr
    (foldl_insertReversed_sorted h (List.Subset.refl _) (List.nil_subset _) .nil)

/-- Elements that tie with each other keep their order. -/
theorem filter_stableSort (h : PreorderOn order items) (hd : d ∈ items) :
    (stableSort order items).filter (order d · == .eq) = items.filter (order d · == .eq) := by
  have hfold := filter_foldl_insertReversed h hd (List.Subset.refl _) (List.nil_subset _)
  rw [List.append_nil, List.filter_reverse] at hfold
  rw [stableSort, List.filter_reverse, hfold, List.reverse_reverse]

end Sorted

end Elements

/-! ## Specifications -/

/-- The keys of a specification do not depend on what a bad direction is reported with. -/
theorem toOption_readSort (root : String) (spec : Json) :
    (readSort root spec).toOption = (readSort "" spec).toOption := by
  cases spec with
  | obj fields =>
    rw [readSort, readSort]
    induction fields with
    | nil => rfl
    | cons field rest ih =>
      obtain ⟨path, direction⟩ := field
      rw [sortKeys, sortKeys]
      cases descending? direction with
      | none => rfl
      | some descending => simp only [toOption_map, ih]
  | _ => rfl

/-- The key for documents that stand below a field. -/
def SortKey.below (name : String) (key : SortKey) : SortKey :=
  { key with path := name :: key.path }

/-- The specification for documents that stand below a field. -/
def below (name : String) : Json → Json
  | .obj fields => .obj (fields.map fun field => (name ++ "." ++ field.1, field.2))
  | spec => spec

theorem segments_below {name : String} (h : '.' ∉ name.toList) (path : String) :
    Json.segments (name ++ "." ++ path) = name :: Json.segments path := by
  have htext : (name ++ "." ++ path).toList = name.toList ++ '.' :: path.toList := by
    simp [String.toList_append]
  rw [Json.segments, Text.splitString, htext, Text.split_append_cons h, List.map_cons,
    String.ofList_toList]
  rfl

theorem readSort_below {name : String} (h : '.' ∉ name.toList) (spec : Json) :
    readSort "" (below name spec) =
      (readSort (name ++ ".") spec).map (List.map (SortKey.below name)) := by
  cases spec with
  | obj fields =>
    rw [below, readSort, readSort]
    induction fields with
    | nil => rfl
    | cons field rest ih =>
      obtain ⟨path, direction⟩ := field
      rw [List.map_cons, sortKeys, sortKeys]
      cases descending? direction with
      | none => rw [String.empty_append]; rfl
      | some descending =>
        simp only [ih, segments_below h]
        cases sortKeys (name ++ ".") rest <;> rfl
  | _ => rfl

/-- Keys below a field compare what stands there. -/
theorem documentOrder_below {name : String} {a b : Fields} {x y : Json}
    (ha : Fields.get? name a = some x) (hb : Fields.get? name b = some y)
    (keys : List SortKey) :
    documentOrder (keys.map (SortKey.below name)) (.obj a) (.obj b) =
      documentOrder keys x y := by
  induction keys with
  | nil => rfl
  | cons key rest ih =>
    rw [List.map_cons, documentOrder, documentOrder, ih]
    simp only [SortKey.order, SortKey.below, Json.walk_obj, ha, hb, Option.bind_some]

end QueryGateway.Document
