import QueryGateway.Proofs.Document.Sorting

/-!
When the order of a sort is a preorder.

Numbers, strings and booleans are compared with their like, and a date with a date that holds
something comparable.  Comparison is transitive (`Compared.trans`), and the ranks keep the kinds
apart.  But two objects that are not compared tie, so an object that is no date ties with
each of two dates in order, and a tie is not transitive there.  The values at a path are put
into one order exactly where this does not happen (`preorderOn_order_iff`); a sort by such paths
gives the documents in order, ties as they stood.
-/

namespace QueryGateway.Document

/-- What comparison gives for two values, by their kind. -/
inductive Compared : Json → Json → Ordering → Prop where
  | numbers (m n : Number) : Compared (.num m) (.num n) (m.order n)
  | strings (s t : String) : Compared (.str s) (.str t) (compare s t)
  | booleans (a b : Bool) : Compared (.bool a) (.bool b) (compare a b)
  | dates {a b : Json} {order : Ordering} (parts : Compared a b order) :
    Compared (.obj [("$date", a)]) (.obj [("$date", b)]) order

theorem Compared.compareValues_eq {a b : Json} {order : Ordering} (h : Compared a b order) :
    compareValues a b = some order := by
  induction h with
  | numbers | strings | booleans => simp [compareValues]
  | dates _ ih => simpa [compareValues] using ih

theorem compareValues_eq_some_iff {a b : Json} {order : Ordering} :
    compareValues a b = some order ↔ Compared a b order := by
  refine ⟨fun h => ?_, Compared.compareValues_eq⟩
  fun_induction compareValues a b with
  | case1 m n => exact Option.some.inj h ▸ .numbers m n
  | case2 s t => exact Option.some.inj h ▸ .strings s t
  | case3 a b => exact Option.some.inj h ▸ .booleans a b
  | case4 k a l b hkeys ih =>
    simp only [Bool.and_eq_true, beq_iff_eq] at hkeys
    obtain ⟨rfl, rfl⟩ := hkeys
    exact .dates (ih h)
  | case5 | case6 => cases h

namespace Compared

variable {a b c : Json} {order : Ordering}

theorem swap (h : Compared a b order) : Compared b a order.swap := by
  induction h with
  | numbers m n =>
    have hswap : n.order m = (m.order n).swap := Std.OrientedOrd.eq_swap
    exact hswap ▸ .numbers n m
  | strings s t =>
    have hswap : compare t s = (compare s t).swap := Std.OrientedOrd.eq_swap
    exact hswap ▸ .strings t s
  | booleans a b =>
    have hswap : compare b a = (compare a b).swap := Std.OrientedOrd.eq_swap
    exact hswap ▸ .booleans b a
  | dates _ ih => exact .dates ih

theorem trans (h : Compared a b order) {next : Ordering} (hnext : Compared b c next) :
    ∃ whole, Compared a c whole ∧ (order.isLE → next.isLE → whole.isLE) := by
  induction h generalizing c with
  | numbers m n =>
    cases hnext with
    | numbers _ k => exact ⟨_, .numbers m k, Std.TransOrd.isLE_trans⟩
  | strings s t =>
    cases hnext with
    | strings _ u => exact ⟨_, .strings s u, Std.TransOrd.isLE_trans⟩
  | booleans a b =>
    cases hnext with
    | booleans _ c => exact ⟨_, .booleans a c, Std.TransOrd.isLE_trans⟩
  | dates _ ih =>
    cases hnext with
    | dates parts =>
      obtain ⟨whole, hwhole, hle⟩ := ih parts
      exact ⟨whole, .dates hwhole, hle⟩

theorem rank_eq (h : Compared a b order) : rank (some a) = rank (some b) := by
  cases h <;> rfl

theorem rank_pos (h : Compared a b order) : 0 < rank (some a) := by
  cases h <;> exact Nat.zero_lt_succ _

end Compared

/-! ## One path -/

/-- Either two values are compared, or their kinds decide. -/
theorem sortOrder_cases (a b : Option Json) :
    (∃ x y, a = some x ∧ b = some y ∧ Compared x y (sortOrder a b)) ∨
      sortOrder a b = compare (rank a) (rank b) := by
  cases a with
  | none => exact .inr rfl
  | some x =>
    cases b with
    | none => exact .inr rfl
    | some y =>
      rw [sortOrder]
      cases h : compareValues x y with
      | none => exact .inr rfl
      | some order => exact .inl ⟨x, y, rfl, rfl, compareValues_eq_some_iff.mp h⟩

theorem Compared.sortOrder_eq {x y : Json} {order : Ordering} (h : Compared x y order) :
    sortOrder (some x) (some y) = order := by
  rw [sortOrder, h.compareValues_eq, Option.getD_some]

theorem sortOrder_swap (a b : Option Json) : sortOrder b a = (sortOrder a b).swap := by
  rcases sortOrder_cases a b with ⟨x, y, rfl, rfl, h⟩ | h
  · exact h.swap.sortOrder_eq
  · rcases sortOrder_cases b a with ⟨y, x, rfl, rfl, h'⟩ | h'
    · rw [h'.swap.sortOrder_eq, Ordering.swap_swap]
    · rw [h, h']
      exact Std.OrientedOrd.eq_swap

theorem rank_le_of_isLE {a b : Option Json} (h : (sortOrder a b).isLE) : rank a ≤ rank b := by
  rcases sortOrder_cases a b with ⟨x, y, rfl, rfl, hxy⟩ | hranks
  · exact Nat.le_of_eq hxy.rank_eq
  · rw [hranks] at h
    exact Nat.isLE_compare.mp h

/-- Values that go into one order: a value whose kind two values in order have is compared with
them.  All but objects always are. -/
def Sortable (values : List Json) : Prop :=
  ∀ x ∈ values, ∀ y ∈ values, ∀ z ∈ values,
    compareValues x y = some .lt → rank (some z) = rank (some x) → (compareValues x z).isSome

instance (values : List Json) : Decidable (Sortable values) :=
  inferInstanceAs (Decidable (∀ x ∈ values, ∀ y ∈ values, ∀ z ∈ values,
    compareValues x y = some .lt → rank (some z) = rank (some x) → (compareValues x z).isSome))

theorem sortOrder_eq_of_not_compared {x y : Json} (hrank : rank (some x) = rank (some y))
    (h : ∀ order, ¬ Compared x y order) : sortOrder (some x) (some y) = .eq := by
  rcases sortOrder_cases (some x) (some y) with ⟨_, _, ⟨⟩, ⟨⟩, hxy⟩ | hranks
  · exact absurd hxy (h _)
  · rw [hranks, hrank]
    exact Nat.compare_eq_eq.mpr rfl

theorem Sortable.trans {values : List Json} (h : Sortable values) {a b c : Option Json}
    (ha : ∀ x ∈ a, x ∈ values) (hb : ∀ y ∈ b, y ∈ values) (hc : ∀ z ∈ c, z ∈ values)
    (hab : (sortOrder a b).isLE) (hbc : (sortOrder b c).isLE) : (sortOrder a c).isLE := by
  have hrab := rank_le_of_isLE hab
  have hrbc := rank_le_of_isLE hbc
  rcases sortOrder_cases a c with ⟨x, z, rfl, rfl, hxz⟩ | hranks
  · by_contra hgt
    have hzx : Compared z x .lt := by
      have hswap := hxz.swap
      rwa [not_not.mp (mt Ordering.isLE_iff_ne_gt.mpr hgt)] at hswap
    have hrank := hxz.rank_eq
    -- The value between has the kind of the two ends, so it is compared with them.
    cases b with
    | none =>
      have hpos : 0 < rank (some x) := hxz.rank_pos
      have hzero : rank none = 0 := rfl
      omega
    | some y =>
      have hrank' : rank (some y) = rank (some z) := by omega
      have hsome := h z (hc z rfl) x (ha x rfl) y (hb y rfl) hzx.compareValues_eq hrank'
      obtain ⟨order, hzy⟩ := Option.isSome_iff_exists.mp hsome
      have hzy := compareValues_eq_some_iff.mp hzy
      obtain ⟨first, hxy, -⟩ := hxz.trans hzy
      obtain ⟨whole, hwhole, hle⟩ := hxy.trans hzy.swap
      rw [hxy.sortOrder_eq] at hab
      rw [hzy.swap.sortOrder_eq] at hbc
      rw [hwhole.sortOrder_eq] at hgt
      exact hgt (hle hab hbc)
  · rw [hranks]
    exact Nat.isLE_compare.mpr (Nat.le_trans hrab hrbc)

theorem preorderOn_sortOrder_iff {path : List String} {docs : List Json} :
    PreorderOn (fun a b => sortOrder (a.walk path) (b.walk path)) docs ↔
      Sortable (docs.filterMap (·.walk path)) := by
  constructor
  · intro h x hx y hy z hz hlt hrank
    obtain ⟨a, ha, hxa⟩ := List.mem_filterMap.mp hx
    obtain ⟨b, hb, hyb⟩ := List.mem_filterMap.mp hy
    obtain ⟨c, hc, hzc⟩ := List.mem_filterMap.mp hz
    have hxy := compareValues_eq_some_iff.mp hlt
    by_contra hnone
    have hnot : ∀ order, ¬ Compared x z order := by
      intro order hxz
      exact hnone (Option.isSome_iff_exists.mpr ⟨order, hxz.compareValues_eq⟩)
    -- Neither end is compared with `z`, so it ties with both.
    have hyz : sortOrder (some y) (some z) = .eq := by
      refine sortOrder_eq_of_not_compared (hxy.rank_eq.symm.trans hrank.symm) fun order hyz => ?_
      obtain ⟨whole, hxz, -⟩ := hxy.trans hyz
      exact hnot whole hxz
    have hzx : sortOrder (some z) (some x) = .eq :=
      sortOrder_eq_of_not_compared hrank fun order hzx => hnot _ hzx.swap
    have hyx := h.trans b hb c hc a ha
    simp only [hxa, hyb, hzc, hyz, hzx, hxy.swap.sortOrder_eq] at hyx
    exact absurd (hyx rfl rfl) (by decide)
  · intro h
    have hvalues : ∀ d ∈ docs, ∀ x ∈ d.walk path, x ∈ docs.filterMap (·.walk path) :=
      fun d hd x hx => List.mem_filterMap.mpr ⟨d, hd, hx⟩
    exact ⟨fun a _ b _ => sortOrder_swap _ _,
      fun a ha b hb c hc => h.trans (hvalues a ha) (hvalues b hb) (hvalues c hc)⟩

/-- The order of documents under one key is a preorder exactly where the values at its path go
into one order. -/
theorem SortKey.preorderOn_order_iff {key : SortKey} {docs : List Json} :
    PreorderOn key.order docs ↔ Sortable (docs.filterMap (·.walk key.path)) := by
  rw [← preorderOn_sortOrder_iff]
  obtain ⟨path, descending⟩ := key
  cases descending with
  | false => exact Iff.rfl
  | true =>
    refine ⟨fun h => ?_, PreorderOn.reverse⟩
    have hreverse := h.reverse
    simp only [SortKey.order, if_true, Ordering.swap_swap] at hreverse
    exact hreverse

/-! ## Several paths -/

theorem SortKey.order_swap (key : SortKey) (a b : Json) :
    key.order b a = (key.order a b).swap := by
  rw [SortKey.order, SortKey.order, sortOrder_swap (a.walk key.path)]
  cases key.descending <;> rfl

theorem documentOrder_swap (keys : List SortKey) (a b : Json) :
    documentOrder keys b a = (documentOrder keys a b).swap := by
  induction keys with
  | nil => rfl
  | cons key rest ih =>
    rw [documentOrder, documentOrder, key.order_swap a b, ih, Ordering.swap_then]

theorem preorderOn_documentOrder {keys : List SortKey} {docs : List Json}
    (h : ∀ key ∈ keys, PreorderOn key.order docs) : PreorderOn (documentOrder keys) docs := by
  induction keys with
  | nil => exact ⟨fun _ _ _ _ => rfl, fun _ _ _ _ _ _ _ _ => rfl⟩
  | cons key rest ih =>
    obtain ⟨hkey, hrest⟩ := List.forall_mem_cons.mp h
    exact hkey.thenBy (ih hrest)

/-- A sort gives the documents again.  Its order can be asked in either direction, and under one
key it is a preorder exactly where the values at the path go into one order.  Where it is a
preorder under each key it is one as a whole, and then ties are transitive, nothing stands before
what is less than it and ties keep their order. -/
theorem sortValues_sorts {spec : Json} {keys : List SortKey} (hkeys : readSort "" spec = .ok keys)
    (docs : List Json) :
    (∀ a b, documentOrder keys b a = (documentOrder keys a b).swap) ∧
      (∀ key ∈ keys,
        PreorderOn key.order docs ↔ Sortable (docs.filterMap (·.walk key.path))) ∧
      ((∀ key ∈ keys, PreorderOn key.order docs) → PreorderOn (documentOrder keys) docs) ∧
      ∃ sorted, sortValues spec docs = .ok sorted ∧ sorted.Perm docs ∧
        (PreorderOn (documentOrder keys) docs →
          (∀ a ∈ docs, ∀ b ∈ docs, ∀ c ∈ docs, documentOrder keys a b = .eq →
            documentOrder keys b c = .eq → documentOrder keys a c = .eq) ∧
          (sorted.Pairwise fun a b => (documentOrder keys a b).isLE) ∧
          ∀ d ∈ docs, sorted.filter (documentOrder keys d · == .eq) =
            docs.filter (documentOrder keys d · == .eq)) := by
  refine ⟨documentOrder_swap keys, fun key _ => SortKey.preorderOn_order_iff,
    preorderOn_documentOrder, stableSort (documentOrder keys) docs, ?_, stableSort_perm _ _, ?_⟩
  · rw [sortValues, hkeys]
    rfl
  · intro h
    refine ⟨fun a ha b hb c hc => h.eq_trans ha hb hc, stableSort_sorted h, ?_⟩
    intro d hd
    exact filter_stableSort h hd

theorem sortValues_sorts_dates :
    let spec : Json := .obj [("at", .num (.int (-1)))]
    let keys : List SortKey := [⟨["at"], true⟩]
    let docs : List Json :=
      [.obj [("at", .obj [("$date", .str "2024-05-01")]), ("n", .str "a")],
        .obj [("n", .str "b")],
        .obj [("at", .obj [("$date", .str "2024-06-01")])],
        .obj [("at", .obj [("$date", .str "2024-05-01")]), ("n", .str "c")]]
    readSort "" spec = .ok keys ∧
      PreorderOn (documentOrder keys) docs ∧
      ∃ sorted, sortValues spec docs = .ok sorted ∧ sorted.Perm docs ∧
        (sorted.Pairwise fun a b => (documentOrder keys a b).isLE) ∧
          ∀ d ∈ docs, sorted.filter (documentOrder keys d · == .eq) =
            docs.filter (documentOrder keys d · == .eq) := by
  intro spec keys docs
  have hkeys : readSort "" spec = .ok keys := rfl
  obtain ⟨-, hiff, hall, sorted, hsorted, hperm, hgives⟩ := sortValues_sorts hkeys docs
  have hsortable : ∀ key ∈ keys, Sortable (docs.filterMap (·.walk key.path)) := by
    decide +kernel
  have hpreorder := hall fun key hkey => (hiff key hkey).mpr (hsortable key hkey)
  exact ⟨hkeys, hpreorder, sorted, hsorted, hperm, (hgives hpreorder).2⟩

-- An object that is no date keeps two dates on its sides in the order in which they stood.
example :
    let docs : List Json :=
      [.obj [("at", .obj [("$date", .str "2024-06-01")])],
        .obj [("at", .obj [("a", .null)])],
        .obj [("at", .obj [("$date", .str "2024-05-01")])]]
    sortValues (.obj [("at", .num (.int 1))]) docs = .ok docs ∧
      ¬ Sortable (docs.filterMap (·.walk ["at"])) :=
  ⟨rfl, by decide +kernel⟩

end QueryGateway.Document
