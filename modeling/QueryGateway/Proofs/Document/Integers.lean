import QueryGateway.Document.Sort
import QueryGateway.Proofs.Document.Denotation
import QueryGateway.Proofs.Number.Rounding

/-!
Integers in filters and sorts.

Comparison takes two integers for what they are, unless they collide: then it takes them for equal
(`compareValues_int`).  Filters and sorts ask comparison alone, so they tell two different
integers apart exactly if these do not collide (`integers_seen`).  Integers of 53 bits never do.
-/

namespace QueryGateway.Document

open Json (Fields)
open Number (Collide)

/-- The order in which comparison sees two integers. -/
def seenOrder (a b : Int) : Ordering := if Collide a b then .eq else compare a b

theorem seenOrder_eq_compare_iff {a b : Int} : seenOrder a b = compare a b ↔ ¬Collide a b := by
  rw [seenOrder]
  by_cases hcollide : Collide a b
  · rw [if_pos hcollide]
    have hne : Ordering.eq ≠ compare a b := fun h => hcollide.1 (Std.compare_eq_iff_eq.mp h.symm)
    exact iff_of_false hne (not_not.mpr hcollide)
  · rw [if_neg hcollide]
    exact iff_of_true rfl hcollide

theorem compareValues_int (a b : Int) :
    compareValues (.int a) (.int b) = some (seenOrder a b) :=
  congrArg some (Number.order_int a b)

theorem valuesEqual_int (a b : Int) :
    valuesEqual (some (.int a)) (.int b) = (seenOrder a b == .eq) :=
  congrArg (· == .eq) (Number.order_int a b)

/-! ## Filters -/

/-- The operators that compare a field with one operand, and the orders that each accepts. -/
def comparisons : List (Operator × (Ordering → Bool)) :=
  [(.eq, (· == .eq)), (.ne, (· != .eq)), (.gt, (· == .gt)), (.gte, (· != .lt)),
    (.lt, (· == .lt)), (.lte, (· != .gt))]

theorem ordered_int (a b : Int) (accept : Ordering → Bool) :
    ordered (some (.int a)) (.int b) accept = accept (seenOrder a b) := by
  show (compareValues (.int a) (.int b)).any accept = _
  rw [compareValues_int, Option.any_some]

theorem passes_comparison {test : Operator × (Ordering → Bool)} (h : test ∈ comparisons)
    (a b : Int) : test.1.passes (some (.int a)) (.int b) = test.2 (seenOrder a b) := by
  simp only [comparisons, List.mem_cons, List.not_mem_nil, or_false] at h
  rcases h with rfl | rfl | rfl | rfl | rfl | rfl
  · exact valuesEqual_int a b
  · exact congrArg (!·) (valuesEqual_int a b)
  · exact ordered_int a b (· == .gt)
  · exact ordered_int a b (· != .lt)
  · exact ordered_int a b (· == .lt)
  · exact ordered_int a b (· != .gt)

theorem takes_comparison {test : Operator × (Ordering → Bool)} (h : test ∈ comparisons)
    (operand : Json) : test.1.takes operand = true := by
  simp only [comparisons, List.mem_cons, List.not_mem_nil, or_false] at h
  rcases h with rfl | rfl | rfl | rfl | rfl | rfl <;> rfl

theorem any_valuesEqual_int (a : Int) (bs : List Int) :
    (bs.map Json.int).any (fun candidate => valuesEqual (some (.int a)) candidate) =
      bs.any fun b => seenOrder a b == .eq := by
  rw [List.any_map]
  exact congrArg bs.any (funext fun b => valuesEqual_int a b)

theorem meets_test {doc : Json} {path : String} (hpath : isOperatorKey path = false)
    (operator : Operator) {operand : Json} (htakes : operator.takes operand = true) :
    meets doc (.obj [(path, .obj [(operator.key, operand)])]) =
      .ok (operator.passes (doc.at? path) operand) := by
  have hknown : Operator.ofKey? operator.key = some operator := by cases operator <;> rfl
  have htests : operators? (.obj [(operator.key, operand)]) = some [(operator.key, operand)] := by
    cases operator <;> rfl
  rw [meets_obj, List.allM_cons, meetsField_path hpath, matchesCondition_of_operators htests,
    matchesOperators, hknown]
  simp only [Operator.test_of_takes htakes]
  cases operator.passes (doc.at? path) operand <;> rfl

theorem meets_value {doc : Json} {path : String} (hpath : isOperatorKey path = false)
    {value : Json} (hvalue : operators? value = none) :
    meets doc (.obj [(path, value)]) = .ok (valuesEqual (doc.at? path) value) := by
  rw [meets_obj, List.allM_cons, meetsField_path hpath, matchesCondition_of_value hvalue]
  cases valuesEqual (doc.at? path) value <;> rfl

/-- What filters on one path see of an integer there. -/
structure SeenByFilters (doc : Json) (path : String) (a : Int) : Prop where
  compared : ∀ test ∈ comparisons, ∀ b,
    meets doc (.obj [(path, .obj [(test.1.key, .int b)])]) = .ok (test.2 (seenOrder a b))
  equal : ∀ b, meets doc (.obj [(path, .int b)]) = .ok (seenOrder a b == .eq)
  listed : ∀ bs : List Int, meets doc (.obj [(path, .obj [("$in", .arr (bs.map .int))])]) =
    .ok (bs.any fun b => seenOrder a b == .eq)
  unlisted : ∀ bs : List Int, meets doc (.obj [(path, .obj [("$nin", .arr (bs.map .int))])]) =
    .ok !(bs.any fun b => seenOrder a b == .eq)

theorem seenByFilters {doc : Json} {path : String} {a : Int} (hpath : isOperatorKey path = false)
    (hat : doc.at? path = some (.int a)) : SeenByFilters doc path a where
  compared test htest b := by
    rw [meets_test hpath _ (takes_comparison htest _), hat, passes_comparison htest]
  equal b := by
    rw [meets_value hpath rfl, hat, valuesEqual_int]
  listed bs := by
    rw [← any_valuesEqual_int, ← hat]
    exact meets_test hpath .isIn rfl
  unlisted bs := by
    rw [← any_valuesEqual_int, ← hat]
    exact meets_test hpath .notIn rfl

/-! ## Sorts -/

theorem SortKey.order_int {key : SortKey} {x y : Json} {a b : Int}
    (hx : x.walk key.path = some (.int a)) (hy : y.walk key.path = some (.int b)) :
    key.order x y = if key.descending then (seenOrder a b).swap else seenOrder a b := by
  rw [SortKey.order, hx, hy, sortOrder, compareValues_int, Option.getD_some]

/-- Comparison gives the order of two integers exactly if they do not collide, and otherwise takes
them for equal, as do filters and sorts.  Integers collide if they are different and have the same
nearest binary64 number; this takes more than 53 bits, and in 64 bits at most `2 ^ 11` lie between
them. -/
theorem integers_seen (a b : Int) :
    (compareValues (.int a) (.int b) = some (compare a b) ↔ ¬Collide a b) ∧
      compareValues (.int a) (.int b) = some (seenOrder a b) ∧
      (Collide a b → 2 ^ 53 < a.natAbs ∨ 2 ^ 53 < b.natAbs) ∧
      (Collide a b → Number.fits a → Number.fits b → (a - b).natAbs ≤ 2 ^ 11) ∧
      (∀ doc path, isOperatorKey path = false → Json.at? path doc = some (.int a) →
        SeenByFilters doc path a) ∧
      ∀ (key : SortKey) (x y : Json), x.walk key.path = some (.int a) →
        y.walk key.path = some (.int b) →
        key.order x y = if key.descending then (seenOrder a b).swap else seenOrder a b := by
  refine ⟨?_, compareValues_int a b, fun h => ?_, fun h ha hb => h.near ha hb,
    fun doc path hpath hat => seenByFilters hpath hat, fun key x y hx hy => key.order_int hx hy⟩
  · rw [compareValues_int, Option.some.injEq]
    exact seenOrder_eq_compare_iff
  · by_contra hsmall
    rw [not_or, Nat.not_lt, Nat.not_lt] at hsmall
    exact Number.not_collide_of_le hsmall.1 hsmall.2 h

/-- A filter on the integer behind `2 ^ 53` meets documents that hold `2 ^ 53`. -/
theorem integers_seen_neighbours :
    let a : Int := 9007199254740992
    let b : Int := 9007199254740993
    let doc : Json := .obj [("n", .int a)]
    Collide a b ∧ compareValues (.int a) (.int b) = some .eq ∧
      meets doc (.obj [("n", .obj [("$lt", .int b)])]) = .ok false ∧
      meets doc (.obj [("n", .int b)]) = .ok true := by
  intro a b doc
  have hcollide : Collide a b := by decide +kernel
  have hseen : seenOrder a b = .eq := if_pos hcollide
  obtain ⟨-, hcompared, -, -, hfilters, -⟩ := integers_seen a b
  have hdoc := hfilters doc "n" rfl rfl
  refine ⟨hcollide, hseen ▸ hcompared, ?_, ?_⟩
  · have hlt := hdoc.compared (.lt, (· == .lt)) (by simp [comparisons]) b
    rw [hseen] at hlt
    exact hlt
  · have hequal := hdoc.equal b
    rw [hseen] at hequal
    exact hequal

end QueryGateway.Document
