import QueryGateway.Proofs.Document.Denotation
import QueryGateway.Proofs.Json.Rearrangement

/-!
Filters whose keys or clauses are written in another order.

Conditions see neither the order of the fields of their operands nor that of the tests of an
object of operators, a conjunction does not see the order of its entries, and `$and` and `$or` do
not see the order of their clauses.  So a well-formed filter gives the same answer however it is
reordered (`meets_of_wellFormed`).
-/

namespace QueryGateway.Document

open Json (Fields Rearranged)

/-! ## Operands -/

section Operands

variable {v w : Json}

theorem truthy_rearranged (h : v.Rearranged w) : truthy w = truthy v := by
  cases h <;> rfl

theorem compareValues_obj_of_length {fields : Fields} (h : fields.length ≠ 1) (a : Json) :
    compareValues a (.obj fields) = none := by
  cases fields with
  | nil => simp [compareValues]
  | cons field rest =>
    cases rest with
    | nil => exact absurd rfl h
    | cons second rest => simp [compareValues]

theorem compareValues_arr (a : Json) (items : List Json) : compareValues a (.arr items) = none := by
  simp [compareValues]

theorem compareValues_rearranged (h : v.Rearranged w) (a : Json) :
    compareValues a w = compareValues a v := by
  induction h generalizing a with
  | @fields fields others perm =>
    by_cases hlength : fields.length = 1
    · obtain ⟨field, rfl⟩ := List.length_eq_one_iff.mp hlength
      rw [List.singleton_perm.mp perm]
    · rw [compareValues_obj_of_length hlength, compareValues_obj_of_length]
      rwa [perm.length_eq] at hlength
  | @field before after key v w _ ih =>
    by_cases hlength : (before ++ (key, v) :: after).length = 1
    · -- The field stands alone, so it can be compared if it is a date.
      rw [List.length_append, List.length_cons] at hlength
      obtain rfl : before = [] := List.length_eq_zero_iff.mp (by omega)
      obtain rfl : after = [] := List.length_eq_zero_iff.mp (by omega)
      simp only [List.nil_append]
      unfold compareValues
      split <;> simp_all
    · rw [compareValues_obj_of_length hlength, compareValues_obj_of_length]
      simpa using hlength
  | item => rw [compareValues_arr, compareValues_arr]

theorem scalarEqual_rearranged (h : v.Rearranged w) (hv : v.namesDiffer) (a : Json) :
    scalarEqual a w = scalarEqual a v := by
  have hsame := h.same_eq hv a
  cases h <;> cases a <;> exact hsame

theorem valuesEqual_rearranged (h : v.Rearranged w) (hv : v.namesDiffer)
    (field : Option Json) : valuesEqual field w = valuesEqual field v := by
  have hequal := scalarEqual_rearranged h hv
  cases field with
  | none => cases h <;> rfl
  | some value =>
    cases value with
    | arr items =>
      cases h with
      | item => exact hequal (.arr items)
      | _ => simp only [valuesEqual, hequal]
    | _ => simp only [valuesEqual, hequal]

theorem ordered_rearranged (h : v.Rearranged w) (field : Option Json)
    (accept : Ordering → Bool) : ordered field w accept = ordered field v accept := by
  simp only [ordered, compareValues_rearranged h]

theorem any_items?_rearranged (h : v.Rearranged w) (hv : v.namesDiffer) (field : Option Json) :
    (w.items?.any fun items => items.any fun item => valuesEqual field item) =
      v.items?.any fun items => items.any fun item => valuesEqual field item := by
  cases h with
  | @item before after v w inside =>
    have hinside := Json.namesDiffer_atItem hv
    simp only [Json.items?, Option.any_some, List.any_append, List.any_cons,
      valuesEqual_rearranged inside hinside]
  | _ => rfl

theorem Operator.passes_rearranged (h : v.Rearranged w) (hv : v.namesDiffer)
    (operator : Operator) (field : Option Json) :
    operator.passes field w = operator.passes field v := by
  cases operator with
  | eq | ne => simp only [passes, valuesEqual_rearranged h hv]
  | gt | gte | lt | lte => simp only [passes, ordered_rearranged h]
  | isIn | notIn => simp only [passes, any_items?_rearranged h hv]
  | isPresent => simp only [passes, truthy_rearranged h]

theorem Operator.takes_rearranged (h : v.Rearranged w) (operator : Operator) :
    operator.takes w = operator.takes v := by
  cases h <;> cases operator <;> rfl

end Operands

/-! ## Conditions -/

theorem isDate_perm {fields others : Fields} (perm : fields.Perm others) :
    isDate others = isDate fields := by
  by_cases hlength : fields.length = 1
  · obtain ⟨field, rfl⟩ := List.length_eq_one_iff.mp hlength
    rw [List.singleton_perm.mp perm]
  · have hother : others.length ≠ 1 := perm.length_eq ▸ hlength
    have hnone {given : Fields} (h : given.length ≠ 1) : isDate given = false := by
      unfold isDate
      split
      · exact absurd rfl h
      · rfl
    rw [hnone hlength, hnone hother]

theorem isDate_replace (before after : Fields) (key : String) (v w : Json) :
    isDate (before ++ (key, w) :: after) = isDate (before ++ (key, v) :: after) := by
  cases before with
  | nil => cases after <;> rfl
  | cons first before => cases before <;> rfl

theorem isOperatorObject_perm {fields others : Fields} (perm : fields.Perm others) :
    isOperatorObject others = isOperatorObject fields := by
  rw [isOperatorObject, isOperatorObject, perm.all_eq, isDate_perm perm, perm.isEmpty_eq]

theorem isOperatorObject_replace (before after : Fields) (key : String) (v w : Json) :
    isOperatorObject (before ++ (key, w) :: after) =
      isOperatorObject (before ++ (key, v) :: after) := by
  have hsome (value : Json) : (before ++ (key, value) :: after).isEmpty = false := by
    cases before <;> rfl
  rw [isOperatorObject, isOperatorObject, isDate_replace before after key v w, hsome, hsome]
  simp

section Conditions

variable {v w : Json}

/-- What holds of all tests of a condition does not depend on its order, if for one test it does
not depend on the order inside the operand. -/
theorem all_operators?_rearranged (h : v.Rearranged w) (hv : v.namesDiffer)
    {p : String × Json → Bool} (hp : ∀ key v w, v.Rearranged w → v.namesDiffer →
      p (key, w) = p (key, v)) :
    (operators? w).map (·.all p) = (operators? v).map (·.all p) := by
  cases h with
  | fields perm =>
    rw [operators?, operators?, isOperatorObject_perm perm]
    split
    · simp only [Option.map_some, perm.all_eq]
    · rfl
  | @field before after key v w inside =>
    have hinside := Json.namesDiffer_at hv
    rw [operators?, operators?, isOperatorObject_replace before after key v w]
    split
    · simp only [Option.map_some, List.all_append, List.all_cons, hp key v w inside hinside]
    · rfl
  | item => rfl

theorem passesTest_rearranged (h : v.Rearranged w) (hv : v.namesDiffer) (field : Option Json)
    (key : String) : passesTest field (key, w) = passesTest field (key, v) := by
  simp only [passesTest, Operator.passes_rearranged h hv]

theorem isSupported_rearranged (h : v.Rearranged w) (key : String) :
    isSupported (key, w) = isSupported (key, v) := by
  simp only [isSupported, Operator.takes_rearranged h]

theorem passesCondition_eq (field : Option Json) (condition : Json) :
    passesCondition field condition =
      ((operators? condition).map (·.all (passesTest field))).getD (valuesEqual field condition) := by
  rw [passesCondition]
  cases operators? condition <;> rfl

theorem isWellFormed_eq (condition : Json) :
    isWellFormed condition = ((operators? condition).map (·.all isSupported)).getD true := by
  rw [isWellFormed]
  cases operators? condition <;> rfl

theorem passesCondition_rearranged (h : v.Rearranged w) (hv : v.namesDiffer)
    (field : Option Json) : passesCondition field w = passesCondition field v := by
  have htests := all_operators?_rearranged h hv
    fun key v w hinside hnames => passesTest_rearranged hinside hnames field key
  rw [passesCondition_eq, passesCondition_eq, htests, valuesEqual_rearranged h hv]

theorem isWellFormed_rearranged (h : v.Rearranged w) (hv : v.namesDiffer) :
    isWellFormed w = isWellFormed v := by
  have htests := all_operators?_rearranged h hv
    fun key v w hinside _ => isSupported_rearranged hinside key
  rw [isWellFormed_eq, isWellFormed_eq, htests]

end Conditions

/-! ## Filters -/

/-- One filter is another, reordered: the entries of a filter, the fields of an object anywhere in a
condition or the clauses of `$and` and `$or` in another order, here or inside a clause. -/
inductive Reordered : Json → Json → Prop
  | entries {entries others : Fields} (perm : entries.Perm others) :
    Reordered (.obj entries) (.obj others)
  | condition {before after : Fields} {path : String} {v w : Json}
    (plain : isOperatorKey path = false) (inside : v.Rearranged w) :
    Reordered (.obj (before ++ (path, v) :: after)) (.obj (before ++ (path, w) :: after))
  | clauses {before after : Fields} {key : String} {clauses others : List Json}
    (joins : isJoinKey key = true) (perm : clauses.Perm others) :
    Reordered (.obj (before ++ (key, .arr clauses) :: after))
      (.obj (before ++ (key, .arr others) :: after))
  | clause {before after : Fields} {key : String} {front back : List Json} {v w : Json}
    (joins : isJoinKey key = true) (inside : Reordered v w) :
    Reordered (.obj (before ++ (key, .arr (front ++ v :: back)) :: after))
      (.obj (before ++ (key, .arr (front ++ w :: back)) :: after))
  | trans {u v w : Json} (first : Reordered u v) (second : Reordered v w) : Reordered u w

namespace Reordered

theorem namesDiffer {v w : Json} (h : Reordered v w) (hv : v.namesDiffer) : w.namesDiffer := by
  induction h with
  | entries perm => exact Json.namesDiffer_perm perm hv
  | condition _ inside => exact Json.namesDiffer_replace inside.namesDiffer hv
  | clauses _ perm =>
    refine Json.namesDiffer_replace (fun hclauses => ?_) hv
    refine Json.namesDiffer_arr.mpr fun clause hmem => ?_
    exact Json.namesDiffer_arr.mp hclauses clause (perm.mem_iff.mpr hmem)
  | clause _ _ ih => exact Json.namesDiffer_replace (Json.namesDiffer_replaceItem ih) hv
  | trans _ _ ihfirst ihsecond => exact ihsecond (ihfirst hv)

theorem describes_replace {doc v w : Json} {before after : Fields} {key : String}
    (h : describesField doc key w = describesField doc key v) :
    describes doc (.obj (before ++ (key, w) :: after)) =
      describes doc (.obj (before ++ (key, v) :: after)) := by
  simp only [describes_obj, List.all_append, List.all_cons, h]

theorem wellFormed_replace {v w : Json} {before after : Fields} {key : String}
    (hw : WellFormedEntry (key, v) → WellFormedEntry (key, w))
    (h : WellFormed (.obj (before ++ (key, v) :: after))) :
    WellFormed (.obj (before ++ (key, w) :: after)) := by
  rw [wellFormed_obj_iff, List.forall_mem_append, List.forall_mem_cons] at h ⊢
  exact ⟨h.1, hw h.2.1, h.2.2⟩

theorem wellFormed {v w : Json} (h : Reordered v w) (hv : v.namesDiffer) (hform : WellFormed v) :
    WellFormed w := by
  induction h with
  | entries perm =>
    rw [wellFormed_obj_iff] at hform ⊢
    intro entry hmem
    exact hform entry (perm.mem_iff.mpr hmem)
  | @condition before after path v w plain inside =>
    have hinside := Json.namesDiffer_at hv
    refine wellFormed_replace ?_ hform
    rw [wellFormedEntry_path plain, wellFormedEntry_path plain,
      isWellFormed_rearranged inside hinside]
    exact id
  | clauses joins perm =>
    refine wellFormed_replace ?_ hform
    rw [wellFormedEntry_clauses joins, wellFormedEntry_clauses joins]
    intro each clause hmem
    exact each clause (perm.mem_iff.mpr hmem)
  | @clause before after key front back v w joins inside ih =>
    have hinside := Json.namesDiffer_atItem (Json.namesDiffer_at hv)
    refine wellFormed_replace ?_ hform
    rw [wellFormedEntry_clauses joins, wellFormedEntry_clauses joins, List.forall_mem_append,
      List.forall_mem_append, List.forall_mem_cons, List.forall_mem_cons]
    rintro ⟨hfront, hclause, hback⟩
    exact ⟨hfront, ih hinside hclause, hback⟩
  | trans first _ ihfirst ihsecond =>
    exact ihsecond (first.namesDiffer hv) (ihfirst hv hform)

/-- What a filter means does not depend on any order in it. -/
theorem describes_eq {v w : Json} (h : Reordered v w) (hv : v.namesDiffer) (doc : Json) :
    describes doc w = describes doc v := by
  induction h with
  | entries perm => rw [describes_obj, describes_obj, perm.all_eq]
  | @condition before after path v w plain inside =>
    have hinside := Json.namesDiffer_at hv
    refine describes_replace ?_
    rw [describesField_path plain, describesField_path plain,
      passesCondition_rearranged inside hinside]
  | @clauses before after key clauses others joins perm =>
    refine describes_replace ?_
    have hresults := perm.map (describes doc)
    rw [describesField_clauses joins, describesField_clauses joins, join, join,
      hresults.all_eq, hresults.any_eq]
  | @clause before after key front back v w joins inside ih =>
    have hinside := Json.namesDiffer_atItem (Json.namesDiffer_at hv)
    refine describes_replace ?_
    rw [describesField_clauses joins, describesField_clauses joins]
    simp only [List.map_append, List.map_cons, ih hinside]
  | trans first _ ihfirst ihsecond => rw [ihsecond (first.namesDiffer hv), ihfirst hv]

end Reordered

/-- A well-formed filter gives every document the answer that its meaning is, and so does the
filter in any other order. -/
theorem meets_of_wellFormed {filter : Json} (h : WellFormed filter) (doc : Json) :
    meets doc filter = .ok (describes doc filter) ∧
      ∀ other, filter.namesDiffer → Reordered filter other →
        meets doc other = .ok (describes doc filter) := by
  refine ⟨meets_eq_describes h doc, ?_⟩
  intro other hnames hreordered
  have hform : WellFormed other := hreordered.wellFormed hnames h
  rw [meets_eq_describes hform, hreordered.describes_eq hnames]

/-- The entries, the clauses of `$or` and the tests of a clause in another order. -/
theorem meets_of_wellFormed_nested :
    let city : Json := .obj [("city", .str "Bergen")]
    let aged (tests : Fields) : Json := .obj [("age", .obj tests)]
    let from40 : Fields := [("$gte", .int 40), ("$in", .arr [.int 40, .null])]
    let filter : Json := .obj [("$or", .arr [city, aged from40]), ("tags", .str "a")]
    let other : Json := .obj [("tags", .str "a"), ("$or", .arr [aged from40.reverse, city])]
    let doc : Json := .obj [("age", .int 40), ("tags", .arr [.str "a", .str "b"])]
    WellFormed filter ∧ filter.namesDiffer ∧ Reordered filter other ∧
      meets doc filter = .ok true ∧ meets doc other = .ok true := by
  intro city aged from40 filter other doc
  have hcity : WellFormed city := .condition rfl rfl .empty
  have haged : WellFormed (aged from40) := .condition rfl (by decide) .empty
  have hclauses : ∀ clause ∈ [city, aged from40], WellFormed clause := by
    rw [List.forall_mem_cons, List.forall_mem_singleton]
    exact ⟨hcity, haged⟩
  have hform : WellFormed filter := .clauses rfl hclauses (.condition rfl rfl .empty)
  have hnames : filter.namesDiffer := by decide
  have hreordered : Reordered filter other := by
    have hentries : Reordered filter (.obj [("tags", .str "a"), ("$or", .arr [city, aged from40])]) :=
      .entries (.swap _ _ _)
    have hswapped := @Reordered.clauses [("tags", .str "a")] [] "$or" _ _ rfl
      (List.Perm.swap (aged from40) city [])
    have htests : Reordered (aged from40) (aged from40.reverse) :=
      @Reordered.condition [] [] "age" _ _ rfl (.fields (List.reverse_perm from40).symm)
    have hinside := @Reordered.clause [("tags", .str "a")] [] "$or" [] [city] _ _ rfl htests
    exact hentries.trans (hswapped.trans hinside)
  have htrue : describes doc filter = true := by decide +kernel
  obtain ⟨hfilter, hothers⟩ := meets_of_wellFormed hform doc
  have hother := hothers other hnames hreordered
  rw [htrue] at hfilter hother
  exact ⟨hform, hnames, hreordered, hfilter, hother⟩

end QueryGateway.Document
