import QueryGateway.Proofs.Document.Denotation
import QueryGateway.Proofs.Json.Names

/-!
Where a filter that is not well formed is refused.

A fault of a filter is found when the trial of the filter comes to it.  Clauses are all tried,
but entries and the tests of an operator object only up to the first that does not hold, and
what stands behind that one is not looked at.  So a document refuses a filter exactly for a
fault that it sees (`Fault.meets`, `fault_of_meets`), and the others are seen by other documents
only.
-/

namespace QueryGateway

theorem Json.eq_arr_of_items? {v : Json} {items : List Json} (h : v.items? = some items) :
    v = .arr items := by
  cases v with
  | arr own => rw [Option.some.inj h]
  | _ => cases h

namespace Document

open Json (Fields)

/-! ## Faults -/

/-- How far a filter is looked at: behind which entries, which clauses and which tests on a
path. -/
structure Sight where
  entries : Fields → Prop
  clauses : List Json → Prop
  tests : String → Fields → Prop

namespace Sight

/-- A look at the whole filter. -/
def full : Sight := ⟨fun _ => True, fun _ => True, fun _ _ => True⟩

/-- A look at what stands first: in front of all entries and of all tests, in any clause. -/
def first : Sight := ⟨(· = []), fun _ => True, fun _ before => before = []⟩

/-- What the trial on a document looks at.  It goes on behind entries and tests that hold, and
behind clauses that can be judged. -/
def on (doc : Json) : Sight where
  entries before := meets doc (.obj before) = .ok true
  clauses before := ∀ clause ∈ before, ∃ taken, meets doc clause = .ok taken
  tests path before := matchesOperators (doc.at? path) before = .ok true

end Sight

/-- The faults in sight, each with the error that reports it. -/
inductive Fault (sight : Sight) : (filter : Json) → Error → Prop
  | notObject {got : Json} (other : got.fields? = none) : Fault sight got (.filterNotObject got)
  | topLevel {before after : Fields} {key : String} {condition : Json}
    (seen : sight.entries before) (operator : isOperatorKey key = true)
    (unjoined : isJoinKey key = false) :
    Fault sight (.obj (before ++ (key, condition) :: after)) (.unsupportedTopLevel key)
  | notClauses {before after : Fields} {key : String} {condition : Json}
    (seen : sight.entries before) (joins : isJoinKey key = true)
    (other : condition.items? = none) :
    Fault sight (.obj (before ++ (key, condition) :: after)) (.clausesNotArray key)
  | clause {before after : Fields} {key : String} {front back : List Json} {clause : Json}
    {e : Error} (seen : sight.entries before) (joins : isJoinKey key = true)
    (reached : sight.clauses front) (inside : Fault sight clause e) :
    Fault sight (.obj (before ++ (key, .arr (front ++ clause :: back)) :: after)) e
  | operator {before after front back : Fields} {path key : String} {condition operand : Json}
    (seen : sight.entries before) (plain : isOperatorKey path = false)
    (object : operators? condition = some (front ++ (key, operand) :: back))
    (reached : sight.tests path front) (unknown : Operator.ofKey? key = none) :
    Fault sight (.obj (before ++ (path, condition) :: after)) (.unsupportedQueryOperator key)
  | operand {before after front back : Fields} {path key : String} {condition operand : Json}
    {operator : Operator} (seen : sight.entries before) (plain : isOperatorKey path = false)
    (object : operators? condition = some (front ++ (key, operand) :: back))
    (reached : sight.tests path front) (known : Operator.ofKey? key = some operator)
    (untaken : operator.takes operand = false) :
    Fault sight (.obj (before ++ (path, condition) :: after)) (.operandNotArray key)

/-- Induction over a filter with a hypothesis for every clause in it. -/
@[elab_as_elim]
theorem clauseInduction {motive : Json → Prop} (other : ∀ v, v.fields? = none → motive v)
    (obj : ∀ fields, (∀ key clauses, (key, Json.arr clauses) ∈ fields →
      ∀ clause ∈ clauses, motive clause) → motive (.obj fields)) (filter : Json) :
    motive filter := by
  suffices hboth : motive filter ∧
      ∀ clauses, filter = .arr clauses → ∀ clause ∈ clauses, motive clause from hboth.1
  induction filter using Json.partsInduction with
  | null | bool _ | num _ | str _ => exact ⟨other _ rfl, nofun⟩
  | arr items ih =>
    refine ⟨other _ rfl, ?_⟩
    rintro clauses ⟨⟩ clause hmem
    exact (ih clause hmem).1
  | obj fields ih =>
    refine ⟨obj fields ?_, nofun⟩
    intro key clauses hentry
    exact (ih (key, .arr clauses) hentry).2 clauses rfl

/-! ## Faults and well-formed filters -/

theorem isSupported_of_known {key : String} {operator : Operator}
    (h : Operator.ofKey? key = some operator) (operand : Json) :
    isSupported (key, operand) = operator.takes operand := by
  rw [isSupported, h, Option.any_some]

theorem isSupported_of_unknown {key : String} (h : Operator.ofKey? key = none) (operand : Json) :
    isSupported (key, operand) = false := by
  rw [isSupported, h, Option.any_none]

theorem isWellFormed_eq_false {condition : Json} {front back : Fields} {test : String × Json}
    (object : operators? condition = some (front ++ test :: back))
    (h : isSupported test = false) : isWellFormed condition = false := by
  rw [isWellFormed, object, Option.all_some, List.all_append, List.all_cons, h, Bool.false_and,
    Bool.and_false]

theorem not_wellFormed_of_entry {before after : Fields} {entry : String × Json}
    (h : ¬WellFormedEntry entry) : ¬WellFormed (.obj (before ++ entry :: after)) := by
  rw [wellFormed_obj_iff, List.forall_mem_append, List.forall_mem_cons]
  intro hall
  exact h hall.2.1

theorem Fault.not_wellFormed {sight : Sight} {filter : Json} {e : Error}
    (h : Fault sight filter e) : ¬WellFormed filter := by
  induction h with
  | notObject other =>
    intro hform
    cases hform <;> cases other
  | topLevel _ operator unjoined =>
    refine not_wellFormed_of_entry ?_
    simp [WellFormedEntry, operator, unjoined]
  | @notClauses before after key condition _ joins other =>
    refine not_wellFormed_of_entry ?_
    rintro (⟨plain, -⟩ | ⟨-, clauses, hclauses, -⟩)
    · rw [isOperatorKey_of_isJoinKey joins] at plain
      cases plain
    · obtain rfl : condition = .arr clauses := hclauses
      cases other
  | clause _ joins _ _ ih =>
    refine not_wellFormed_of_entry ?_
    rw [wellFormedEntry_clauses joins, List.forall_mem_append, List.forall_mem_cons]
    intro hall
    exact ih hall.2.1
  | operator _ plain object _ unknown =>
    refine not_wellFormed_of_entry ?_
    have hunsupported := isSupported_of_unknown unknown
    rw [wellFormedEntry_path plain, isWellFormed_eq_false object (hunsupported _)]
    exact Bool.false_ne_true
  | operand _ plain object _ known untaken =>
    refine not_wellFormed_of_entry ?_
    have hunsupported := isSupported_of_known known
    rw [wellFormedEntry_path plain, isWellFormed_eq_false object ((hunsupported _).trans untaken)]
    exact Bool.false_ne_true

theorem exists_test_of_not_wellFormed {condition : Json} (h : isWellFormed condition = false) :
    ∃ front key operand back, operators? condition = some (front ++ (key, operand) :: back) ∧
      isSupported (key, operand) = false := by
  rw [isWellFormed] at h
  cases htests : operators? condition with
  | none =>
    rw [htests] at h
    cases h
  | some tests =>
    rw [htests, Option.all_some, List.all_eq_false] at h
    obtain ⟨⟨key, operand⟩, hmem, hunsupported⟩ := h
    obtain ⟨front, back, rfl⟩ := List.append_of_mem hmem
    exact ⟨front, key, operand, back, rfl, Bool.eq_false_iff.mpr hunsupported⟩

/-- A filter is not well formed exactly if it has a fault anywhere. -/
theorem not_wellFormed_iff (filter : Json) :
    ¬WellFormed filter ↔ ∃ e, Fault .full filter e := by
  refine ⟨fun h => ?_, fun ⟨e, hfault⟩ => hfault.not_wellFormed⟩
  induction filter using clauseInduction with
  | other v hother => exact ⟨_, .notObject hother⟩
  | obj fields ih =>
    rw [wellFormed_obj_iff] at h
    simp only [not_forall, exists_prop] at h
    obtain ⟨⟨key, condition⟩, hmem, hentry⟩ := h
    obtain ⟨before, after, rfl⟩ := List.append_of_mem hmem
    by_cases hjoin : isJoinKey key = true
    · cases hclauses : condition.items? with
      | none => exact ⟨_, .notClauses trivial hjoin hclauses⟩
      | some clauses =>
        obtain rfl := Json.eq_arr_of_items? hclauses
        simp only [wellFormedEntry_clauses hjoin, not_forall, exists_prop] at hentry
        obtain ⟨clause, hclause, hfaulty⟩ := hentry
        obtain ⟨e, hfault⟩ := ih key clauses hmem clause hclause hfaulty
        obtain ⟨front, back, rfl⟩ := List.append_of_mem hclause
        exact ⟨e, .clause trivial hjoin trivial hfault⟩
    · rw [Bool.not_eq_true] at hjoin
      by_cases hoperator : isOperatorKey key = true
      · exact ⟨_, .topLevel trivial hoperator hjoin⟩
      · rw [Bool.not_eq_true] at hoperator
        rw [wellFormedEntry_path hoperator, Bool.not_eq_true] at hentry
        obtain ⟨front, name, operand, back, hobject, hunsupported⟩ :=
          exists_test_of_not_wellFormed hentry
        cases hkey : Operator.ofKey? name with
        | none => exact ⟨_, .operator trivial hoperator hobject trivial hkey⟩
        | some operator =>
          rw [isSupported_of_known hkey] at hunsupported
          exact ⟨_, .operand trivial hoperator hobject trivial hkey hunsupported⟩

/-! ## Faults and documents -/

variable {doc : Json} {e : Error}

theorem tryTest_of_unsupported {test : String × Json} {field : Option Json}
    (h : tryTest field test = .error e) :
    Operator.ofKey? test.1 = none ∧ e = .unsupportedQueryOperator test.1 ∨
      ∃ operator, Operator.ofKey? test.1 = some operator ∧ operator.takes test.2 = false ∧
        e = .operandNotArray test.1 := by
  rw [tryTest] at h
  cases hkey : Operator.ofKey? test.1 with
  | none =>
    rw [hkey] at h
    exact .inl ⟨rfl, (Except.error.inj h).symm⟩
  | some operator =>
    rw [hkey] at h
    cases htakes : operator.takes test.2 with
    | true =>
      simp only [Operator.test_of_takes htakes] at h
      cases h
    | false =>
      simp only [Operator.test_of_not_takes htakes, Operator.key_of_ofKey? hkey] at h
      exact .inr ⟨operator, rfl, htakes, (Except.error.inj h).symm⟩

theorem meetsField_topLevel {key : String} (operator : isOperatorKey key = true)
    (unjoined : isJoinKey key = false) (doc condition : Json) :
    meetsField doc key condition = .error (.unsupportedTopLevel key) := by
  have hpath : meetsField doc key condition = meetsPath doc key condition := by
    cases condition <;> simp [meetsField, unjoined]
  rw [hpath, meetsPath, if_pos operator]

theorem meetsField_notClauses {key : String} (joins : isJoinKey key = true) {condition : Json}
    (other : condition.items? = none) (doc : Json) :
    meetsField doc key condition = .error (.clausesNotArray key) := by
  cases condition with
  | arr clauses => cases other
  | _ => simp [meetsField, joins]

theorem meets_of_entry {before after : Fields} {key : String} {condition : Json}
    (seen : (Sight.on doc).entries before) (h : meetsField doc key condition = .error e) :
    meets doc (.obj (before ++ (key, condition) :: after)) = .error e := by
  have hbefore : meets doc (.obj before) = .ok true := seen
  rw [meets_obj] at hbefore
  rw [meets_obj, allM_append hbefore, List.allM_cons, h]
  rfl

theorem meetsField_of_test {front back : Fields} {path : String} {test : String × Json}
    {condition : Json} (plain : isOperatorKey path = false)
    (object : operators? condition = some (front ++ test :: back))
    (reached : (Sight.on doc).tests path front)
    (h : tryTest (doc.at? path) test = .error e) : meetsField doc path condition = .error e := by
  have hfront : matchesOperators (doc.at? path) front = .ok true := reached
  rw [matchesOperators_eq] at hfront
  rw [meetsField_path plain, matchesCondition_of_operators object, matchesOperators_eq,
    allM_append hfront, List.allM_cons, h]
  rfl

/-- A fault that a document sees is why the document refuses the filter. -/
theorem Fault.meets {filter : Json} (h : Fault (.on doc) filter e) :
    meets doc filter = .error e := by
  induction h with
  | @notObject got other =>
    cases got with
    | obj fields => cases other
    | _ => rfl
  | topLevel seen operator unjoined =>
    exact meets_of_entry seen (meetsField_topLevel operator unjoined doc _)
  | notClauses seen joins other =>
    exact meets_of_entry seen (meetsField_notClauses joins other doc)
  | @clause before after key front back clause e seen joins reached _ ih =>
    refine meets_of_entry seen ?_
    have heach : (front ++ clause :: back).mapM (QueryGateway.Document.meets doc) = .error e :=
      mapM_eq_error_iff.mpr ⟨front, clause, back, rfl, reached, ih⟩
    rw [meetsField_clauses joins, heach]
    rfl
  | operator seen plain object reached unknown =>
    refine meets_of_entry seen (meetsField_of_test plain object reached ?_)
    simp only [tryTest, unknown]
  | operand seen plain object reached known untaken =>
    refine meets_of_entry seen (meetsField_of_test plain object reached ?_)
    simp only [tryTest, known, Operator.test_of_not_takes untaken, Operator.key_of_ofKey? known]

theorem fault_of_test {before after : Fields} {path : String} {condition : Json}
    (seen : (Sight.on doc).entries before) (plain : isOperatorKey path = false)
    (h : meetsField doc path condition = .error e) :
    Fault (.on doc) (.obj (before ++ (path, condition) :: after)) e := by
  rw [meetsField_path plain] at h
  cases htests : operators? condition with
  | none =>
    rw [matchesCondition_of_value htests] at h
    cases h
  | some tests =>
    rw [matchesCondition_of_operators htests, matchesOperators_eq, allM_eq_error_iff] at h
    obtain ⟨front, ⟨key, operand⟩, back, rfl, hfront, htest⟩ := h
    rw [← matchesOperators_eq] at hfront
    rcases tryTest_of_unsupported htest with ⟨hunknown, rfl⟩ | ⟨operator, hknown, huntaken, rfl⟩
    · exact .operator seen plain htests hfront hunknown
    · exact .operand seen plain htests hfront hknown huntaken

/-- A document that refuses a filter sees a fault of it. -/
theorem fault_of_meets {filter : Json} (h : meets doc filter = .error e) :
    Fault (.on doc) filter e := by
  induction filter using clauseInduction generalizing e with
  | other v hother =>
    have hrefused : meets doc v = .error (.filterNotObject v) := Fault.meets (.notObject hother)
    rw [hrefused] at h
    exact Except.error.inj h ▸ .notObject hother
  | obj fields ih =>
    rw [meets_obj, allM_eq_error_iff] at h
    obtain ⟨before, ⟨key, condition⟩, after, rfl, hbefore, hentry⟩ := h
    rw [← meets_obj] at hbefore
    by_cases hjoin : isJoinKey key = true
    · cases hclauses : condition.items? with
      | none =>
        rw [meetsField_notClauses hjoin hclauses] at hentry
        exact Except.error.inj hentry ▸ .notClauses hbefore hjoin hclauses
      | some clauses =>
        obtain rfl := Json.eq_arr_of_items? hclauses
        rw [meetsField_clauses hjoin] at hentry
        cases heach : clauses.mapM (meets doc) with
        | ok results =>
          rw [heach] at hentry
          cases hentry
        | error e' =>
          rw [heach] at hentry
          obtain rfl := Except.error.inj hentry
          obtain ⟨front, clause, back, rfl, hfront, hclause⟩ := mapM_eq_error_iff.mp heach
          have hmem : (key, Json.arr (front ++ clause :: back)) ∈
              before ++ (key, Json.arr (front ++ clause :: back)) :: after :=
            List.mem_append_right before List.mem_cons_self
          have hinside := ih key _ hmem clause (List.mem_append_right front List.mem_cons_self) hclause
          exact .clause hbefore hjoin hfront hinside
    · rw [Bool.not_eq_true] at hjoin
      by_cases hoperator : isOperatorKey key = true
      · rw [meetsField_topLevel hoperator hjoin] at hentry
        exact Except.error.inj hentry ▸ .topLevel hbefore hoperator hjoin
      · exact fault_of_test hbefore (Bool.not_eq_true _ ▸ hoperator) hentry

/-- A fault that stands first is seen by every document, if not another one in its place. -/
theorem Fault.refused {filter : Json} (h : Fault .first filter e) (doc : Json) :
    ∃ e, QueryGateway.Document.meets doc filter = .error e := by
  induction h with
  | notObject other => exact ⟨_, Fault.meets (.notObject other)⟩
  | topLevel seen operator unjoined =>
    obtain rfl : _ = [] := seen
    exact ⟨_, Fault.meets (.topLevel rfl operator unjoined)⟩
  | notClauses seen joins other =>
    obtain rfl : _ = [] := seen
    exact ⟨_, Fault.meets (.notClauses rfl joins other)⟩
  | @clause before after key front back clause _ seen joins _ _ ih =>
    obtain rfl : before = [] := seen
    obtain ⟨e, hclause⟩ := ih
    have hmem : clause ∈ front ++ clause :: back := List.mem_append_right front List.mem_cons_self
    cases heach : (front ++ clause :: back).mapM (QueryGateway.Document.meets doc) with
    | ok results =>
      obtain ⟨taken, -, htaken⟩ := exists_ok_of_mapM heach hmem
      rw [hclause] at htaken
      cases htaken
    | error e' =>
      refine ⟨e', meets_of_entry rfl ?_⟩
      rw [meetsField_clauses joins, heach]
      rfl
  | operator seen plain object reached unknown =>
    obtain rfl : _ = [] := seen
    obtain rfl : _ = [] := reached
    exact ⟨_, Fault.meets (.operator rfl plain object rfl unknown)⟩
  | operand seen plain object reached known untaken =>
    obtain rfl : _ = [] := seen
    obtain rfl : _ = [] := reached
    exact ⟨_, Fault.meets (.operand rfl plain object rfl known untaken)⟩

/-- A filter that is not well formed has faults, and a document refuses a filter exactly for a
fault that it sees: one that stands behind no entry and no test that does not hold.  A filter
with a fault that stands first is refused by every document. -/
theorem refused_for_fault_in_sight (filter : Json) :
    (¬WellFormed filter ↔ ∃ e, Fault .full filter e) ∧
      (∀ doc e, meets doc filter = .error e ↔ Fault (.on doc) filter e) ∧
      ((∃ e, Fault .first filter e) → ∀ doc, ∃ e, meets doc filter = .error e) := by
  refine ⟨not_wellFormed_iff filter, ?_, ?_⟩
  · intro doc e
    exact ⟨fault_of_meets, Fault.meets⟩
  · rintro ⟨e, hfault⟩ doc
    exact hfault.refused doc

-- A document that does not meet the first entry does not see the fault in the second one.
example :
    let filter : Json := .obj [("a", .bool true), ("b", .obj [("$regex", .str "x")])]
    (meets (.obj [("a", .bool false)]) filter).toOption = some false ∧
      (meets (.obj [("a", .bool true)]) filter).toOption = none := by
  decide +kernel

end Document
end QueryGateway
