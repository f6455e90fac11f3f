import QueryGateway.Document.Filter
import QueryGateway.Proofs.Traversal

/-!
What a well-formed filter means.

A filter is tried entry by entry, and an object of operators test by test, up to the first that
does not hold, while clauses are all tried before they are joined.  Where a filter is well
formed none of this can be seen: the answer is the conjunction of its entries, with `$and` the
conjunction and `$or` the disjunction of the answers to the clauses (`meets_eq_describes`).
-/

namespace QueryGateway.Document

open Json (Fields)

/-! ## Operators -/

namespace Operator

/-- Whether an operator takes an operand: the two that look for a field in a list need one. -/
def takes : Operator → Json → Bool
  | .isIn, operand => operand.items?.isSome
  | .notIn, operand => operand.items?.isSome
  | _, _ => true

/-- Whether a field passes a test. -/
def passes (operator : Operator) (field : Option Json) (operand : Json) : Bool :=
  match operator with
  | .eq => valuesEqual field operand
  | .ne => !valuesEqual field operand
  | .gt => ordered field operand (· == .gt)
  | .gte => ordered field operand (· != .lt)
  | .lt => ordered field operand (· == .lt)
  | .lte => ordered field operand (· != .gt)
  | .isIn => operand.items?.any (·.any fun candidate => valuesEqual field candidate)
  | .notIn => !operand.items?.any (·.any fun candidate => valuesEqual field candidate)
  | .isPresent => field.isSome == truthy operand

theorem test_of_takes {operator : Operator} {operand : Json} (h : operator.takes operand = true)
    (field : Option Json) : operator.test field operand = .ok (operator.passes field operand) := by
  cases operator with
  | isIn | notIn =>
    cases operand with
    | arr candidates => rfl
    | _ => cases h
  | _ => rfl

theorem test_of_not_takes {operator : Operator} {operand : Json}
    (h : operator.takes operand = false) (field : Option Json) :
    operator.test field operand = .error (.operandNotArray operator.key) := by
  cases operator with
  | isIn | notIn =>
    cases operand with
    | arr candidates => cases h
    | _ => rfl
  | _ => cases h

theorem key_of_ofKey? {key : String} {operator : Operator} (h : ofKey? key = some operator) :
    operator.key = key := by
  rw [ofKey?] at h
  have hkey := List.find?_some h
  exact eq_of_beq hkey

end Operator

/-! ## Conditions -/

/-- The tests of a condition that is an object of operators. -/
def operators? : Json → Option Fields
  | .obj fields => if isOperatorObject fields then some fields else none
  | _ => none

/-- Whether a test can be made: its key names an operator that takes its operand. -/
def isSupported (test : String × Json) : Bool :=
  (Operator.ofKey? test.1).any fun operator => operator.takes test.2

/-- Whether a field passes a test that can be made. -/
def passesTest (field : Option Json) (test : String × Json) : Bool :=
  (Operator.ofKey? test.1).any fun operator => operator.passes field test.2

/-- Whether a field is as a condition says: it passes all tests of an object of operators, and
equals everything else. -/
def passesCondition (field : Option Json) (condition : Json) : Bool :=
  match operators? condition with
  | some tests => tests.all (passesTest field)
  | none => valuesEqual field condition

/-- Whether the operators of a condition, if it has any, can all be tested. -/
def isWellFormed (condition : Json) : Bool :=
  (operators? condition).all fun tests => tests.all isSupported

/-- Makes one test. -/
def tryTest (field : Option Json) (test : String × Json) : Except Error Bool :=
  match Operator.ofKey? test.1 with
  | none => .error (.unsupportedQueryOperator test.1)
  | some operator => operator.test field test.2

theorem tryTest_of_supported {test : String × Json} (h : isSupported test = true)
    (field : Option Json) : tryTest field test = .ok (passesTest field test) := by
  rw [isSupported] at h
  rw [tryTest, passesTest]
  cases hkey : Operator.ofKey? test.1 with
  | none =>
    rw [hkey] at h
    cases h
  | some operator =>
    rw [hkey] at h
    exact Operator.test_of_takes h field

theorem matchesOperators_eq (field : Option Json) (tests : Fields) :
    matchesOperators field tests = tests.allM (tryTest field) := by
  induction tests with
  | nil => rfl
  | cons test rest ih =>
    obtain ⟨key, operand⟩ := test
    rw [matchesOperators, List.allM_cons, tryTest, ih]
    cases Operator.ofKey? key with
    | none => rfl
    | some operator =>
      simp only
      cases operator.test field operand with
      | error e => rfl
      | ok taken => cases taken <;> rfl

theorem matchesCondition_of_operators {condition : Json} {tests : Fields}
    (h : operators? condition = some tests) (field : Option Json) :
    matchesCondition field condition = matchesOperators field tests := by
  cases condition with
  | obj fields =>
    rw [operators?] at h
    rw [matchesCondition]
    split at h
    · rw [if_pos ‹_›, Option.some.inj h]
    · cases h
  | _ => cases h

theorem matchesCondition_of_value {condition : Json} (h : operators? condition = none)
    (field : Option Json) : matchesCondition field condition = .ok (valuesEqual field condition) := by
  cases condition with
  | obj fields =>
    rw [operators?] at h
    rw [matchesCondition]
    split at h
    · cases h
    · rw [if_neg ‹_›]
  | _ => rfl

theorem matchesCondition_of_wellFormed {condition : Json} (h : isWellFormed condition = true)
    (field : Option Json) :
    matchesCondition field condition = .ok (passesCondition field condition) := by
  rw [isWellFormed] at h
  rw [passesCondition]
  cases htests : operators? condition with
  | none => exact matchesCondition_of_value htests field
  | some tests =>
    rw [htests, Option.all_some, List.all_eq_true] at h
    rw [matchesCondition_of_operators htests, matchesOperators_eq]
    exact allM_eq_ok_all fun test hmem => tryTest_of_supported (h test hmem) field

/-! ## Filters -/

/-- Filters whose entries are all conditions on paths or clauses to be joined. -/
inductive WellFormed : Json → Prop
  | empty : WellFormed (.obj [])
  | condition {path : String} {condition : Json} {rest : Fields}
    (plain : isOperatorKey path = false) (formed : isWellFormed condition = true)
    (more : WellFormed (.obj rest)) : WellFormed (.obj ((path, condition) :: rest))
  | clauses {key : String} {clauses : List Json} {rest : Fields} (joins : isJoinKey key = true)
    (each : ∀ clause ∈ clauses, WellFormed clause) (more : WellFormed (.obj rest)) :
    WellFormed (.obj ((key, .arr clauses) :: rest))

/-- Whether an entry of a filter is well formed. -/
def WellFormedEntry (entry : String × Json) : Prop :=
  isOperatorKey entry.1 = false ∧ isWellFormed entry.2 = true ∨
    isJoinKey entry.1 = true ∧
      ∃ clauses, entry.2 = .arr clauses ∧ ∀ clause ∈ clauses, WellFormed clause

theorem wellFormed_obj_iff {fields : Fields} :
    WellFormed (.obj fields) ↔ ∀ entry ∈ fields, WellFormedEntry entry := by
  induction fields with
  | nil => exact iff_of_true .empty nofun
  | cons entry rest ih =>
    obtain ⟨key, condition⟩ := entry
    rw [List.forall_mem_cons]
    constructor
    · intro h
      cases h with
      | condition plain formed more => exact ⟨.inl ⟨plain, formed⟩, ih.mp more⟩
      | clauses joins each more => exact ⟨.inr ⟨joins, _, rfl, each⟩, ih.mp more⟩
    · rintro ⟨⟨plain, formed⟩ | ⟨joins, clauses, hclauses, each⟩, hrest⟩
      · exact .condition plain formed (ih.mpr hrest)
      · obtain rfl : condition = .arr clauses := hclauses
        exact .clauses joins each (ih.mpr hrest)

mutual
/-- Whether a document is as a filter says. -/
def describes (doc : Json) : (filter : Json) → Bool
  | .obj fields => describesFields doc fields
  | _ => false

/-- Whether a document is as every entry of a filter says. -/
def describesFields (doc : Json) : List (String × Json) → Bool
  | [] => true
  | (key, condition) :: rest => describesField doc key condition && describesFields doc rest

/-- Whether a document is as one entry of a filter says. -/
def describesField (doc : Json) (key : String) : (condition : Json) → Bool
  | .arr clauses =>
    if key = "$and" then describesEach doc clauses
    else if key = "$or" then describesSome doc clauses
    else passesCondition (doc.at? key) (.arr clauses)
  | condition => passesCondition (doc.at? key) condition

/-- Whether a document is as each of several filters says. -/
def describesEach (doc : Json) : List Json → Bool
  | [] => true
  | clause :: rest => describes doc clause && describesEach doc rest

/-- Whether a document is as one of several filters says. -/
def describesSome (doc : Json) : List Json → Bool
  | [] => false
  | clause :: rest => describes doc clause || describesSome doc rest
end

theorem describesEach_eq (doc : Json) (clauses : List Json) :
    describesEach doc clauses = clauses.all (describes doc) := by
  induction clauses with
  | nil => rfl
  | cons clause rest ih => rw [describesEach, List.all_cons, ih]

theorem describesSome_eq (doc : Json) (clauses : List Json) :
    describesSome doc clauses = clauses.any (describes doc) := by
  induction clauses with
  | nil => rfl
  | cons clause rest ih => rw [describesSome, List.any_cons, ih]

theorem describes_obj (doc : Json) (fields : Fields) :
    describes doc (.obj fields) = fields.all fun entry => describesField doc entry.1 entry.2 := by
  rw [describes]
  induction fields with
  | nil => rfl
  | cons entry rest ih => rw [describesFields, List.all_cons, ih]

theorem describesField_clauses {key : String} (h : isJoinKey key = true) (doc : Json)
    (clauses : List Json) : describesField doc key (.arr clauses) =
      join key (clauses.map (describes doc)) := by
  rw [describesField, describesEach_eq, describesSome_eq, join, List.all_map, List.any_map]
  simp only [isJoinKey, Bool.or_eq_true, beq_iff_eq] at h
  rcases h with rfl | rfl <;> rfl

/-! ## Trying a filter -/

theorem isOperatorKey_of_isJoinKey {key : String} (h : isJoinKey key = true) :
    isOperatorKey key = true := by
  simp only [isJoinKey, Bool.or_eq_true, beq_iff_eq] at h
  rcases h with rfl | rfl <;> rfl

theorem isJoinKey_of_plain {key : String} (h : isOperatorKey key = false) :
    isJoinKey key = false :=
  Bool.eq_false_iff.mpr fun hjoin => by simp [isOperatorKey_of_isJoinKey hjoin] at h

theorem wellFormedEntry_path {path : String} (h : isOperatorKey path = false) (condition : Json) :
    WellFormedEntry (path, condition) ↔ isWellFormed condition = true := by
  simp [WellFormedEntry, h, isJoinKey_of_plain h]

theorem wellFormedEntry_clauses {key : String} (h : isJoinKey key = true) (clauses : List Json) :
    WellFormedEntry (key, .arr clauses) ↔ ∀ clause ∈ clauses, WellFormed clause := by
  simp [WellFormedEntry, h, isOperatorKey_of_isJoinKey h]

theorem describesField_path {path : String} (h : isOperatorKey path = false) (doc condition : Json) :
    describesField doc path condition = passesCondition (doc.at? path) condition := by
  cases condition with
  | arr clauses =>
    have hjoin := isJoinKey_of_plain h
    simp only [isJoinKey, Bool.or_eq_false_iff, beq_eq_false_iff_ne] at hjoin
    rw [describesField, if_neg hjoin.1, if_neg hjoin.2]
  | _ => rfl

theorem meetsEach_eq (doc : Json) (clauses : List Json) :
    meetsEach doc clauses = clauses.mapM (meets doc) := by
  induction clauses with
  | nil => rfl
  | cons clause rest ih =>
    rw [meetsEach, List.mapM_cons, ih]
    cases meets doc clause with
    | error e => rfl
    | ok taken => cases rest.mapM (meets doc) <;> rfl

theorem meets_obj (doc : Json) (fields : Fields) :
    meets doc (.obj fields) = fields.allM fun entry => meetsField doc entry.1 entry.2 := by
  rw [meets]
  induction fields with
  | nil => rfl
  | cons entry rest ih =>
    obtain ⟨key, condition⟩ := entry
    rw [meetsFields, List.allM_cons, ih]
    simp only
    cases meetsField doc key condition with
    | error e => rfl
    | ok taken => cases taken <;> rfl

theorem meetsField_path {path : String} (h : isOperatorKey path = false) (doc condition : Json) :
    meetsField doc path condition = matchesCondition (doc.at? path) condition := by
  have hpath : meetsField doc path condition = meetsPath doc path condition := by
    cases condition <;> simp [meetsField, isJoinKey_of_plain h]
  rw [hpath, meetsPath, h]
  rfl

theorem meetsField_clauses {key : String} (h : isJoinKey key = true) (doc : Json)
    (clauses : List Json) :
    meetsField doc key (.arr clauses) = (clauses.mapM (meets doc)).map (join key) := by
  rw [meetsField, if_pos h, meetsEach_eq]

theorem meets_cons {doc : Json} {key : String} {condition : Json} {rest : Fields}
    (hfield : meetsField doc key condition = .ok (describesField doc key condition))
    (hrest : meets doc (.obj rest) = .ok (describes doc (.obj rest))) :
    meets doc (.obj ((key, condition) :: rest)) =
      .ok (describes doc (.obj ((key, condition) :: rest))) := by
  rw [meets_obj] at hrest
  rw [meets_obj, List.allM_cons, hfield, hrest, describes_obj, describes_obj, List.all_cons]
  cases describesField doc key condition <;> rfl

/-- A well-formed filter can be judged on every document, and the answer is its meaning. -/
theorem meets_eq_describes {filter : Json} (h : WellFormed filter) (doc : Json) :
    meets doc filter = .ok (describes doc filter) := by
  induction h with
  | empty => rfl
  | condition plain formed _ ih =>
    refine meets_cons ?_ ih
    rw [meetsField_path plain, describesField_path plain]
    exact matchesCondition_of_wellFormed formed _
  | clauses joins _ _ ihs ih =>
    refine meets_cons ?_ ih
    have heach := mapM_eq_ok_iff.mpr (List.forall₂_map_right_iff.mpr (List.forall₂_same.mpr ihs))
    rw [meetsField_clauses joins, describesField_clauses joins, heach]
    rfl

end QueryGateway.Document
