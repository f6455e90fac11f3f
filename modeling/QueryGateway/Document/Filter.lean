import QueryGateway.Document.Error
import QueryGateway.Document.Order

/-!
Filters over documents.

A filter is an object.  Each field of it is a condition on the value at a dotted
path, or one of `$and` and `$or` over a list of filters, and all of them have to
hold.  A condition is a literal to be equal to, or an object of operators.  Fields
are tried in order, and the first that does not hold ends the trial.
-/

namespace QueryGateway.Document

/-- The tests that a condition can make. -/
inductive Operator where
  | eq
  | ne
  | gt
  | gte
  | lt
  | lte
  | isIn
  | notIn
  | isPresent
deriving DecidableEq, Repr

namespace Operator

def all : List Operator := [.eq, .ne, .gt, .gte, .lt, .lte, .isIn, .notIn, .isPresent]

/-- The key of an operator in a condition. -/
def key : Operator → String
  | .eq => "$eq"
  | .ne => "$ne"
  | .gt => "$gt"
  | .gte => "$gte"
  | .lt => "$lt"
  | .lte => "$lte"
  | .isIn => "$in"
  | .notIn => "$nin"
  | .isPresent => "$exists"

/-- The operator of a key. -/
def ofKey? (key : String) : Option Operator := all.find? (·.key == key)

end Operator

/-- Equality of values in filters: numbers are equal if their nearest binary64
numbers are, everything else if it is the same JSON value. -/
def scalarEqual : Json → Json → Bool
  | .num a, .num b => a.order b == .eq
  | a, b => a == b

/-- Equality of a field and a target.  A missing field equals null, and an array
equals a target that is not an array if one of its items does. -/
def valuesEqual (field : Option Json) (target : Json) : Bool :=
  match field, target with
  | none, target => target.isNull
  | some (.arr items), .arr others => scalarEqual (.arr items) (.arr others)
  | some (.arr items), target => items.any fun item => scalarEqual item target
  | some value, target => scalarEqual value target

/-- Whether a field, or one of the items of an array, compares with an operand in
an accepted way. -/
def ordered (field : Option Json) (operand : Json) (accept : Ordering → Bool) : Bool :=
  let test (value : Json) : Bool := (compareValues value operand).any accept
  match field with
  | some (.arr items) => items.any test
  | some value => test value
  | none => false

/-- Whether a field equals an item of a list. -/
def inList (operator : Operator) (field : Option Json) : Json → Except Error Bool
  | .arr candidates => .ok (candidates.any fun candidate => valuesEqual field candidate)
  | _ => .error (.operandNotArray operator.key)

/-- Tests a field against an operand. -/
def Operator.test (operator : Operator) (field : Option Json) (operand : Json) :
    Except Error Bool :=
  match operator with
  | .eq => .ok (valuesEqual field operand)
  | .ne => .ok !(valuesEqual field operand)
  | .gt => .ok (ordered field operand (· == .gt))
  | .gte => .ok (ordered field operand (· != .lt))
  | .lt => .ok (ordered field operand (· == .lt))
  | .lte => .ok (ordered field operand (· != .gt))
  | .isIn => inList operator field operand
  | .notIn => (inList operator field operand).map (!·)
  | .isPresent => .ok (field.isSome == truthy operand)

/-- Whether an object in place of a condition holds operators: it has fields, all
their keys start with a dollar sign, and it is no date. -/
def isOperatorObject (fields : Json.Fields) : Bool :=
  !fields.isEmpty && fields.all (fun (key, _) => isOperatorKey key) && !isDate fields

/-- Tests a field against operators, up to the first that fails. -/
def matchesOperators (field : Option Json) : Json.Fields → Except Error Bool
  | [] => .ok true
  | (key, operand) :: rest =>
    match Operator.ofKey? key with
    | none => .error (.unsupportedQueryOperator key)
    | some operator =>
      match operator.test field operand with
      | .error e => .error e
      | .ok false => .ok false
      | .ok true => matchesOperators field rest

/-- Tests a field against a condition. -/
def matchesCondition (field : Option Json) : Json → Except Error Bool
  | .obj fields =>
    if isOperatorObject fields then matchesOperators field fields
    else .ok (valuesEqual field (.obj fields))
  | literal => .ok (valuesEqual field literal)

/-- Tests the value at a path; a path that looks like an operator names none. -/
def meetsPath (doc : Json) (path : String) (condition : Json) : Except Error Bool :=
  if isOperatorKey path then .error (.unsupportedTopLevel path)
  else matchesCondition (doc.at? path) condition

/-- Whether a key joins a list of filters. -/
def isJoinKey (key : String) : Bool := key == "$and" || key == "$or"

/-- The answer to a list of filters from the answers to each. -/
def join (key : String) (results : List Bool) : Bool :=
  if key == "$and" then results.all id else results.any id

mutual
/-- Whether a document meets a filter. -/
def meets (doc : Json) : Json → Except Error Bool
  | .obj fields => meetsFields doc fields
  | got => .error (.filterNotObject got)

/-- Whether a document meets the fields of a filter, up to the first it does not. -/
def meetsFields (doc : Json) : List (String × Json) → Except Error Bool
  | [] => .ok true
  | (key, condition) :: rest =>
    match meetsField doc key condition with
    | .error e => .error e
    | .ok false => .ok false
    | .ok true => meetsFields doc rest

/-- Whether a document meets one field of a filter. -/
def meetsField (doc : Json) (key : String) : (condition : Json) → Except Error Bool
  | .arr clauses =>
    if isJoinKey key then (meetsEach doc clauses).map (join key)
    else meetsPath doc key (.arr clauses)
  | condition =>
    if isJoinKey key then .error (.clausesNotArray key) else meetsPath doc key condition

/-- Whether a document meets each of a list of filters; all of them are tried. -/
def meetsEach (doc : Json) : List Json → Except Error (List Bool)
  | [] => .ok []
  | clause :: rest =>
    match meets doc clause with
    | .error e => .error e
    | .ok result => (meetsEach doc rest).map (result :: ·)
end

end QueryGateway.Document
