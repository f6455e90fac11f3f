import QueryGateway.Document.Error
import QueryGateway.Document.Order

/-!
Updates of documents.

An update is an object of operators, each with an object from dotted paths to
operands.  They are carried out one after the other, and the first failure leaves
the document as it was.  No path may be `_id`.
-/

namespace QueryGateway.Document

/-- The operators of updates. -/
inductive UpdateOperator where
  | set
  | unset
  | inc
  | push
deriving DecidableEq, Repr

namespace UpdateOperator

def all : List UpdateOperator := [.set, .unset, .inc, .push]

def key : UpdateOperator → String
  | .set => "$set"
  | .unset => "$unset"
  | .inc => "$inc"
  | .push => "$push"

def ofKey? (key : String) : Option UpdateOperator := all.find? (·.key == key)

end UpdateOperator

/-- The sum of a current number, or of nothing, and an increment.  Two signed
64-bit integers have to add up to one; otherwise the sum is a binary64 number,
and has to be finite. -/
def increment : Option Json → Json → Option Json
  | none, .num amount => some (.num amount)
  | some (.num current), .num amount =>
    match current.signed?, amount.signed? with
    | some a, some b => if Number.fitsSigned (a + b) then some (.int (a + b)) else none
    | _, _ => (current.toBinary64.add? amount.toBinary64).map fun x => .num (.float x)
  | _, _ => none

/-- Sets the value at a dotted path. -/
def setAt (path : String) (value : Json) (doc : Json.Fields) : Except Error Json.Fields :=
  (doc.setPath value (Json.segments path)).mapError fun segment => .blockedPath path segment

/-- Carries out one operator at one path. -/
def UpdateOperator.apply (operator : UpdateOperator) (path : String) (operand : Json)
    (doc : Json.Fields) : Except Error Json.Fields :=
  match operator with
  | .set => setAt path operand doc
  | .unset => .ok (Json.Fields.erasePath (Json.segments path) doc)
  | .inc =>
    match increment ((Json.obj doc).at? path) operand with
    | some sum => setAt path sum doc
    | none => .error (.nonNumericField path)
  | .push =>
    match (Json.obj doc).at? path with
    | none => setAt path (.arr [operand]) doc
    | some (.arr items) => setAt path (.arr (items ++ [operand])) doc
    | some _ => .error (.nonArrayField path)

/-- One operator at one path, as an update names it. -/
def applyEntry (operator path : String) (operand : Json) (doc : Json.Fields) :
    Except Error Json.Fields :=
  if path = "_id" then .error .immutableId
  else
    match UpdateOperator.ofKey? operator with
    | some op => op.apply path operand doc
    | none => .error (.unsupportedUpdateOperator operator)

/-- Carries out one operator at all its paths. -/
def applyEntries (operator : String) : Json.Fields → Json.Fields → Except Error Json.Fields
  | [], doc => .ok doc
  | (path, operand) :: rest, doc =>
    match applyEntry operator path operand doc with
    | .error e => .error e
    | .ok doc => applyEntries operator rest doc

/-- Carries out operators one after the other. -/
def applyOperators : Json.Fields → Json.Fields → Except Error Json.Fields
  | [], doc => .ok doc
  | (operator, .obj entries) :: rest, doc =>
    match applyEntries operator entries doc with
    | .error e => .error e
    | .ok doc => applyOperators rest doc
  | (operator, _) :: _, _ => .error (.operatorNotObject operator)

/-- The document after an update. -/
def applyUpdate (update : Json) (doc : Json.Fields) : Except Error Json.Fields :=
  match update with
  | .obj operators =>
    if operators.isEmpty || !operators.all (fun (key, _) => isOperatorKey key) then
      .error .updateWithoutOperators
    else applyOperators operators doc
  | _ => .error .updateNotObject

/-- Whether an update made another document of one. -/
def changed (before after : Json.Fields) : Bool := Json.obj after != Json.obj before

end QueryGateway.Document
