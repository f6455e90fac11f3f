import QueryGateway.Expression.Reader
import QueryGateway.FailureKind
import QueryGateway.Route.Basic
import QueryGateway.Route.Definition

/-!
From definitions to routes.

Everything that can be checked without adapters is checked here: method, path, the
expressions of the query, the field map, the pointer and the status, in this order.
-/

namespace QueryGateway.Route

/-- What can be wrong with a definition. -/
inductive CompilationError where
  | invalidMethod (method path : String)
  | invalidPath (error : PathError)
  | expression (error : ExpressionError)
  | fieldMap (label : String) (error : Response.FieldMapError)
  | pointer (label : String) (error : Response.PointerError)
  | invalidStatus (label : String) (status : Nat)
deriving Repr

namespace CompilationError

def message : CompilationError → String
  | .invalidMethod method path => s!"Invalid HTTP method '{method}' for path {path}"
  | .invalidPath error => error.message
  | .expression error => error.message
  | .fieldMap label error => s!"{label}: {error.message}"
  | .pointer label error => s!"{label}: {error.message}"
  | .invalidStatus label status => s!"{label}: status {status} is not a valid HTTP status"

def kind : CompilationError → FailureKind
  | .expression error => error.kind
  | _ => .validation

end CompilationError

mutual
/-- The strings in a value, in order.  Names of fields are not among them. -/
def strings : Json → List String
  | .str s => [s]
  | .arr items => itemStrings items
  | .obj fields => fieldStrings fields
  | _ => []

/-- The strings in the items of an array. -/
def itemStrings : List Json → List String
  | [] => []
  | item :: rest => strings item ++ itemStrings rest

/-- The strings in the values of an object. -/
def fieldStrings : List (String × Json) → List String
  | [] => []
  | (_, value) :: rest => strings value ++ fieldStrings rest
end

/-- The expressions of a query template. -/
def expressions (d : Delimiters) (template : Json) : Expr.Reading (List Expr) :=
  ((strings template).mapM fun text => Expr.readTemplate d text.toList).map List.flatten

/-- The method that a definition names, in upper case. -/
def methodOf (definition : Definition) : Except CompilationError String :=
  let chars := Text.trim definition.method.toList
  if chars.isEmpty ∨ ¬chars.all Char.isAlpha then
    .error (.invalidMethod definition.method definition.path)
  else .ok (String.ofList chars).toUpper

/-- Whether a number can be the status of an answer. -/
def isStatus (n : Nat) : Bool := 100 ≤ n && n ≤ 599

/-- Compiles a definition. -/
def compile (d : Delimiters) (definition : Definition) : Except CompilationError Route := do
  let method ← methodOf definition
  let label := labelOf method definition.path
  let pattern ← (Pattern.ofPath definition.path).mapError .invalidPath
  let exprs ← (expressions d definition.query).mapError .expression
  let declared := definition.fieldMap.mapM Response.FieldMap.ofDeclared
  let fieldMap ← declared.mapError (.fieldMap label)
  let extraction ← (definition.returns.mapM Response.Pointer.read).mapError (.pointer label)
  if !isStatus definition.status then throw (.invalidStatus label definition.status)
  return {
    method, path := definition.path, pattern, template := definition.query
    adapter := definition.adapter, usesAuth := Expr.anyReadsPropertyOf .auth exprs
    fieldMap, extraction, arrayParams := definition.arrayParams, status := definition.status }

end QueryGateway.Route
