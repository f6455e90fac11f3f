import QueryGateway.Expression.Context
import QueryGateway.Text.Hex
import QueryGateway.Text.Split

/-!
Query parameters.

A parameter that is repeated is a list.  So is one that is declared as a list,
even when it occurs once; there commas divide values, and empty values drop out.
-/

namespace QueryGateway.Request

/-- Adds one occurrence of a parameter. -/
def addParameter (params : Dictionary QueryValue) (name value : String) : Dictionary QueryValue :=
  match params.get? name with
  | some before => params.insert name (before.push value)
  | none => params.insert name (.single value)

/-- The values of a parameter that is declared as a list. -/
def listed (value : QueryValue) : QueryValue :=
  let occurrences := match value with
    | .single s => [s]
    | .multi values => values
  .multi ((occurrences.flatMap (Text.splitString ',')).filter fun piece => !piece.isEmpty)

/-- Makes lists of the parameters that are declared as lists. -/
def withLists (params : Dictionary QueryValue) : List String → Dictionary QueryValue
  | [] => params
  | name :: rest =>
    match params.get? name with
    | some value => withLists (params.insert name (listed value)) rest
    | none => withLists params rest

/-- The parameters of a query string. -/
def parameters (query : String) (arrayParams : List String) : Dictionary QueryValue :=
  let params := (Text.formPairs query.toList).foldl
    (fun params (name, value) => addParameter params name value) .empty
  withLists params arrayParams

end QueryGateway.Request
