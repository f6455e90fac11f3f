import QueryGateway.Dictionary
import QueryGateway.Json.Record

/-!
Route definitions: what a configuration says about one operation.
-/

namespace QueryGateway.Route

/-- The mapping of one operation from requests to a query. -/
structure Definition where
  method : String
  path : String
  query : Json
  adapter : Option String := none
  fieldMap : Option (Dictionary String) := none
  returns : Option String := none
  arrayParams : List String := []
  status : Nat := 200
deriving Repr

namespace Definition

open Json.Source

/-- The names of the fields, in the order in which they are written. -/
def fieldNames : List String :=
  ["method", "path", "query", "adapter", "fieldMap", "returns", "arrayParams", "status"]

/-- Reads a definition. -/
def ofSource? (value : Json.Source) : Option Definition := do
  match ← value.record? fieldNames with
  | [method, path, query, adapter, fieldMap, returns, arrayParams, status] =>
    let method ← required str? method
    let path ← required str? path
    let query ← required value? query
    let adapter ← optional (nullable str?) none adapter
    let fieldMap ← optional (nullable (entriesOf str?)) none fieldMap
    let returns ← optional (nullable str?) none returns
    let arrayParams ← optional (listOf str?) [] arrayParams
    let status ← optional (natBelow 65536) 200 status
    some { method, path, query, adapter, fieldMap := fieldMap.map .ofList, returns, arrayParams,
           status }
  | _ => none

/-- Reads a definition from a value. -/
def ofJson? (value : Json) : Option Definition := ofSource? (.ofJson value)

/-- Writes a definition; what is not set is left out. -/
def toJson (d : Definition) : Json :=
  let optionalField (name : String) (value : Option Json) : Json.Fields :=
    value.elim [] fun v => [(name, v)]
  .obj ([("method", .str d.method), ("path", .str d.path), ("query", d.query)] ++
    optionalField "adapter" (d.adapter.map .str) ++
    optionalField "fieldMap" (d.fieldMap.map fun m => .obj (m.map Json.str).entries) ++
    optionalField "returns" (d.returns.map .str) ++
    (if d.arrayParams.isEmpty then [] else [("arrayParams", .arr (d.arrayParams.map .str))]) ++
    [("status", .nat d.status)])

end Definition
end QueryGateway.Route
