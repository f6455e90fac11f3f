import QueryGateway.Expression.Value

/-!
How values reach a Postgres server: the native parameter that each one is bound as.
-/

namespace QueryGateway.Sql

/-- A native parameter. -/
inductive Bind where
  | null
  | bool (value : Bool)
  | int (value : Int)
  | float (value : Binary64)
  | text (value : String)
  | textArray (values : List String)
  | json (value : Json)
  | timestamp (value : Instant)
deriving Repr, Inhabited

namespace Bind

/-- The strings of a list that holds nothing else. -/
def strings? (items : List Json) : Option (List String) := items.mapM Json.str?

/-- The parameter for a value.  Integers beyond a signed 64-bit word are bound as
binary64 numbers, and arrays as text arrays if all their items are strings. -/
def ofValue : Value → Bind
  | .undefined => .null
  | .instant t => .timestamp t
  | .json .null => .null
  | .json (.bool b) => .bool b
  | .json (.num n) =>
    match n.signed? with
    | some i => .int i
    | none => .float n.toBinary64
  | .json (.str s) => .text s
  | .json (.arr items) =>
    match strings? items with
    | some values => .textArray values
    | none => .json (.arr items)
  | .json (.obj fields) => .json (.obj fields)

end Bind
end QueryGateway.Sql
