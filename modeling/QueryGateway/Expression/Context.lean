import QueryGateway.Dictionary
import QueryGateway.Json.Basic

/-!
What a request offers to expressions: captured path parameters, query
parameters, the body and the claims of the caller.
-/

namespace QueryGateway

/-- A query parameter: one value, or a list when the parameter is repeated or
declared as a list. -/
inductive QueryValue where
  | single (value : String)
  | multi (values : List String)
deriving DecidableEq, Repr

namespace QueryValue

def toJson : QueryValue → Json
  | .single value => .str value
  | .multi values => .arr (values.map .str)

/-- The parameter after one more occurrence. -/
def push (value : String) : QueryValue → QueryValue
  | .single first => .multi [first, value]
  | .multi values => .multi (values ++ [value])

end QueryValue

/-- The parts of a request that expressions read. -/
structure Context where
  path : Dictionary String := {}
  query : Dictionary QueryValue := {}
  body : Json := .null
  auth : Option Json.Fields := none

namespace Context

/-- The namespace `path` as a whole. -/
def pathObject (ctx : Context) : Json := .obj (ctx.path.map Json.str).entries

/-- The namespace `query` as a whole. -/
def queryObject (ctx : Context) : Json := .obj (ctx.query.map QueryValue.toJson).entries

end Context
end QueryGateway
