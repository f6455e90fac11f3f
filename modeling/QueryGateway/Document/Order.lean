import QueryGateway.Json.Path

/-!
Comparing values in filters and sorts.

Values of one kind are compared, values of different kinds are not: numbers by
their nearest binary64 numbers, strings character by character, booleans, and
dates by what they hold.  A sort needs an order for everything, and falls back on
an order of kinds.
-/

namespace QueryGateway.Document

/-- Whether a key names an operator. -/
def isOperatorKey (key : String) : Bool := key.toList.head? == some '$'

/-- Whether an object is a date: `$date` is its only field. -/
def isDate : Json.Fields → Bool
  | [(key, _)] => key == "$date"
  | _ => false

/-- The order of two values, if they can be compared. -/
def compareValues : Json → Json → Option Ordering
  | .num a, .num b => some (a.order b)
  | .str a, .str b => some (compare a b)
  | .bool a, .bool b => some (compare a b)
  | .obj [(k, a)], .obj [(l, b)] =>
    if k == "$date" && l == "$date" then compareValues a b else none
  | _, _ => none

/-- The rank of a kind of value in a sort.  A missing value ranks with null. -/
def rank : Option Json → Nat
  | none => 0
  | some .null => 0
  | some (.num _) => 1
  | some (.str _) => 2
  | some (.obj _) => 3
  | some (.arr _) => 4
  | some (.bool _) => 5

/-- The order of two values in a sort: by comparison if they can be compared, and
by rank otherwise. -/
def sortOrder (a b : Option Json) : Ordering :=
  match a, b with
  | some x, some y => (compareValues x y).getD (compare (rank a) (rank b))
  | _, _ => compare (rank a) (rank b)

/-- Whether a value counts as true: anything but null, false and zero. -/
def truthy : Json → Bool
  | .null => false
  | .bool b => b
  | .num n => n.nonzero
  | _ => true

end QueryGateway.Document
