import QueryGateway.Number.Basic

/-!
JSON values.

The fields of an object stand in a fixed order that every answer shows.  Setting
a field that is there keeps its place, setting a new one appends it, and erasing
a field moves the last one into the gap.  `Json.same` is equality of values: it
ignores the order of fields, and keeps integers apart from binary64 numbers.
-/

namespace QueryGateway

/-- A JSON value. -/
inductive Json where
  | null
  | bool (value : Bool)
  | num (value : Number)
  | str (value : String)
  | arr (items : List Json)
  | obj (fields : List (String × Json))
deriving Repr, Inhabited

namespace Json

/-- The fields of an object, in order. -/
abbrev Fields := List (String × Json)

namespace Fields

/-- The value of the first field of that name. -/
def get? (key : String) (fields : Fields) : Option Json := fields.lookup key

/-- Whether a field of that name is there. -/
def has (key : String) (fields : Fields) : Bool := fields.any (·.1 == key)

/-- Sets a field in its place, or appends it. -/
def set (key : String) (value : Json) : Fields → Fields
  | [] => [(key, value)]
  | (k, v) :: rest => if k = key then (k, value) :: rest else (k, v) :: set key value rest

/-- Erases a field; the last field moves into its place. -/
def erase (key : String) : Fields → Fields
  | [] => []
  | (k, v) :: rest =>
    if k = key then
      match rest.getLast? with
      | some last => last :: rest.dropLast
      | none => []
    else (k, v) :: erase key rest

/-- Sets fields one after the other, so a repeated name keeps its first place
and its last value. -/
def ofList (entries : List (String × Json)) : Fields :=
  entries.foldl (fun fields (key, value) => set key value fields) []

end Fields

/-- An integer. -/
def int (n : Int) : Json := .num (.int n)

/-- A natural number. -/
def nat (n : Nat) : Json := .int n

/-- The fields, if the value is an object. -/
def fields? : Json → Option Fields
  | .obj fields => some fields
  | _ => none

/-- The items, if the value is an array. -/
def items? : Json → Option (List Json)
  | .arr items => some items
  | _ => none

/-- The text, if the value is a string. -/
def str? : Json → Option String
  | .str s => some s
  | _ => none

def isNull : Json → Bool
  | .null => true
  | _ => false

/-- A field of an object; other values have none. -/
def field? (key : String) : Json → Option Json
  | .obj fields => Fields.get? key fields
  | _ => none

mutual
/-- Equality of values, whatever the order of their fields. -/
def same : Json → Json → Bool
  | .null, .null => true
  | .bool a, .bool b => a == b
  | .num a, .num b => a.same b
  | .str a, .str b => a == b
  | .arr a, .arr b => sameItems a b
  | .obj a, .obj b => a.length == b.length && sameFields a b
  | _, _ => false

/-- Equality item by item. -/
def sameItems : List Json → List Json → Bool
  | [], [] => true
  | a :: as, b :: bs => a.same b && sameItems as bs
  | _, _ => false

/-- Whether every field on the left has the same value on the right. -/
def sameFields : List (String × Json) → List (String × Json) → Bool
  | [], _ => true
  | (key, a) :: rest, fields =>
    (match Fields.get? key fields with
    | some b => a.same b
    | none => false) && sameFields rest fields
end

instance : BEq Json := ⟨same⟩

end Json

/-- A row of an answer, whichever engine a query runs on: columns or fields, in order. -/
abbrev Row := Json.Fields

end QueryGateway
