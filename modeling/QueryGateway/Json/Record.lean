import QueryGateway.Json.Source

/-!
Reading values of fixed fields.

A record is written as an object, whose unknown fields are passed over and whose
known ones stand at most once, or as an array with the known fields in order.
-/

namespace QueryGateway.Json.Source

/-- The value of the first entry of that name. -/
def valueOf? (name : String) (entries : List (Option String × Source)) : Option Source :=
  entries.lookup (some name)

/-- Whether every entry has a name, and none of these names stands twice. -/
def areApart (names : List String) (entries : List (Option String × Source)) : Bool :=
  entries.all (·.1.isSome) &&
    names.all fun name => (entries.filter fun entry => entry.1 == some name).length ≤ 1

/-- The fields of a record by position, or nothing when the value is no record of these
names. -/
def record? (names : List String) : Source → Option (List (Option Source))
  | .obj entries =>
    if areApart names entries then some (names.map fun name => valueOf? name entries) else none
  | .arr items =>
    if items.length ≤ names.length then
      some (items.map some ++ List.replicate (names.length - items.length) none)
    else none
  | _ => none

/-- Reads a field that has to be there. -/
def required {α : Type} (read : Source → Option α) : Option Source → Option α
  | some value => read value
  | none => none

/-- Reads a field that has a default. -/
def optional {α : Type} (read : Source → Option α) (default : α) : Option Source → Option α
  | some value => read value
  | none => some default

/-- Reads a value that may be null. -/
def nullable {α : Type} (read : Source → Option α) : Source → Option (Option α)
  | .null => some none
  | value => (read value).map some

/-- Reads a string. -/
def str? : Source → Option String
  | .str s => some s
  | _ => none

/-- Reads a list. -/
def listOf {α : Type} (read : Source → Option α) : Source → Option (List α)
  | .arr items => items.mapM read
  | _ => none

/-- Reads the values of an object by name. -/
def entriesOf {α : Type} (read : Source → Option α) : Source → Option (List (String × α))
  | .obj entries => entries.mapM fun (name, value) => do some (← name, ← read value)
  | _ => none

/-- Reads a natural number below a limit. -/
def natBelow (limit : Nat) : Source → Option Nat
  | .num n => n.unsigned?.bind fun value => if value < limit then some value else none
  | _ => none

/-- The names that are written where one of several alternatives is chosen: the name
alone, or an object with nothing but an entry of that name, whose value then has to be
`bare`. -/
def choice? (bare : Source → Bool) : Source → Option String
  | .str name => some name
  | .obj [(name, value)] => if bare value then name else none
  | _ => none

/-- Whether a part is null. -/
def isNull : Source → Bool
  | .null => true
  | _ => false

end QueryGateway.Json.Source
