import QueryGateway.Json.Basic

/-!
What a JSON text says, before it is known what is asked of it.

A text can be well formed without standing for a value: a string may escape half a
surrogate pair or hold bytes of no character, a numeral may be too large, and arrays and
objects may be nested too deep.  Such a part does no harm where nobody looks at it.
Repeated names of fields are kept too, for those who refuse them.
-/

namespace QueryGateway.Json

/-- A part of a JSON text.  `void` is one that stands for no value, and so does a name of
a field that is missing. -/
inductive Source where
  | void
  | null
  | bool (value : Bool)
  | num (value : Number)
  | str (value : String)
  | arr (items : List Source)
  | obj (entries : List (Option String × Source))
deriving Repr, Inhabited

namespace Source

mutual
/-- The value of a part, if it has one.  A repeated field keeps its first place and its
last value. -/
def value? : Source → Option Json
  | .void => none
  | .null => some .null
  | .bool b => some (.bool b)
  | .num n => some (.num n)
  | .str s => some (.str s)
  | .arr items => (itemValues? items).map .arr
  | .obj entries => (entryValues? entries).map fun entries => .obj (Fields.ofList entries)

/-- The values of parts, if each has one. -/
def itemValues? : List Source → Option (List Json)
  | [] => some []
  | item :: rest => do
    let value ← item.value?
    let values ← itemValues? rest
    some (value :: values)

/-- The names and values of entries, if each has both. -/
def entryValues? : List (Option String × Source) → Option (List (String × Json))
  | [] => some []
  | (name, part) :: rest => do
    let name ← name
    let value ← part.value?
    let values ← entryValues? rest
    some ((name, value) :: values)
end

/-- Whether a part stands for a value. -/
def isSound (part : Source) : Bool := part.value?.isSome

mutual
/-- A part that stands for a value. -/
def ofJson : Json → Source
  | .null => .null
  | .bool b => .bool b
  | .num n => .num n
  | .str s => .str s
  | .arr items => .arr (ofItems items)
  | .obj fields => .obj (ofFields fields)

/-- Parts that stand for values. -/
def ofItems : List Json → List Source
  | [] => []
  | item :: rest => ofJson item :: ofItems rest

/-- Entries that stand for fields. -/
def ofFields : List (String × Json) → List (Option String × Source)
  | [] => []
  | (name, value) :: rest => (some name, ofJson value) :: ofFields rest
end

end Source
end QueryGateway.Json
