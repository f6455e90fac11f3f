/-!
Dictionaries from names to values, kept in the order of their names.

Names are compared character by character.  Each name has one entry, so the
order of insertion does not show.
-/

namespace QueryGateway

/-- Entries in the order of their names. -/
structure Dictionary (α : Type) where
  entries : List (String × α) := []
deriving Repr, Inhabited

namespace Dictionary

variable {α β : Type}

/-- The dictionary without entries. -/
def empty : Dictionary α := {}

/-- Sets the entry of a name among entries in order. -/
def insertEntry (key : String) (value : α) : List (String × α) → List (String × α)
  | [] => [(key, value)]
  | (k, v) :: rest =>
    if key = k then (key, value) :: rest
    else if key < k then (key, value) :: (k, v) :: rest
    else (k, v) :: insertEntry key value rest

/-- Sets the entry of a name. -/
def insert (key : String) (value : α) (d : Dictionary α) : Dictionary α :=
  { entries := insertEntry key value d.entries }

/-- The value of a name. -/
def get? (key : String) (d : Dictionary α) : Option α := d.entries.lookup key

/-- Sets entries one after the other; the last value of a name stays. -/
def ofList (entries : List (String × α)) : Dictionary α :=
  entries.foldl (fun d (key, value) => d.insert key value) empty

/-- The names, in order. -/
def keys (d : Dictionary α) : List String := d.entries.map (·.1)

/-- The values, in the order of their names. -/
def values (d : Dictionary α) : List α := d.entries.map (·.2)

/-- Applies a function to every value. -/
def map (f : α → β) (d : Dictionary α) : Dictionary β :=
  { entries := d.entries.map fun (key, value) => (key, f value) }

end Dictionary
end QueryGateway
