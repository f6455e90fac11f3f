import QueryGateway.Json.Basic
import QueryGateway.Number.Decimal
import QueryGateway.Text.Split

/-!
Dotted paths inside JSON values.

A path is its segments.  Reading follows names into objects and indices into
arrays; writing and erasing go through objects only.  Writing makes the objects
that are missing on the way, and fails without any change when something else
stands in the way.
-/

namespace QueryGateway.Json

/-- The segments of a dotted path. -/
def segments (path : String) : List String := Text.splitString '.' path

/-- The index that a segment stands for: decimal digits, after a plus sign or none. -/
def index? (segment : String) : Option Nat :=
  let digits := match segment.toList with
    | '+' :: rest => rest
    | s => s
  if digits.isEmpty ∨ ¬digits.all Char.isDigit then none else some (Decimal.digitsValue digits)

/-- Follows segments into objects by name and into arrays by index. -/
def walk : Json → List String → Option Json
  | value, [] => some value
  | .obj fields, segment :: rest => (Fields.get? segment fields).bind fun v => v.walk rest
  | .arr items, segment :: rest =>
    ((index? segment).bind fun i => items[i]?).bind fun v => v.walk rest
  | _, _ :: _ => none

/-- The value at a dotted path. -/
def at? (path : String) (value : Json) : Option Json := value.walk (segments path)

namespace Fields

/-- Sets the value at a path.  The error is the segment that leads to a value
which is not an object. -/
def setPath (value : Json) : List String → Fields → Except String Fields
  | [], fields => .ok fields
  | [leaf], fields => .ok (set leaf value fields)
  | segment :: rest, fields =>
    match get? segment fields with
    | none => (setPath value rest []).map fun child => set segment (.obj child) fields
    | some (.obj child) =>
      (setPath value rest child).map fun child => set segment (.obj child) fields
    | some _ => .error segment

/-- Erases the value at a path, if objects lead to it. -/
def erasePath : List String → Fields → Fields
  | [], fields => fields
  | [leaf], fields => erase leaf fields
  | segment :: rest, fields =>
    match get? segment fields with
    | some (.obj child) => set segment (.obj (erasePath rest child)) fields
    | _ => fields

end Fields
end QueryGateway.Json
