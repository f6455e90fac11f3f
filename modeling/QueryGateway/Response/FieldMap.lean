import QueryGateway.Dictionary
import QueryGateway.Json.Basic

/-!
Field maps: the names that columns have in answers.
-/

namespace QueryGateway.Response

/-- Two fields of a map name the same column. -/
structure FieldMapError where
  previous : String
  field : String
  column : String
deriving DecidableEq, Repr

namespace FieldMapError

def message (e : FieldMapError) : String :=
  s!"fields '{e.previous}' and '{e.field}' both map to column '{e.column}'"

end FieldMapError

/-- The field of each column that has a name of its own. -/
structure FieldMap where
  columns : List (String × String)
deriving DecidableEq, Repr

namespace FieldMap

/-- Adds fields, given with their columns, as long as no column has two. -/
def add (columns : List (String × String)) : List (String × String) →
    Except FieldMapError (List (String × String))
  | [] => .ok columns
  | (field, column) :: rest =>
    match columns.lookup column with
    | some previous => .error { previous, field, column }
    | none => add (columns ++ [(column, field)]) rest

/-- The map that a declaration of columns by field stands for. -/
def ofDeclared (declared : Dictionary String) : Except FieldMapError FieldMap :=
  (add [] declared.entries).map fun columns => { columns }

/-- The number of columns with names of their own. -/
def size (m : FieldMap) : Nat := m.columns.length

/-- The field of a column; a column without one keeps its name. -/
def fieldOf (m : FieldMap) (column : String) : String :=
  (m.columns.lookup column).getD column

/-- Renames the columns of a row. -/
def rename (m : FieldMap) (row : Row) : Row :=
  .ofList (row.map fun (column, value) => (m.fieldOf column, value))

end FieldMap
end QueryGateway.Response
