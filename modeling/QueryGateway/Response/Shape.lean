import QueryGateway.Response.FieldMap
import QueryGateway.Response.Pointer

/-!
Responses, and the shaping of rows into their values: columns are renamed, then a
pointer picks a part of the list of rows.
-/

namespace QueryGateway

/-- The response to a request that succeeded. -/
structure Response where
  status : Nat
  body : Json
deriving Repr

namespace Response

/-- Renames the columns of rows, if there is a map with columns. -/
def renameRows (fieldMap : Option FieldMap) (rows : List Row) : List Row :=
  match fieldMap with
  | some m => if m.columns.isEmpty then rows else rows.map m.rename
  | none => rows

/-- The value of an answer. -/
def shape (fieldMap : Option FieldMap) (extraction : Option Pointer) (rows : List Row) : Json :=
  let value := Json.arr ((renameRows fieldMap rows).map .obj)
  match extraction with
  | some pointer => pointer.resolve value
  | none => value

end Response
end QueryGateway
