import QueryGateway.Document.Error
import QueryGateway.Document.Order

/-!
Sorting documents by the values at dotted paths.

A sort specification lists paths with directions, and the first path at which
two documents differ decides.  Each element is put behind the last one that is
not greater, so elements that are equal in all keys stay in order.
-/

namespace QueryGateway.Document

/-- A path to sort by. -/
structure SortKey where
  path : List String
  descending : Bool
deriving DecidableEq, Repr

/-- The direction that a value stands for. -/
def descending? : Json → Option Bool
  | .num n =>
    if n.signed? = some 1 then some false
    else if n.signed? = some (-1) then some true
    else none
  | _ => none

/-- Reads the keys of a specification.  A bad direction is reported with `root`
before its path. -/
def sortKeys (root : String) : Json.Fields → Except Error (List SortKey)
  | [] => .ok []
  | (path, direction) :: rest =>
    match descending? direction with
    | none => .error (.badSortDirection (root ++ path))
    | some descending =>
      (sortKeys root rest).map fun keys => { path := Json.segments path, descending } :: keys

/-- Reads a sort specification. -/
def readSort (root : String) : Json → Except Error (List SortKey)
  | .obj fields => sortKeys root fields
  | _ => .error .sortNotObject

/-- The order of two documents under one key. -/
def SortKey.order (key : SortKey) (a b : Json) : Ordering :=
  let order := sortOrder (a.walk key.path) (b.walk key.path)
  if key.descending then order.swap else order

/-- The order of two documents: the first key that tells them apart decides. -/
def documentOrder : List SortKey → Json → Json → Ordering
  | [], _, _ => .eq
  | key :: rest, a, b => (key.order a b).then (documentOrder rest a b)

/-- Inserts an element into a reversed sorted list, before the first element that
is not greater. -/
def insertReversed {α : Type} (order : α → α → Ordering) (a : α) : List α → List α
  | [] => [a]
  | b :: rest => if order a b = .lt then b :: insertReversed order a rest else a :: b :: rest

/-- Sorts stably. -/
def stableSort {α : Type} (order : α → α → Ordering) (items : List α) : List α :=
  (items.foldl (fun sorted a => insertReversed order a sorted) []).reverse

/-- Sorts values by a specification. -/
def sortValues (spec : Json) (docs : List Json) : Except Error (List Json) :=
  (readSort "" spec).map fun keys => stableSort (documentOrder keys) docs

end QueryGateway.Document
