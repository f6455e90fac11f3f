import QueryGateway.Document.Update

/-!
Projections: which parts of a document an answer shows.

If a flag counts as true, only the paths with such flags are kept, and `_id`
unless its own flag is false.  Otherwise the listed paths are left out.
-/

namespace QueryGateway.Document

/-- Copies the flagged paths of a document, one after the other. -/
def selectPaths (doc : Json.Fields) : Json.Fields → Json.Fields → Except Error Json.Fields
  | [], out => .ok out
  | (path, flag) :: rest, out =>
    if path = "_id" || !truthy flag then selectPaths doc rest out
    else
      match (Json.obj doc).at? path with
      | none => selectPaths doc rest out
      | some value =>
        match setAt path value out with
        | .error e => .error e
        | .ok out => selectPaths doc rest out

/-- The part of a document that a projection selects. -/
def projectFields (spec doc : Json.Fields) : Except Error Json.Fields :=
  if spec.isEmpty then .ok doc
  else if spec.any fun (_, flag) => truthy flag then
    let keepId := ((Json.Fields.get? "_id" spec).map truthy).getD true
    let id := if keepId then Json.Fields.get? "_id" doc else none
    selectPaths doc spec (id.elim [] fun id => [("_id", id)])
  else
    .ok (spec.foldl (fun out (path, _) => Json.Fields.erasePath (Json.segments path) out) doc)

/-- Projects a document. -/
def projectDocument (projection : Json) (doc : Json.Fields) : Except Error Json.Fields :=
  match projection with
  | .obj spec => projectFields spec doc
  | _ => .error .projectionNotObject

/-- Projects a value; only objects have parts to leave out. -/
def project (projection : Json) : Json → Except Error Json
  | .obj doc => (projectDocument projection doc).map .obj
  | value => if projection.fields?.isSome then .ok value else .error .projectionNotObject

end QueryGateway.Document
