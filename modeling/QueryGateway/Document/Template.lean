import QueryGateway.Document.Command
import QueryGateway.Expression.Evaluation

/-!
Document queries with expressions in them.

A query is an object with a collection, an operation or a pipeline, and sections
for the arguments.  Expressions stand in the strings of the sections, and never in
keys, in the collection or in the operation.  A string that is one expression as a
whole becomes the value of it; in any other string each expression becomes text.
-/

namespace QueryGateway.Document

/-- What can be wrong with a document query. -/
inductive TemplateError where
  | notObject
  | collectionMissing
  | collectionBlank
  | operationAndPipeline
  | neitherOperationNorPipeline
  | unsupportedOperation (name : String)
  | operationNotString (got : Json)
  | sectionMissing (operation : Operation) (missing : Section)
  | badShape (part : Section)
  | unknownField (key : String)
  | stageNotSingle
  | objectExpected (operation : Operation) (part : Section) (got : Json)
  | arrayExpected (operation : Operation) (part : Section) (got : Json)
  | expression (error : ExpressionError)
deriving Repr

namespace TemplateError

def message : TemplateError → String
  | .notObject => "document query must be an object"
  | .collectionMissing => "document query requires a collection"
  | .collectionBlank => "collection must be a non-empty string"
  | .operationAndPipeline => "document query must not have both operation and pipeline"
  | .neitherOperationNorPipeline => "document query requires an operation or a pipeline"
  | .unsupportedOperation name => s!"unsupported document operation '{name}'"
  | .operationNotString got => s!"operation must be a string, got {got.text}"
  | .sectionMissing operation missing => s!"{operation.name} requires a {missing.name}"
  | .badShape part => s!"{part.name} has an invalid shape"
  | .unknownField key => s!"unknown document query field '{key}'"
  | .stageNotSingle => "each pipeline stage must be an object with one key"
  | .objectExpected operation part got =>
    s!"{operation.name} {part.name} must resolve to an object, got {got.text}"
  | .arrayExpected operation part got =>
    s!"{operation.name} {part.name} must resolve to an array, got {got.text}"
  | .expression error => error.message

end TemplateError

/-- The operation that a query asks for. -/
def operationOf (query : Json.Fields) : Except TemplateError Operation :=
  match Json.Fields.get? "operation" query, Json.Fields.get? "pipeline" query with
  | some _, some _ => .error .operationAndPipeline
  | none, none => .error .neitherOperationNorPipeline
  | none, some _ => .ok .aggregate
  | some (.str name), none =>
    match Operation.named? name with
    | some operation => .ok operation
    | none => .error (.unsupportedOperation name)
  | some got, none => .error (.operationNotString got)

/-- Whether a section holds a list. -/
def Section.isList : Section → Bool
  | .documents => true
  | .pipeline => true
  | _ => false

/-- Whether a value can stand in a section before expressions are evaluated.  A
string may become anything, but a pipeline has to be written out. -/
def Section.allows (part : Section) : Json → Bool
  | .null => true
  | .str _ => part != .pipeline
  | .arr _ => part.isList
  | .obj _ => !part.isList
  | _ => false

/-- Checks that the collection is a name. -/
def checkCollection (query : Json.Fields) : Except TemplateError Unit :=
  match Json.Fields.get? "collection" query with
  | some (.str name) =>
    if Text.allBlank name.toList then .error .collectionBlank else .ok ()
  | some _ => .error .collectionBlank
  | none => .error .collectionMissing

/-- Checks that the sections which an operation requires are there. -/
def checkRequired (query : Json.Fields) (operation : Operation) : Except TemplateError Unit :=
  match operation.required.find? fun part =>
      ((Json.Fields.get? part.name query).getD .null).isNull with
  | some missing => .error (.sectionMissing operation missing)
  | none => .ok ()

/-- Checks that every field is known and has a fitting shape. -/
def checkFields : Json.Fields → Except TemplateError Unit
  | [] => .ok ()
  | (key, value) :: rest =>
    if key == "collection" || key == "operation" then checkFields rest
    else
      match Section.named? key with
      | none => .error (.unknownField key)
      | some part => if part.allows value then checkFields rest else .error (.badShape part)

/-- Whether a stage of a pipeline is an object with one field. -/
def isSingleStage : Json → Bool
  | .obj [_] => true
  | _ => false

/-- Checks that a pipeline has proper stages. -/
def checkStages (query : Json.Fields) : Except TemplateError Unit :=
  match Json.Fields.get? "pipeline" query with
  | some (.arr stages) => if stages.all isSingleStage then .ok () else .error .stageNotSingle
  | _ => .ok ()

/-- Checks the structure of a query without looking at its expressions. -/
def validate : Json → Except TemplateError Unit
  | .obj query => do
    checkCollection query
    let operation ← operationOf query
    checkRequired query operation
    checkFields query
    checkStages query
  | _ => .error .notObject

/-- Evaluates the expressions in a string. -/
def fillLeaf (d : Delimiters) (ctx : Context) (s : String) (supply : Supply) :
    Expr.Reading (Json × Supply) :=
  let segments := Segments.of d s.toList
  (segments.holes.mapM fun hole => Expr.read hole.inner).map fun exprs =>
    let (values, supply) := Expr.evalAll ctx exprs supply
    match segments.whole?, values with
    | some _, [value] => (value.toDocument, supply)
    | _, values =>
      (.str (String.ofList (segments.fillWith (fun value => value.text.toList) values)), supply)

mutual
/-- Evaluates the expressions in all strings of a value. -/
def fill (d : Delimiters) (ctx : Context) : Json → Supply → Expr.Reading (Json × Supply)
  | .str s, supply => fillLeaf d ctx s supply
  | .arr items, supply =>
    (fillItems d ctx items supply).map fun (items, supply) => (.arr items, supply)
  | .obj fields, supply =>
    (fillFields d ctx fields supply).map fun (fields, supply) => (.obj fields, supply)
  | .null, supply => .ok (.null, supply)
  | .bool b, supply => .ok (.bool b, supply)
  | .num n, supply => .ok (.num n, supply)

/-- Evaluates the expressions in the items of an array. -/
def fillItems (d : Delimiters) (ctx : Context) :
    List Json → Supply → Expr.Reading (List Json × Supply)
  | [], supply => .ok ([], supply)
  | item :: rest, supply =>
    match fill d ctx item supply with
    | .error e => .error e
    | .ok (item, supply) =>
      match fillItems d ctx rest supply with
      | .error e => .error e
      | .ok (rest, supply) => .ok (item :: rest, supply)

/-- Evaluates the expressions in the values of fields. -/
def fillFields (d : Delimiters) (ctx : Context) :
    List (String × Json) → Supply → Expr.Reading (List (String × Json) × Supply)
  | [], supply => .ok ([], supply)
  | (key, value) :: rest, supply =>
    match fill d ctx value supply with
    | .error e => .error e
    | .ok (value, supply) =>
      match fillFields d ctx rest supply with
      | .error e => .error e
      | .ok (rest, supply) => .ok ((key, value) :: rest, supply)
end

/-- Evaluates the expressions in the sections of a query. -/
def fillSections (d : Delimiters) (ctx : Context) :
    Json.Fields → Supply → Expr.Reading (Json.Fields × Supply)
  | [], supply => .ok ([], supply)
  | (key, value) :: rest, supply =>
    let filled :=
      if (Section.named? key).isSome then fill d ctx value supply else .ok (value, supply)
    match filled with
    | .error e => .error e
    | .ok (value, supply) =>
      match fillSections d ctx rest supply with
      | .error e => .error e
      | .ok (rest, supply) => .ok ((key, value) :: rest, supply)

/-- The argument that a section becomes.  A missing filter and missing options are
empty, and an update that answers with a document answers with the one after it
unless its options say otherwise. -/
def argument (operation : Operation) (part : Section) (value : Json) :
    Except TemplateError Json :=
  match part, value with
  | .filter, .null => .ok (.obj [])
  | .options, value =>
    let fields : Except TemplateError Json.Fields := match value with
      | .null => .ok []
      | .obj fields => .ok fields
      | got => .error (.objectExpected operation part got)
    fields.map fun fields =>
      if operation = .findOneAndUpdate ∧ ¬Json.Fields.has "returnDocument" fields then
        .obj (Json.Fields.set "returnDocument" (.str "after") fields)
      else .obj fields
  | part, value =>
    if part.isList then
      match value with
      | .arr items => .ok (.arr items)
      | got => .error (.arrayExpected operation part got)
    else
      match value with
      | .obj fields => .ok (.obj fields)
      | got => .error (.objectExpected operation part got)

/-- The command that a query without expressions stands for. -/
def Command.ofQuery (query : Json.Fields) : Except TemplateError Command :=
  match Json.Fields.get? "collection" query with
  | some (.str collection) => do
    let operation ← operationOf query
    let args ← operation.arguments.mapM fun part =>
      argument operation part ((Json.Fields.get? part.name query).getD .null)
    .ok { collection, operation, args }
  | _ => .error .collectionMissing

/-- The command that a query makes of a context. -/
def Command.ofTemplate (d : Delimiters) (ctx : Context) (template : Json) (supply : Supply) :
    Except TemplateError (Command × Supply) :=
  match template with
  | .obj query =>
    match fillSections d ctx query supply with
    | .error e => .error (.expression e)
    | .ok (query, supply) => (Command.ofQuery query).map fun command => (command, supply)
  | _ => .error .notObject

end QueryGateway.Document
