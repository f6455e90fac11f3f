import QueryGateway.Document.Command
import QueryGateway.Document.Filter
import QueryGateway.Document.Projection
import QueryGateway.Document.Sort
import QueryGateway.Document.Update
import QueryGateway.Supply

/-!
Commands on one collection.

A collection is a list of documents, each with an `_id` of its own.  A command
answers with rows or fails, and says what the collection holds afterwards in
both cases.
-/

namespace QueryGateway.Document

/-- The documents of a collection, in the order of their insertion. -/
abbrev Collection := List Json.Fields

/-- What a command did: its answer, the documents afterwards and the supply that
is left. -/
structure Outcome (α : Type) where
  result : Except Error α
  documents : Collection
  supply : Supply

namespace Collection

/-- The outcome of a command that only reads. -/
def reading {α : Type} (docs : Collection) (supply : Supply) (result : Except Error α) :
    Outcome α :=
  { result, documents := docs, supply }

/-- The documents that meet a filter. -/
def filterMeeting (filter : Json) : Collection → Except Error Collection
  | [] => .ok []
  | doc :: rest =>
    match meets (.obj doc) filter with
    | .error e => .error e
    | .ok keep => (filterMeeting filter rest).map fun found => if keep then doc :: found else found

/-- The positions of the documents that meet a filter, from `start` on. -/
def positionsFrom (filter : Json) : (start : Nat) → Collection → Except Error (List Nat)
  | _, [] => .ok []
  | start, doc :: rest =>
    match meets (.obj doc) filter with
    | .error e => .error e
    | .ok keep =>
      (positionsFrom filter (start + 1) rest).map fun found =>
        if keep then start :: found else found

/-- The positions of the documents that meet a filter. -/
def positions (filter : Json) (docs : Collection) : Except Error (List Nat) :=
  positionsFrom filter 0 docs

/-- Sorts documents by a specification. -/
def sortBy (root : String) (spec : Json) (docs : Collection) : Except Error Collection :=
  (readSort root spec).map fun keys =>
    stableSort (fun a b => documentOrder keys (.obj a) (.obj b)) docs

/-- The position of the first document that meets a filter, in the order that the
option `sort` asks for. -/
def firstPosition (filter options : Json) (docs : Collection) : Except Error (Option Nat) :=
  match positions filter docs with
  | .error e => .error e
  | .ok found =>
    match options.field? "sort" with
    | none => .ok found.head?
    | some spec =>
      -- A bad direction is reported with the path inside the tagged document.
      (readSort "d." spec).map fun keys =>
        let tagged := found.filterMap fun i => (docs[i]?).map fun doc => (i, doc)
        ((stableSort (fun a b => documentOrder keys (.obj a.2) (.obj b.2)) tagged).head?).map (·.1)

/-- A count given as an option; null is no count. -/
def countOption (options : Json) (name : String) : Except Error (Option Nat) :=
  match options.field? name with
  | none => .ok none
  | some .null => .ok none
  | some (.num n) =>
    match n.unsigned? with
    | some count => .ok (some count)
    | none => .error (.badCount name)
  | some _ => .error (.badCount name)

/-- Projects a document as the option `projection` asks for. -/
def projectAs (options : Json) (doc : Json.Fields) : Except Error Row :=
  match options.field? "projection" with
  | some projection => projectDocument projection doc
  | none => .ok doc

/-- Sorts, skips, limits and projects documents as options ask for.  A limit of
zero is no limit. -/
def present (options : Json) (found : Collection) : Except Error (List Row) := do
  let sorted ← match options.field? "sort" with
    | some spec => sortBy "" spec found
    | none => .ok found
  let skip ← countOption options "skip"
  let limit ← countOption options "limit"
  let skipped := sorted.drop (skip.getD 0)
  let taken := match limit with
    | none | some 0 => skipped
    | some n => skipped.take n
  taken.mapM (projectAs options)

/-- Finds documents. -/
def find (filter options : Json) (docs : Collection) : Except Error (List Row) :=
  (filterMeeting filter docs).bind (present options)

/-- Finds the first document: a find with a limit of one. -/
def findOne (filter options : Json) (docs : Collection) : Except Error (List Row) :=
  find filter (.obj (Json.Fields.set "limit" (.nat 1) ((options.fields?).getD []))) docs

/-- Appends a document, with a generated `_id` if it has none, and answers with
its `_id`.  An `_id` that is in use is refused. -/
def insert (document : Json) (docs : Collection) (supply : Supply) : Outcome Json :=
  match document with
  | .obj fields =>
    let (id, fields, supply) := match Json.Fields.get? "_id" fields with
      | some id => (id, fields, supply)
      | none =>
        let (fresh, supply) := supply.id
        (.str fresh, Json.Fields.set "_id" (.str fresh) fields, supply)
    if docs.any fun doc => (Json.Fields.get? "_id" doc).any (· == id) then
      { result := .error (.duplicateKey id), documents := docs, supply }
    else { result := .ok id, documents := docs ++ [fields], supply }
  | got => { result := .error (.documentNotObject got), documents := docs, supply }

/-- Appends documents up to the first that is refused, and answers with the
`_id`s of all if none is. -/
def insertEach : List Json → Collection → Supply → Outcome (List Json)
  | [], docs, supply => { result := .ok [], documents := docs, supply }
  | document :: rest, docs, supply =>
    let inserted := insert document docs supply
    match inserted.result with
    | .error e => { result := .error e, documents := inserted.documents, supply := inserted.supply }
    | .ok id =>
      let more := insertEach rest inserted.documents inserted.supply
      { more with result := more.result.map (id :: ·) }

/-- Inserts all of a list of documents, or none. -/
def insertMany (documents : List Json) (docs : Collection) (supply : Supply) :
    Outcome (List Json) :=
  let staged := insertEach documents docs supply
  match staged.result with
  | .ok _ => staged
  | .error _ => { staged with documents := docs }

/-- Updates the documents at some positions, and counts those that changed. -/
def updateAt (update : Json) :
    (targets : List Nat) → Collection → Except Error (Collection × Nat)
  | [], docs => .ok (docs, 0)
  | i :: rest, docs =>
    match docs[i]? with
    | none => updateAt update rest docs
    | some doc =>
      match applyUpdate update doc with
      | .error e => .error e
      | .ok after =>
        (updateAt update rest (docs.set i after)).map fun (docs, count) =>
          (docs, if changed doc after then count + 1 else count)

/-- Whether the option `upsert` is set. -/
def upsertRequested (options : Json) : Bool :=
  match options.field? "upsert" with
  | some (.bool b) => b
  | _ => false

/-- Whether a field of a filter passes to a document that an upsert makes: its
name is a plain one, and its condition holds no operator. -/
def passesToUpsert (key : String) (condition : Json) : Bool :=
  !isOperatorKey key && !key.toList.contains '.' &&
    !((condition.fields?).any fun fields => fields.any fun (k, _) => isOperatorKey k)

/-- The document that an upsert starts from. -/
def upsertSeed (filter : Json) : Json.Fields :=
  ((filter.fields?).getD []).filter fun (key, condition) => passesToUpsert key condition

/-- Inserts the document that a filter and an update describe.  Its `_id` is kept
away from the update. -/
def upsert (filter update : Json) (docs : Collection) (supply : Supply) : Outcome Json :=
  let seed := upsertSeed filter
  let id := Json.Fields.get? "_id" seed
  match applyUpdate update (Json.Fields.erase "_id" seed) with
  | .error e => { result := .error e, documents := docs, supply }
  | .ok made =>
    insert (.obj (id.elim made fun id => Json.Fields.set "_id" id made)) docs supply

/-- Updates the first document that meets a filter, or all of them. -/
def update (many : Bool) (filter change options : Json) (docs : Collection) (supply : Supply) :
    Outcome (List Row) :=
  match positions filter docs with
  | .error e => reading docs supply (.error e)
  | .ok found =>
    let targets := if many then found else found.take 1
    if targets.isEmpty && upsertRequested options then
      let inserted := upsert filter change docs supply
      { inserted with result := inserted.result.map fun id =>
          [[("matchedCount", .nat 0), ("modifiedCount", .nat 0), ("upsertedId", id)]] }
    else
      match updateAt change targets docs with
      | .error e => reading docs supply (.error e)
      | .ok (docs, modified) =>
        reading docs supply
          (.ok [[("matchedCount", .nat targets.length), ("modifiedCount", .nat modified)]])

/-- Erases the documents at some positions, given in ascending order. -/
def eraseAt (targets : List Nat) (docs : Collection) : Collection :=
  targets.foldr (fun i docs => docs.eraseIdx i) docs

/-- Deletes the first document that meets a filter, or all of them. -/
def delete (many : Bool) (filter : Json) (docs : Collection) (supply : Supply) :
    Outcome (List Row) :=
  match positions filter docs with
  | .error e => reading docs supply (.error e)
  | .ok found =>
    let targets := if many then found else found.take 1
    reading (eraseAt targets docs) supply (.ok [[("deletedCount", .nat targets.length)]])

/-- Updates the first document and answers with it, as it is after the update
unless the option `returnDocument` is `before`. -/
def findOneAndUpdate (filter change options : Json) (docs : Collection) (supply : Supply) :
    Outcome (List Row) :=
  let returnAfter := (options.field? "returnDocument").bind Json.str? != some "before"
  match firstPosition filter options docs with
  | .error e => reading docs supply (.error e)
  | .ok none =>
    if upsertRequested options then
      let inserted := upsert filter change docs supply
      let answer : Except Error (List Row) := match inserted.result with
        | .error e => .error e
        | .ok _ =>
          if returnAfter then
            (projectAs options ((inserted.documents.getLast?).getD [])).map ([·])
          else .ok []
      { inserted with result := answer }
    else reading docs supply (.ok [])
  | .ok (some i) =>
    match docs[i]? with
    | none => reading docs supply (.ok [])
    | some before =>
      match applyUpdate change before with
      | .error e => reading docs supply (.error e)
      | .ok after =>
        reading (docs.set i after) supply
          ((projectAs options (if returnAfter then after else before)).map ([·]))

/-- Removes the first document and answers with it. -/
def findOneAndDelete (filter options : Json) (docs : Collection) (supply : Supply) :
    Outcome (List Row) :=
  match firstPosition filter options docs with
  | .error e => reading docs supply (.error e)
  | .ok none => reading docs supply (.ok [])
  | .ok (some i) =>
    match docs[i]? with
    | none => reading docs supply (.ok [])
    | some removed =>
      reading (docs.eraseIdx i) supply ((projectAs options removed).map ([·]))

/-- A count given to a stage of a pipeline. -/
def stageCount (stage : String) : Json → Except Error Nat
  | .num n =>
    match n.unsigned? with
    | some count => .ok count
    | none => .error (.badCount stage)
  | _ => .error (.badCount stage)

/-- Runs one stage of a pipeline. -/
def runStage (stage : String) (spec : Json) (docs : Collection) : Except Error Collection :=
  match stage with
  | "$match" => filterMeeting spec docs
  | "$sort" => sortBy "" spec docs
  | "$skip" => (stageCount stage spec).map fun n => docs.drop n
  | "$limit" => (stageCount stage spec).map fun n => docs.take n
  | "$project" => docs.mapM (projectDocument spec)
  | "$count" =>
    match spec with
    | .str field => .ok [[(field, .nat docs.length)]]
    | _ => .error .countFieldExpected
  | _ => .error (.unsupportedStage stage)

/-- Runs the stages of a pipeline one after the other. -/
def runStages : List Json → Collection → Except Error Collection
  | [], docs => .ok docs
  | .obj [(stage, spec)] :: rest, docs => (runStage stage spec docs).bind (runStages rest)
  | _ :: _, _ => .error .stageNotSingle

/-- Answers with what a pipeline makes of the documents. -/
def aggregate (pipeline : Json) (docs : Collection) : Except Error (List Row) :=
  match pipeline with
  | .arr stages => runStages stages docs
  | _ => .error .pipelineNotArray

/-- Runs a command. -/
def run (c : Command) (docs : Collection) (supply : Supply) : Outcome (List Row) :=
  match c.operation with
  | .find => reading docs supply (find (c.arg 0) (c.arg 1) docs)
  | .findOne => reading docs supply (findOne (c.arg 0) (c.arg 1) docs)
  | .countDocuments =>
    reading docs supply
      ((positions (c.arg 0) docs).map fun found => [[("count", .nat found.length)]])
  | .insertOne =>
    let inserted := insert (c.arg 0) docs supply
    { inserted with result := inserted.result.map fun id => [[("insertedId", id)]] }
  | .insertMany =>
    let inserted := insertMany (((c.arg 0).items?).getD []) docs supply
    { inserted with result := inserted.result.map fun ids =>
        [[("insertedCount", .nat ids.length), ("insertedIds", .arr ids)]] }
  | .updateOne => update false (c.arg 0) (c.arg 1) (c.arg 2) docs supply
  | .updateMany => update true (c.arg 0) (c.arg 1) (c.arg 2) docs supply
  | .deleteOne => delete false (c.arg 0) docs supply
  | .deleteMany => delete true (c.arg 0) docs supply
  | .findOneAndUpdate => findOneAndUpdate (c.arg 0) (c.arg 1) (c.arg 2) docs supply
  | .findOneAndDelete => findOneAndDelete (c.arg 0) (c.arg 1) docs supply
  | .aggregate => reading docs supply (aggregate (c.arg 0) docs)

end Collection
end QueryGateway.Document
