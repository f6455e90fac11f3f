import QueryGateway.Json.Basic

/-!
Commands to a document store: an operation on a collection, with its arguments
in order.
-/

namespace QueryGateway.Document

/-- The parts of a document query that an operation takes as arguments. -/
inductive Section where
  | filter
  | update
  | document
  | documents
  | options
  | pipeline
deriving DecidableEq, Repr

namespace Section

def all : List Section := [.filter, .update, .document, .documents, .options, .pipeline]

def name : Section → String
  | .filter => "filter"
  | .update => "update"
  | .document => "document"
  | .documents => "documents"
  | .options => "options"
  | .pipeline => "pipeline"

def named? (name : String) : Option Section := all.find? (·.name == name)

end Section

/-- The operations of a document store. -/
inductive Operation where
  | find
  | findOne
  | countDocuments
  | insertOne
  | insertMany
  | updateOne
  | updateMany
  | deleteOne
  | deleteMany
  | findOneAndUpdate
  | findOneAndDelete
  | aggregate
deriving DecidableEq, Repr, Inhabited

namespace Operation

/-- The operations that a query can name.  Aggregation has no name: a query asks
for it with a pipeline. -/
def nameable : List Operation :=
  [.find, .findOne, .countDocuments, .insertOne, .insertMany, .updateOne, .updateMany,
    .deleteOne, .deleteMany, .findOneAndUpdate, .findOneAndDelete]

def name : Operation → String
  | .find => "find"
  | .findOne => "findOne"
  | .countDocuments => "countDocuments"
  | .insertOne => "insertOne"
  | .insertMany => "insertMany"
  | .updateOne => "updateOne"
  | .updateMany => "updateMany"
  | .deleteOne => "deleteOne"
  | .deleteMany => "deleteMany"
  | .findOneAndUpdate => "findOneAndUpdate"
  | .findOneAndDelete => "findOneAndDelete"
  | .aggregate => "aggregate"

/-- The operation that a query names. -/
def named? (name : String) : Option Operation := nameable.find? (·.name == name)

/-- The sections that a query has to hold. -/
def required : Operation → List Section
  | .insertOne => [.document]
  | .insertMany => [.documents]
  | .updateOne | .updateMany | .findOneAndUpdate => [.update]
  | .aggregate => [.pipeline]
  | _ => []

/-- The sections that become the arguments, in order. -/
def arguments : Operation → List Section
  | .find | .findOne | .countDocuments | .deleteOne | .deleteMany | .findOneAndDelete =>
    [.filter, .options]
  | .insertOne => [.document, .options]
  | .insertMany => [.documents, .options]
  | .updateOne | .updateMany | .findOneAndUpdate => [.filter, .update, .options]
  | .aggregate => [.pipeline, .options]

end Operation

/-- A command that is ready to run. -/
structure Command where
  collection : String
  operation : Operation
  args : List Json
deriving Repr, Inhabited

namespace Command

/-- An argument; one that is missing is null. -/
def arg (c : Command) (i : Nat) : Json := (c.args[i]?).getD .null

end Command
end QueryGateway.Document
