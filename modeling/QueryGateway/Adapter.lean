import QueryGateway.Document.Store
import QueryGateway.Document.Template
import QueryGateway.FailureKind
import QueryGateway.Sql.Statement

/-!
Adapters: the engines that queries run on, behind one interface.

An adapter checks the structure of a template, makes an artifact of a template and
a context, and executes artifacts.  An SQL adapter runs statements on an engine
outside this library, which is any function from statements to rows.  A document
adapter runs commands on a driver: a store in memory, or an engine outside, which is
any function from commands to rows.
-/

namespace QueryGateway

/-- What an SQL engine answers to a statement: rows, or the text of an error. -/
abbrev SqlEngine := Sql.Statement → Except String (List Row)

/-- What a document engine answers to a command: rows, or the text of an error. -/
abbrev DocumentEngine := Document.Command → Except String (List Row)

/-- What runs the commands of a document adapter: a store in memory, or an engine outside. -/
inductive DocumentDriver where
  | memory (store : Document.Store)
  | outside (engine : DocumentEngine)

/-- Runs a command.  The driver that comes back holds what its store holds afterwards; an
engine outside keeps its documents to itself. -/
def DocumentDriver.run (command : Document.Command) (supply : Supply) :
    DocumentDriver → Except String (List Row) × DocumentDriver × Supply
  | .memory store =>
    let (result, store, supply) := store.execute command supply
    (result.mapError (·.message), .memory store, supply)
  | .outside engine => (engine command, .outside engine, supply)

/-- An engine under the interface of this library. -/
inductive Adapter where
  | sql (dialect : Sql.Dialect) (engine : SqlEngine)
  | documentOn (driver : DocumentDriver)

/-- The document adapter of a store in memory. -/
@[match_pattern]
abbrev Adapter.document (store : Document.Store) : Adapter := .documentOn (.memory store)

/-- A query that is ready to execute. -/
inductive Artifact where
  | sql (statement : Sql.Statement)
  | document (command : Document.Command)
deriving Repr, Inhabited

/-- What can be wrong with a template. -/
inductive TemplateError where
  | sql (error : Sql.TemplateError)
  | document (error : Document.TemplateError)
deriving Repr

namespace TemplateError

def message : TemplateError → String
  | .sql error => error.message
  | .document error => error.message

end TemplateError

/-- Why a template made no artifact. -/
inductive InterpolationError where
  | template (error : TemplateError)
  | expression (error : ExpressionError)
deriving Repr

namespace InterpolationError

def message : InterpolationError → String
  | .template error => error.message
  | .expression error => error.message

def kind : InterpolationError → FailureKind
  | .template _ => .validation
  | .expression error => error.kind

end InterpolationError

/-- Why an artifact was not executed. -/
inductive ExecutionError where
  | notSql
  | notDocument
  | sqlFailed (detail : String)
  | documentFailed (command : Document.Command) (detail : String)
deriving Repr

namespace ExecutionError

def message : ExecutionError → String
  | .notSql => "SQL adapter received a non-SQL artifact"
  | .notDocument => "document adapter received a non-document artifact"
  | .sqlFailed _ => "SQL statement failed"
  | .documentFailed command _ => s!"{command.operation.name} on {command.collection} failed"

/-- What the engine said, which callers are not told. -/
def detail? : ExecutionError → Option String
  | .sqlFailed detail => some detail
  | .documentFailed _ detail => some detail
  | _ => none

def kind : ExecutionError → FailureKind
  | .notSql => .validation
  | .notDocument => .validation
  | .sqlFailed _ => .query
  | .documentFailed _ _ => .query

end ExecutionError

namespace Adapter

/-- The kind of engine. -/
def kind : Adapter → String
  | .sql _ _ => "sql"
  | .documentOn _ => "document"

/-- Checks the structure of a template. -/
def validate : Adapter → Json → Except TemplateError Unit
  | .sql _ _, template => (Sql.validate template).mapError .sql
  | .documentOn _, template => (Document.validate template).mapError .document

/-- The artifact that a template makes of a context. -/
def interpolate (d : Delimiters) (ctx : Context) (template : Json) (supply : Supply) :
    Adapter → Except InterpolationError (Artifact × Supply)
  | .sql dialect _ =>
    match template with
    | .str text =>
      match Sql.Statement.ofTemplate d dialect ctx text supply with
      | .ok (statement, supply) => .ok (.sql statement, supply)
      | .error e => .error (.expression e)
    | _ => .error (.template (.sql .notText))
  | .documentOn _ =>
    match Document.Command.ofTemplate d ctx template supply with
    | .ok (command, supply) => .ok (.document command, supply)
    | .error (.expression e) => .error (.expression e)
    | .error e => .error (.template (.document e))

/-- Executes an artifact.  The adapter that comes back holds what its driver holds
afterwards. -/
def execute (artifact : Artifact) (supply : Supply) :
    Adapter → Except ExecutionError (List Row) × Adapter × Supply
  | .sql dialect engine =>
    match artifact with
    | .sql statement =>
      ((engine statement).mapError .sqlFailed, .sql dialect engine, supply)
    | .document _ => (.error .notSql, .sql dialect engine, supply)
  | .documentOn driver =>
    match artifact with
    | .document command =>
      let (result, driver, supply) := driver.run command supply
      (result.mapError (.documentFailed command), .documentOn driver, supply)
    | .sql _ => (.error .notDocument, .documentOn driver, supply)

end Adapter
end QueryGateway
