import QueryGateway.Expression.Evaluation

/-!
SQL statements with parameters.

A template is SQL text with expressions in it.  Each expression becomes a
placeholder and its value a parameter, from left to right, so nothing that a
request sends reaches the text of a statement.
-/

namespace QueryGateway.Sql

/-- How an engine writes placeholders. -/
inductive Dialect where
  | numbered
  | positional
deriving DecidableEq, Repr, Inhabited

namespace Dialect

/-- The placeholder of the parameter at an index from zero. -/
def placeholder : Dialect → Nat → String
  | .numbered, i => s!"${i + 1}"
  | .positional, _ => "?"

end Dialect

/-- A statement with the values of its parameters, in order. -/
structure Statement where
  text : String
  values : List Value
deriving Repr, Inhabited

/-- What can be wrong with a template, apart from its expressions. -/
inductive TemplateError where
  | blank
  | notText
deriving DecidableEq, Repr

namespace TemplateError

def message : TemplateError → String
  | .blank => "SQL query must not be empty"
  | .notText => "SQL query must be a string"

end TemplateError

/-- Checks that a template is text that is not blank. -/
def validate : Json → Except TemplateError Unit
  | .str s => if Text.allBlank s.toList then .error .blank else .ok ()
  | _ => .error .notText

/-- The text with the placeholder of each expression in its place.  `i` is the
index of the first. -/
def placeholders (dialect : Dialect) : (i : Nat) → List Hole → List Char
  | _, [] => []
  | i, hole :: rest =>
    hole.before ++ (dialect.placeholder i).toList ++ placeholders dialect (i + 1) rest

namespace Statement

/-- The statement that a template makes of a context. -/
def ofTemplate (d : Delimiters) (dialect : Dialect) (ctx : Context) (template : String)
    (supply : Supply) : Expr.Reading (Statement × Supply) :=
  let segments := Segments.of d template.toList
  (segments.holes.mapM fun hole => Expr.read hole.inner).map fun exprs =>
    let (values, supply) := Expr.evalAll ctx exprs supply
    let text := String.ofList (placeholders dialect 0 segments.holes ++ segments.tail)
    ({ text, values }, supply)

end Statement
end QueryGateway.Sql
