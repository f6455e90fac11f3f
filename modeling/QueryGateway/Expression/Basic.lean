import QueryGateway.Json.Basic

/-!
Expressions: what a template says between its delimiters.

An expression reads a value of the request by namespace and path, calls one of
three functions, or is a literal.  Literals stand only as arguments.
-/

namespace QueryGateway

/-- The parts of a request that an expression can read. -/
inductive Namespace where
  | path
  | query
  | body
  | auth
deriving DecidableEq, Repr

namespace Namespace

/-- All namespaces. -/
def all : List Namespace := [.path, .query, .body, .auth]

def name : Namespace → String
  | .path => "path"
  | .query => "query"
  | .body => "body"
  | .auth => "auth"

/-- The namespace of a name. -/
def named? (name : String) : Option Namespace := all.find? (·.name == name)

end Namespace

/-- The functions that an expression can call. -/
inductive Builtin where
  | default
  | now
  | uuid
deriving DecidableEq, Repr

namespace Builtin

def all : List Builtin := [.default, .now, .uuid]

def name : Builtin → String
  | .default => "default"
  | .now => "now"
  | .uuid => "uuid"

/-- The function of a name. -/
def named? (name : String) : Option Builtin := all.find? (·.name == name)

/-- How many arguments a call has. -/
def arity : Builtin → Nat
  | .default => 2
  | .now => 0
  | .uuid => 0

end Builtin

/-- An expression. -/
inductive Expr where
  | ref (source : Namespace) (segments : List String)
  | call (function : Builtin) (args : List Expr)
  | literal (value : Json)
deriving Repr, Inhabited

namespace Expr

mutual
/-- Whether the expression reads something inside a namespace.  Naming the
namespace as a whole does not count. -/
def readsPropertyOf (ns : Namespace) : Expr → Bool
  | .ref source segments => source == ns && !segments.isEmpty
  | .call _ args => anyReadsPropertyOf ns args
  | .literal _ => false

/-- Whether one of the expressions reads something inside a namespace. -/
def anyReadsPropertyOf (ns : Namespace) : List Expr → Bool
  | [] => false
  | e :: rest => e.readsPropertyOf ns || anyReadsPropertyOf ns rest
end

end Expr

/-- What can be wrong with the text of an expression. -/
inductive ExpressionError where
  | unknownNamespace (head inner : String)
  | invalidReference (inner : String)
  | malformedCall (inner : String)
  | unbalanced (text : String)
  | textAfterCall (inner : String)
  | unknownFunction (name : String)
  | emptyArgument (text : String)
  | wrongArity (function : Builtin) (given : Nat)
  | textAfterLiteral (argument : String)
  | unterminatedLiteral (argument : String)
  | notACall (inner : String)
deriving DecidableEq, Repr

namespace ExpressionError

def message : ExpressionError → String
  | .unknownNamespace head inner => s!"Unknown namespace '{head}' in expression '{inner}'"
  | .invalidReference inner => s!"Invalid variable reference '{inner}'"
  | .malformedCall inner => s!"Malformed function call '{inner}'"
  | .unbalanced text => s!"Unbalanced parentheses or quotes in '{text}'"
  | .textAfterCall inner => s!"Unexpected text after function call '{inner}'"
  | .unknownFunction name => s!"Unknown function: {name}"
  | .emptyArgument text => s!"Empty argument in '{text}'"
  | .wrongArity function given =>
    s!"{function.name}() takes {function.arity} argument(s), got {given}"
  | .textAfterLiteral argument => s!"Unexpected text after string literal {argument}"
  | .unterminatedLiteral argument => s!"Unterminated string literal {argument}"
  | .notACall inner => s!"'{inner}' is not a function call"

end ExpressionError
end QueryGateway
