import QueryGateway.Expression.Basic

/-!
The kinds of failure that callers can tell apart.

A kind fixes the code and the status of an answer.  The reason of a failure
follows the headline of its kind.
-/

namespace QueryGateway

/-- A kind of failure. -/
inductive FailureKind where
  | validation
  | authResolverMissing
  | authRequired
  | unknownFunction
  | query
  | notFound
deriving DecidableEq, Repr, Inhabited

namespace FailureKind

/-- The code in answers. -/
def code : FailureKind → String
  | .validation => "VALIDATION_ERROR"
  | .authResolverMissing => "AUTH_RESOLVER_MISSING"
  | .authRequired => "AUTH_REQUIRED"
  | .unknownFunction => "UNKNOWN_FUNCTION"
  | .query => "QUERY_ERROR"
  | .notFound => "NOT_FOUND"

/-- The status of answers. -/
def status : FailureKind → Nat
  | .authRequired => 401
  | .notFound => 404
  | _ => 500

/-- What stands before the reason of a failure. -/
def headline : FailureKind → String
  | .validation => "Validation error: "
  | .query => "Query failed: "
  | _ => ""

/-- The text of a failure with a reason. -/
def describe (kind : FailureKind) (reason : String) : String := kind.headline ++ reason

end FailureKind

namespace ExpressionError

/-- An unknown function has a kind of its own; everything else is a matter of form. -/
def kind : ExpressionError → FailureKind
  | .unknownFunction _ => .unknownFunction
  | _ => .validation

end ExpressionError
end QueryGateway
