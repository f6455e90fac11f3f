import QueryGateway.Adapters

/-!
Failures of requests.
-/

namespace QueryGateway

/-- Why a request that matched a route has no response. -/
inductive Failure where
  | resolver (reason : String)
  | resolverMissing (label : String)
  | authRequired
  | selection (error : SelectionError)
  | interpolation (error : InterpolationError)
  | execution (error : ExecutionError)
  | notFound
deriving Repr

namespace Failure

/-- The kind of failure. -/
def kind : Failure → FailureKind
  | .resolver _ => .validation
  | .resolverMissing _ => .authResolverMissing
  | .authRequired => .authRequired
  | .selection _ => .validation
  | .interpolation error => error.kind
  | .execution error => error.kind
  | .notFound => .notFound

/-- The reason, without the headline of the kind. -/
def reason : Failure → String
  | .resolver reason => reason
  | .resolverMissing label => s!"Route {label} references auth but no auth resolver is configured"
  | .authRequired => "Authentication required"
  | .selection error => error.message
  | .interpolation error => error.message
  | .execution error => error.message
  | .notFound => "Resource not found"

def message (f : Failure) : String := f.kind.describe f.reason

/-- What an engine said, which callers are not told. -/
def detail? : Failure → Option String
  | .execution error => error.detail?
  | _ => none

end Failure
end QueryGateway
