import QueryGateway.Access.Token
import QueryGateway.Request.Basic
import QueryGateway.Router.Failure
import QueryGateway.Supply

/-!
Resolvers: where the claims of a caller come from.

A resolver is asked only for routes whose query reads a claim.  It answers with
claims, with nothing for a caller it does not know, or with a failure.
-/

namespace QueryGateway.Access

/-- Finds the claims of a caller. -/
abbrev Resolver := Request → Supply → Except Failure (Option Json.Fields) × Supply

namespace Resolver

/-- Always gives the same claims. -/
def fixed (claims : Option Json.Fields) : Resolver := fun _ supply => (.ok claims, supply)

/-- Always fails. -/
def failing (reason : String) : Resolver := fun _ supply => (.error (.resolver reason), supply)

/-- Takes the claims of the bearer token.  A caller without a token, or with one
that is refused, is not known. -/
def bearer (rules : TokenRules) : Resolver := fun request supply =>
  match request.bearer? with
  | none => (.ok none, supply)
  | some token =>
    let (now, supply) := supply.instant
    match rules.claims (now.millis.fdiv 1000) token with
    | .ok claims => (.ok (some claims), supply)
    | .error _ => (.ok none, supply)

end Resolver
end QueryGateway.Access
