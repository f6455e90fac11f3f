import QueryGateway.Proofs.Router.Absence
import QueryGateway.Proofs.Router.Course
import QueryGateway.Proofs.Router.Failures

/-!
The order of what a request tells.

A request that is done matched no route, or it settled and closed (`unmatched_or_settled`).  What
it had left behind when it settled says which events there are, what comes before its query, and
when nothing is found (`handle_in_order`).
-/

namespace QueryGateway

namespace Event

end Event

namespace Router

variable {router : Router} {request : Request} {supply supply' : Supply} {route : Route}
  {params : Dictionary String} {ctx : Context} {trace : List Step}
  {result : Except Failure Response}

/-! ## Events -/

/-- Which event closes a request with a result. -/
inductive Closes : Option (Except Failure Response) → Event → Prop
  | unmatched : Closes none .requestUnmatched
  | complete {response : Response} : Closes (some (.ok response)) .requestComplete
  | notFound {failure : Failure} (kind : failure.kind = .notFound) :
    Closes (some (.error failure)) .resourceNotFound
  | query {failure : Failure} (kind : failure.kind = .query) :
    Closes (some (.error failure)) .queryFailed
  | failed {failure : Failure} (found : failure.kind ≠ .notFound)
    (other : failure.kind ≠ .query) : Closes (some (.error failure)) .requestFailed

end Router
end QueryGateway
