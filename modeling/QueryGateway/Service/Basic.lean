import QueryGateway.Router.Handling
import QueryGateway.Service.Settings

/-!
The gateway as an HTTP service.

Every message goes to the router, unless its body is too large or it only asks what
a browser may do.  Failures become JSON bodies with their code, text and status; what
an engine said is not in them.
-/

namespace QueryGateway

/-- A router with the settings under which it serves. -/
structure Service where
  settings : Service.Settings
  router : Router

namespace Service

/-- A message that came in. -/
structure Message where
  method : String
  target : String
  headers : Headers := {}
  body : List UInt8 := []
deriving Repr, Inhabited

/-- An answer that goes out.  Names of fields are in lower case. -/
structure Answer where
  status : Nat
  headers : List (String × String)
  body : String
deriving DecidableEq, Repr, Inhabited

/-- The path and the query string of a target.  In a target of absolute form a scheme and
its authority stand before them, and a fragment may follow.  The asterisk is a path of its
own, and a target that is only an authority has neither. -/
def pathAndQuery (target : List Char) : List Char :=
  let target := target.takeWhile (· != '#')
  if target.head? = some '/' ∨ target = ['*'] then target
  else
    match Text.breakOn? [':', '/', '/'] target with
    | none => []
    | some (_, rest) =>
      let target := rest.dropWhile fun c => c != '/' && c != '?'
      if target.isEmpty then ['/'] else target

/-- The request in a message. -/
def Message.request (m : Message) : Request :=
  { method := m.method
    target := String.ofList (pathAndQuery m.target.toList)
    headers := m.headers
    body := if m.body.isEmpty then .empty else .raw m.body }

/-- An answer with a JSON body. -/
def jsonAnswer (status : Nat) (body : Json) : Answer :=
  { status, headers := [("content-type", "application/json")], body := body.text }

/-- The answer to a message that failed. -/
def failureAnswer (code error : String) (status : Nat) : Answer :=
  jsonAnswer status (.obj [("code", .str code), ("error", .str error), ("status", .nat status)])

/-- Whether answers with a status have no body. -/
def isBodiless (status : Nat) : Bool := status = 204 || status = 304

/-- The answer that a response makes. -/
def responseAnswer (response : Response) : Answer :=
  let answer := jsonAnswer response.status response.body
  if isBodiless response.status then { answer with body := "" } else answer

/-- The answer to a request that was handled. -/
def answerOf (request : Request) : Option (Except Failure Response) → Answer
  | none =>
    failureAnswer "ROUTE_NOT_FOUND" s!"No route for {request.method} {request.path}" 404
  | some (.error e) => failureAnswer e.kind.code e.message e.kind.status
  | some (.ok response) => responseAnswer response

/-- The answer to a message whose body is too large. -/
def tooLarge (limit : Nat) : Answer :=
  failureAnswer "PAYLOAD_TOO_LARGE" s!"Request body exceeds {limit} bytes" 413

/-- What came of a message. -/
structure Answered where
  answer : Answer
  events : List Event
  service : Service
  supply : Supply

/-- Answers a message, without regard to where it comes from. -/
def dispatch (service : Service) (m : Message) (supply : Supply) : Answered :=
  if m.body.length > service.settings.bodyLimit then
    { answer := tooLarge service.settings.bodyLimit, events := [], service, supply }
  else
    let handled := service.router.handle m.request supply
    { answer := answerOf m.request handled.result
      events := handled.events
      service := { service with router := handled.router }
      supply := handled.supply }

end Service
end QueryGateway
