import QueryGateway.Service.Basic

/-!
Sharing answers across origins.

An answer says which origin may read it: every one, or the one that asks if it is
among those allowed.  A message with the method `OPTIONS` asks what is allowed and
goes no further.
-/

namespace QueryGateway.Service

/-- The field that names the origin which may read an answer. -/
def originFields (origins : List String) (headers : Headers) : List (String × String) :=
  if origins.isEmpty then [("access-control-allow-origin", "*")]
  else
    match headers.get? "origin" with
    | some origin =>
      if (origins.filter Headers.isValue).contains origin then
        [("access-control-allow-origin", origin)]
      else []
    | none => []

/-- The fields of a message that the answer depends on. -/
def varyFields : List (String × String) :=
  [("vary", "origin, access-control-request-method, access-control-request-headers")]

/-- The answer to a message that asks what is allowed. -/
def preflight (origins : List String) (headers : Headers) : Answer :=
  { status := 200
    headers := [("access-control-allow-headers", "*"), ("access-control-allow-methods", "*")] ++
      originFields origins headers ++ varyFields
    body := "" }

/-- Answers a message. -/
def respond (service : Service) (m : Message) (supply : Supply) : Answered :=
  let origins := service.settings.corsOrigins
  if m.method = "OPTIONS" then
    { answer := preflight origins m.headers, events := [], service, supply }
  else
    let answered := service.dispatch m supply
    let answer := answered.answer
    { answered with
      answer := { answer with
        headers := originFields origins m.headers ++ answer.headers ++ varyFields } }

end QueryGateway.Service
