import QueryGateway.Configuration.Basic
import QueryGateway.Route.Compilation

/-!
Checks of a configuration by itself, before anything is built from it.
-/

namespace QueryGateway

/-- What can be wrong with a configuration. -/
inductive ConfigurationError where
  | unreadable
  | malformed
  | noAdapters
  | noRoutes
  | zeroPort
  | zeroBodyLimit
  | emptySecret
  | emptyUrl (adapter : String)
  | zeroConnections (adapter : String)
  | invalidStatus (method path : String) (status : Nat)
deriving DecidableEq, Repr

namespace ConfigurationError

def message : ConfigurationError → String
  | .unreadable => "Failed to read config: "
  | .malformed => "Invalid config JSON: "
  | .noAdapters => "At least one adapter is required"
  | .noRoutes => "At least one route is required"
  | .zeroPort => "server.port must be > 0"
  | .zeroBodyLimit => "server.body_limit_bytes must be > 0"
  | .emptySecret => "auth.jwt.secret must not be empty"
  | .emptyUrl adapter => s!"adapters.{adapter}.url is empty"
  | .zeroConnections adapter => s!"adapters.{adapter}.max_connections must be > 0"
  | .invalidStatus method path status => s!"Route {method} {path}: invalid status {status}"

end ConfigurationError

namespace AdapterSettings

/-- What is wrong with the settings of an adapter. -/
def error? (name : String) : AdapterSettings → Option ConfigurationError
  | .postgres url maxConnections =>
    if url.isEmpty then some (.emptyUrl name)
    else if maxConnections = 0 then some (.zeroConnections name)
    else none
  | .memory _ => none

end AdapterSettings

namespace Configuration

/-- What is wrong with the status of a route. -/
def statusError? (route : Route.Definition) : Option ConfigurationError :=
  if Route.isStatus route.status then none
  else some (.invalidStatus route.method route.path route.status)

/-- The first thing that is wrong with a configuration. -/
def error? (c : Configuration) : Option ConfigurationError :=
  if c.adapters.entries.isEmpty then some .noAdapters
  else if c.routes.isEmpty then some .noRoutes
  else if c.server.port = 0 then some .zeroPort
  else if c.server.bodyLimit = 0 then some .zeroBodyLimit
  else if c.tokenRules.any (·.secret.isEmpty) then some .emptySecret
  else (c.adapters.entries.findSome? fun (name, settings) => settings.error? name).or
    (c.routes.findSome? statusError?)

/-- Reads and checks the text of a configuration. -/
def load (text : String) : Except ConfigurationError Configuration :=
  match read? text with
  | none => .error .malformed
  | some c =>
    match c.error? with
    | some e => .error e
    | none => .ok c

end Configuration
end QueryGateway
