import QueryGateway.Access.Token
import QueryGateway.Json.Reader
import QueryGateway.Route.Definition
import QueryGateway.Service.Settings

/-!
Configurations: everything that a gateway is made of.

A configuration is a JSON text.  Its records may be written as arrays, repeat none of
their fields, and pass over fields that they do not know.  Dictionaries may repeat a
name, and keep the last value.
-/

namespace QueryGateway

/-- How log lines are written. -/
inductive LogFormat where
  | pretty
  | json
deriving DecidableEq, Repr, Inhabited

/-- The settings of an adapter. -/
inductive AdapterSettings where
  | postgres (url : String) (maxConnections : Nat)
  | memory (collections : Dictionary (List Json))
deriving Repr, Inhabited

/-- A configuration. -/
structure Configuration where
  server : Service.Settings := {}
  logFormat : LogFormat := .pretty
  tokenRules : Option Access.TokenRules := none
  adapters : Dictionary AdapterSettings
  routes : List Route.Definition
deriving Repr

namespace LogFormat

def name : LogFormat → String
  | .pretty => "pretty"
  | .json => "json"

/-- The format of a name. -/
def named? (name : String) : Option LogFormat :=
  [LogFormat.pretty, .json].find? fun f => f.name == name

/-- Reads a format: its name, or an object with its name and null. -/
def ofSource? (value : Json.Source) : Option LogFormat :=
  (value.choice? Json.Source.isNull).bind named?

end LogFormat

namespace AdapterSettings

open Json.Source

/-- The name of the kind of adapter. -/
def kind : AdapterSettings → String
  | .postgres _ _ => "postgres"
  | .memory _ => "memory"

/-- Reads the settings of a kind. -/
def ofKind? (kind : String) (value : Json.Source) : Option AdapterSettings := do
  if kind = "postgres" then
    match ← value.record? ["url", "max_connections"] with
    | [url, maxConnections] =>
      let url ← required str? url
      let maxConnections ← optional (natBelow (Nat.pow 2 32)) 10 maxConnections
      some (.postgres url maxConnections)
    | _ => none
  else if kind = "memory" then
    match ← value.record? ["collections"] with
    | [collections] =>
      let collections ← optional (entriesOf (listOf value?)) [] collections
      some (.memory (.ofList collections))
    | _ => none
  else none

/-- Reads settings: an object that names its kind once, or an array that starts with it.
Unlike in other records, unknown fields have to stand for values. -/
def ofSource? (value : Json.Source) : Option AdapterSettings :=
  if ¬value.isSound then none
  else
    match value with
    | .obj entries =>
      match entries.partition fun (name, _) => name == some "kind" with
      | ([(_, .str kind)], rest) => ofKind? kind (.obj rest)
      | _ => none
    | .arr (.str kind :: rest) => ofKind? kind (.arr rest)
    | _ => none

/-- Writes settings. -/
def toJson : AdapterSettings → Json
  | .postgres url maxConnections =>
    .obj [("kind", .str "postgres"), ("url", .str url), ("max_connections", .nat maxConnections)]
  | .memory collections =>
    .obj [("kind", .str "memory"), ("collections", .obj (collections.map Json.arr).entries)]

end AdapterSettings

namespace Configuration

open Json.Source

/-- Reads the rules for tokens. -/
def tokenRules? (value : Json.Source) : Option Access.TokenRules := do
  match ← value.record? ["secret", "issuer", "audience"] with
  | [secret, issuer, audience] =>
    let secret ← required str? secret
    let issuer ← optional (nullable str?) none issuer
    let audience ← optional (nullable str?) none audience
    some { secret, issuer, audience }
  | _ => none

/-- Reads the section on access. -/
def access? (value : Json.Source) : Option Access.TokenRules := do
  match ← value.record? ["jwt"] with
  | [rules] => required tokenRules? rules
  | _ => none

/-- Reads a configuration. -/
def ofSource? (value : Json.Source) : Option Configuration := do
  match ← value.record? ["server", "log_format", "auth", "adapters", "routes"] with
  | [server, logFormat, access, adapters, routes] =>
    let server ← optional Service.Settings.ofSource? {} server
    let logFormat ← optional LogFormat.ofSource? .pretty logFormat
    let tokenRules ← optional (nullable access?) none access
    let adapters ← required (entriesOf AdapterSettings.ofSource?) adapters
    let routes ← required (listOf Route.Definition.ofSource?) routes
    some { server, logFormat, tokenRules, adapters := .ofList adapters, routes }
  | _ => none

/-- Reads the text of a configuration. -/
def read? (text : String) : Option Configuration := (Json.Source.read? text).bind ofSource?

/-- Writes the rules for tokens; what is not set is left out. -/
def tokenRulesJson (rules : Access.TokenRules) : Json :=
  .obj ([("secret", .str rules.secret)] ++
    rules.issuer.elim [] (fun issuer => [("issuer", .str issuer)]) ++
    rules.audience.elim [] (fun audience => [("audience", .str audience)]))

/-- Writes a configuration. -/
def toJson (c : Configuration) : Json :=
  .obj ([("server", c.server.toJson), ("log_format", .str c.logFormat.name)] ++
    c.tokenRules.elim [] (fun rules => [("auth", .obj [("jwt", tokenRulesJson rules)])]) ++
    [("adapters", .obj (c.adapters.map AdapterSettings.toJson).entries),
      ("routes", .arr (c.routes.map Route.Definition.toJson))])

end Configuration
end QueryGateway
