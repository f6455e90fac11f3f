import QueryGateway.CommandLine.Arguments
import QueryGateway.Configuration.Boot
import QueryGateway.Service.Cors
import QueryGateway.Service.Settings

/-!
Running commands.

Every command loads its configuration and starts the gateway in the same way.  What a
command prints and whom it serves is its outcome; printing and listening are left to the
caller.
-/

namespace QueryGateway.CommandLine

/-! ## The table of routes: one line per route, in order -/

/-- A text filled up with blanks to a width. -/
def padRight (width : Nat) (s : String) : String :=
  String.ofList (s.toList ++ List.replicate (width - s.toList.length) ' ')

/-- The names of the parameters of a route. -/
def capturesOf (route : Route) : String :=
  if route.pattern.names.isEmpty then "-" else ",".intercalate route.pattern.names

/-- The line of a route: method, path, parameters, adapter, and whether it reads claims. -/
def routeLine (router : Router) (route : Route) : String :=
  padRight 7 route.method ++ " " ++ padRight 32 route.path ++
    " captures=" ++ padRight 16 (capturesOf route) ++
    " adapter=" ++ padRight 12 ((router.adapterName? route).getD "?") ++
    " auth=" ++ (if route.usesAuth then "yes" else "no") ++ "\n"

/-- The table of a router. -/
def routeTable (router : Router) : String := String.join (router.routes.map (routeLine router))

/-! ## Commands -/

/-- Why a command failed. -/
inductive CommandError where
  | configuration (error : ConfigurationError)
  | start (error : StartError)
  | invalidAddress (address : String)
deriving Repr

namespace CommandError

def code : CommandError → String
  | .configuration _ => "AERO_CLI_CONFIG_ERROR"
  | .start _ => "AERO_CLI_BOOT_FAILED"
  | .invalidAddress _ => "AERO_CLI_SERVE_FAILED"

def message : CommandError → String
  | .configuration error => error.message
  | .start error => error.message
  | .invalidAddress address =>
    s!"HTTP server failed: invalid socket address {address}: invalid socket address syntax"

end CommandError

/-- What came of a command: what it prints, and the service to run if it serves. -/
structure Outcome where
  result : Except CommandError (Option Service)
  output : String
  events : List Event
  supply : Supply

/-- The file that a command reads. -/
def Command.config : Command → String
  | .serve config _ => config
  | .check config => config
  | .routes config => config

/-- The settings under which a command serves. -/
def Command.settings (command : Command) (settings : Service.Settings) : Service.Settings :=
  match command with
  | .serve _ (some port) => { settings with port }
  | _ => settings

/-- What a command prints and serves, once the gateway has started. -/
def Command.finish (command : Command) (settings : Service.Settings) (router : Router) :
    Except CommandError (Option Service) × String :=
  match command with
  | .serve _ _ =>
    if Service.isSocketAddress settings.address then (.ok (some { settings, router }), "")
    else (.error (.invalidAddress settings.address), "")
  | .check _ => (.ok none, s!"OK: {router.routes.length} route(s) compiled\n")
  | .routes _ => (.ok none, routeTable router)

/-- Runs a command.  `readFile` gives the text of a file, if it can be read. -/
def Command.run (command : Command) (connect : Connect) (readFile : String → Option String)
    (supply : Supply) : Outcome :=
  let loaded : Except ConfigurationError Configuration :=
    match readFile command.config with
    | some text => Configuration.load text
    | none => .error .unreadable
  match loaded with
  | .error e => { result := .error (.configuration e), output := "", events := [], supply }
  | .ok c =>
    let built := c.buildRouter connect supply
    let events := [.configLoaded, .bootStart] ++ built.events
    match built.result with
    | .error e => { result := .error (.start e), output := "", events, supply := built.supply }
    | .ok router =>
      let (result, output) := command.finish (command.settings c.server) router
      { result, output, events := events ++ [.bootComplete], supply := built.supply }

end QueryGateway.CommandLine
