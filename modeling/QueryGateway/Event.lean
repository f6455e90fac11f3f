/-!
Events: what an observer of a run is told.

Every event has a level of its own, so the level says nothing that the event does
not say.
-/

namespace QueryGateway

/-- The importance of an event. -/
inductive Level where
  | debug
  | info
  | warn
  | error
deriving DecidableEq, Repr, Inhabited

namespace Level

def name : Level → String
  | .debug => "DEBUG"
  | .info => "INFO"
  | .warn => "WARN"
  | .error => "ERROR"

end Level

/-- A step in the life of a gateway or of a request. -/
inductive Event where
  | bootStart
  | bootComplete
  | configLoaded
  | adapterRegistered
  | routeCompiled
  | requestMatched
  | requestUnmatched
  | authResolved
  | authRejected
  | queryExecuted
  | queryFailed
  | resourceNotFound
  | requestComplete
  | requestFailed
deriving DecidableEq, Repr, Inhabited

namespace Event

def name : Event → String
  | .bootStart => "BOOT_START"
  | .bootComplete => "BOOT_COMPLETE"
  | .configLoaded => "CONFIG_LOADED"
  | .adapterRegistered => "ADAPTER_REGISTERED"
  | .routeCompiled => "ROUTE_COMPILED"
  | .requestMatched => "REQUEST_MATCHED"
  | .requestUnmatched => "REQUEST_UNMATCHED"
  | .authResolved => "AUTH_RESOLVED"
  | .authRejected => "AUTH_REJECTED"
  | .queryExecuted => "QUERY_EXECUTED"
  | .queryFailed => "QUERY_FAILED"
  | .resourceNotFound => "RESOURCE_NOT_FOUND"
  | .requestComplete => "REQUEST_COMPLETE"
  | .requestFailed => "REQUEST_FAILED"

def level : Event → Level
  | .bootStart => .info
  | .bootComplete => .info
  | .configLoaded => .info
  | .adapterRegistered => .info
  | .routeCompiled => .debug
  | .requestMatched => .debug
  | .requestUnmatched => .debug
  | .authResolved => .debug
  | .authRejected => .debug
  | .queryExecuted => .debug
  | .queryFailed => .error
  | .resourceNotFound => .debug
  | .requestComplete => .info
  | .requestFailed => .warn

/-- The event with its level. -/
def text (e : Event) : String := e.level.name ++ " " ++ e.name

end Event
end QueryGateway
