import QueryGateway.Json.Record
import QueryGateway.Network.IpAddress

/-!
Settings of a service: where it listens, whom it lets read its answers, and how
large a body it takes.

A service listens at a socket address: an IP address and a port.  Names are not
resolved, and an IPv6 address stands in brackets.
-/

namespace QueryGateway.Service

/-- The settings of a service.  Without allowed origins every origin is allowed. -/
structure Settings where
  host : String := "0.0.0.0"
  port : Nat := 8080
  corsOrigins : List String := []
  bodyLimit : Nat := 1048576
deriving DecidableEq, Repr, Inhabited

namespace Settings

open Json.Source

/-- The address to listen at. -/
def address (s : Settings) : String := s!"{s.host}:{s.port}"

/-- Reads settings; what is not set has its default. -/
def ofSource? (value : Json.Source) : Option Settings := do
  match ← value.record? ["host", "port", "cors_origins", "body_limit_bytes"] with
  | [host, port, corsOrigins, bodyLimit] =>
    let host ← optional str? "0.0.0.0" host
    let port ← optional (natBelow 65536) 8080 port
    let corsOrigins ← optional (listOf str?) [] corsOrigins
    let bodyLimit ← optional (natBelow (Nat.pow 2 64)) 1048576 bodyLimit
    some { host, port, corsOrigins, bodyLimit }
  | _ => none

/-- Writes settings, every one of them. -/
def toJson (s : Settings) : Json :=
  .obj [("host", .str s.host), ("port", .nat s.port),
    ("cors_origins", .arr (s.corsOrigins.map .str)), ("body_limit_bytes", .nat s.bodyLimit)]

end Settings

/-! ## Socket addresses -/

open Network

/-- Whether a text is a port. -/
def isPort (s : List Char) : Bool :=
  !s.isEmpty && s.all Char.isDigit && Decimal.digitsValue s < 65536

/-- Whether a text is an IPv6 address with a scope after a percent sign, or without. -/
def isScopedIpv6 (s : List Char) : Bool :=
  match Text.breakOn? ['%'] s with
  | none => isIpv6 s
  | some (address, scope) =>
    isIpv6 address && !scope.isEmpty && scope.all Char.isDigit &&
      Decimal.digitsValue scope < Nat.pow 2 32

/-- Whether a text is a socket address. -/
def isSocketAddress (s : String) : Bool :=
  match s.toList with
  | '[' :: rest =>
    match Text.breakOn? [']', ':'] rest with
    | some (address, port) => isScopedIpv6 address && isPort port
    | none => false
  | chars =>
    match Text.breakOn? [':'] chars with
    | some (address, port) => isIpv4 address && isPort port
    | none => false

end QueryGateway.Service
