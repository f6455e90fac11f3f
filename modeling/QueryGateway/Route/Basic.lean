import QueryGateway.Dictionary
import QueryGateway.Json.Basic
import QueryGateway.Response.FieldMap
import QueryGateway.Response.Pointer
import QueryGateway.Route.Pattern
import QueryGateway.Text.Hex

/-!
Routes, and matching requests to them.

Routes are tried in the order of their declaration and the first that fits is
taken, so a route with a literal path stands before one with a parameter in its
place.
-/

namespace QueryGateway

/-- A route that is ready to serve.  The method is in upper case. -/
structure Route where
  method : String
  path : String
  pattern : Route.Pattern
  template : Json
  adapter : Option String
  usesAuth : Bool
  fieldMap : Option Response.FieldMap
  extraction : Option Response.Pointer
  arrayParams : List String
  status : Nat
deriving Repr

namespace Route

/-- The name of a route in messages. -/
def labelOf (method path : String) : String := s!"{method} {path}"

/-- The name of the route in messages. -/
def label (route : Route) : String := labelOf route.method route.path

/-- The path parameters of a request, if the route fits its method and path. -/
def accept? (route : Route) (method : String) (path : List Char) : Option (Dictionary String) :=
  if route.method = method.toUpper then
    (route.pattern.captures? path).map fun captured =>
      .ofList (route.pattern.names.zip
        (captured.map fun chars => String.ofList (Text.percentDecode chars)))
  else none

/-- The first route that fits a request, with its path parameters. -/
def find? (routes : List Route) (method : String) (path : List Char) :
    Option (Route × Dictionary String) :=
  routes.findSome? fun route => (route.accept? method path).map fun params => (route, params)

end Route
end QueryGateway
