import QueryGateway.Json.Reader
import QueryGateway.Text.Blank
import QueryGateway.Text.Split
import QueryGateway.Text.Utf8

/-!
Requests, before they are matched to a route.

A header field is kept only if its name is a token and its value is visible ASCII text
with blanks and tabs.  Names are compared in lower case.  A name that is added twice has
two fields, and the first of them answers.

A body of bytes is read as JSON where that is possible, and as text where it is not;
bytes that are no text become replacement characters.
-/

namespace QueryGateway

/-! ## Header fields -/

/-- Header fields, in the order in which they were added, with names in lower case. -/
structure Headers where
  fields : List (String × String) := []
deriving DecidableEq, Repr, Inhabited

namespace Headers

/-- Whether a character can stand in the name of a field. -/
def isNameChar (c : Char) : Bool := c.isAlphanum || "!#$%&'*+-.^_\x60|~".toList.contains c

/-- Whether a text is the name of a field. -/
def isName (s : String) : Bool := !s.isEmpty && s.toList.all isNameChar

/-- Whether a character can stand in the value of a field. -/
def isValueChar (c : Char) : Bool := c = '\t' || (0x20 ≤ c.toNat && c.toNat ≤ 0x7e)

/-- Whether a text is the value of a field. -/
def isValue (s : String) : Bool := s.toList.all isValueChar

/-- Adds a field, unless its name or its value is malformed. -/
def add (name value : String) (h : Headers) : Headers :=
  if isName name && isValue value then { fields := h.fields ++ [(name.toLower, value)] } else h

/-- Adds fields one after the other. -/
def ofList (fields : List (String × String)) : Headers :=
  fields.foldl (fun h (name, value) => h.add name value) {}

/-- The value of the first field of a name. -/
def get? (name : String) (h : Headers) : Option String := h.fields.lookup name.toLower

end Headers

/-! ## Bodies -/

/-- The body of a request. -/
inductive Body where
  | empty
  | parsed (value : Json)
  | raw (bytes : List UInt8)
deriving Repr, Inhabited

namespace Body

/-- The kind of body, in a word. -/
def kind : Body → String
  | .empty => "empty"
  | .parsed _ => "parsed"
  | .raw _ => "raw"

/-- Whether a byte is a space, a tab or a line break. -/
def isBlankByte (b : UInt8) : Bool := [0x20, 0x09, 0x0a, 0x0c, 0x0d].contains b

/-- The value that expressions see.  A body of nothing but blanks is null. -/
def value : Body → Json
  | .empty => .null
  | .parsed value => value
  | .raw bytes =>
    if bytes.all isBlankByte then .null
    else
      match Json.ofBytes? bytes with
      | some value => value
      | none => .str (String.ofList (Text.Utf8.decodeLossy bytes))

end Body

/-! ## Requests -/

/-- A request.  The target is a path, with a query string after a question mark. -/
structure Request where
  method : String
  target : String
  headers : Headers := {}
  body : Body := .empty
deriving Repr, Inhabited

namespace Request

/-- The part of a target before its first question mark. -/
def pathOf (target : String) : List Char := target.toList.takeWhile (· != '?')

/-- The path. -/
def path (r : Request) : String := String.ofList (pathOf r.target)

/-- The query string, without its question mark. -/
def queryString (r : Request) : String :=
  String.ofList ((r.target.toList.dropWhile (· != '?')).drop 1)

/-- The token of the field `authorization`, if its scheme is `Bearer`. -/
def bearer? (r : Request) : Option String := do
  let value ← r.headers.get? "authorization"
  let (scheme, rest) ← Text.breakOn? [' '] value.toList
  let token := Text.trim rest
  if (String.ofList scheme).toLower = "bearer" ∧ ¬token.isEmpty then some (String.ofList token)
  else none

end Request

end QueryGateway
