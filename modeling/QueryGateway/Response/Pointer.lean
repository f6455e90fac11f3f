import QueryGateway.Json.Path

/-!
JSON pointers into the rows of an answer.

A pointer is empty or a row of tokens, each after a slash.  In a token `~1` is a
slash and `~0` a tilde.  Tokens follow names into objects and indices without
leading zeros into arrays; what is not there is null.
-/

namespace QueryGateway.Response

/-- A pointer as it is written. -/
structure Pointer where
  text : String
deriving DecidableEq, Repr

/-- A pointer that is neither empty nor starts with a slash. -/
structure PointerError where
  text : String
deriving DecidableEq, Repr

namespace PointerError

def message (e : PointerError) : String :=
  s!"extraction pointer '{e.text}' must be empty or start with '/'"

end PointerError

namespace Pointer

/-- Reads a pointer. -/
def read (text : String) : Except PointerError Pointer :=
  match text.toList with
  | [] => .ok { text }
  | c :: _ => if c = '/' then .ok { text } else .error { text }

/-- Replaces a tilde and `digit` by `c`. -/
def unescape (digit c : Char) : List Char → List Char
  | '~' :: d :: rest =>
    if d = digit then c :: unescape digit c rest else '~' :: unescape digit c (d :: rest)
  | d :: rest => d :: unescape digit c rest
  | [] => []

/-- The tokens of a pointer. -/
def tokens (p : Pointer) : List String :=
  ((Text.split '/' p.text.toList).drop 1).map fun token =>
    String.ofList (unescape '0' '~' (unescape '1' '/' token))

/-- The index that a token stands for. -/
def index? (token : String) : Option Nat :=
  match token.toList with
  | ['0'] => some 0
  | c :: rest =>
    if c != '0' && (c :: rest).all Char.isDigit then some (Decimal.digitsValue (c :: rest))
    else none
  | [] => none

/-- Follows tokens into a value. -/
def follow : List String → Json → Option Json
  | [], value => some value
  | token :: rest, .obj fields => (Json.Fields.get? token fields).bind (follow rest)
  | token :: rest, .arr items => ((index? token).bind fun i => items[i]?).bind (follow rest)
  | _ :: _, _ => none

/-- What a pointer leads to. -/
def resolve (p : Pointer) (value : Json) : Json := (follow p.tokens value).getD .null

/-- Whether the pointer asks for the first row as a whole, so that its absence
means that nothing was found. -/
def isSingleItem (p : Pointer) : Bool := p.text == "/0"

end Pointer
end QueryGateway.Response
