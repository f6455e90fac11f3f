import QueryGateway.Url.Host

/-!
URLs.

A URL has a scheme, and in most cases an authority: a user with a password, a host and a
port.  What follows is a path, a query and a fragment, of which only the query is kept.
The schemes of the web always have a host, however many slashes stand before it, and take
backslashes for slashes.  Files have neither user nor port.
-/

namespace QueryGateway

/-- A URL, with its parts as they are written. -/
structure Url where
  scheme : List Char
  user : List Char := []
  password : List Char := []
  host : Option Url.Host := none
  port : Option Nat := none
  query : List Char := []
deriving Repr

namespace Url

/-- The kinds of schemes. -/
inductive Kind where
  | web
  | file
  | other
deriving DecidableEq, Repr

/-- The kind of a scheme, which is in lower case. -/
def kindOf (scheme : List Char) : Kind :=
  if ["http", "https", "ws", "wss", "ftp"].any (·.toList == scheme) then .web
  else if scheme = "file".toList then .file
  else .other

/-- The characters that count: without controls and blanks at the ends, and without tabs
and line breaks anywhere. -/
def chars (s : String) : List Char :=
  let isEdge (c : Char) : Bool := c.toNat ≤ 0x20
  let inner := ((s.toList.dropWhile isEdge).reverse.dropWhile isEdge).reverse
  inner.filter fun c => c != '\t' && c != '\n' && c != '\r'

/-- Whether a text is a scheme. -/
def isScheme : List Char → Bool
  | [] => false
  | c :: rest => c.isAlpha && rest.all fun d => d.isAlphanum || d == '+' || d == '-' || d == '.'

/-- Whether a character is a slash, of either kind. -/
def isSlash (c : Char) : Bool := c == '/' || c == '\\'

/-- Whether a character ends the authority. -/
def isAuthorityEnd (kind : Kind) (c : Char) : Bool :=
  c == '?' || c == '#' || (if kind = .other then c == '/' else isSlash c)

/-- What stands before and after the last at sign. -/
def breakAtLastAt? (s : List Char) : Option (List Char × List Char) :=
  (Text.breakOn? ['@'] s.reverse).map fun (after, before) => (before.reverse, after.reverse)

/-- Splits a host from what follows it.  A colon ends it, unless it stands in brackets. -/
def splitHost : (inside : Bool) → List Char → List Char × List Char
  | _, [] => ([], [])
  | inside, c :: rest =>
    if c = ':' ∧ ¬inside then ([], c :: rest)
    else
      let (host, after) := splitHost (c == '[' || (inside && c != ']')) rest
      (c :: host, after)

/-- Reads what follows a host: nothing, or a colon and digits.  A backslash ends them, and
without digits there is no port. -/
def port? : List Char → Option (Option Nat)
  | [] => some none
  | _ :: s =>
    let (digits, rest) := Decimal.takeDigits s
    let port := Decimal.digitsValue digits
    if (rest.isEmpty ∨ rest.head? = some '\\') ∧ port < 65536 then
      some (if digits.isEmpty then none else some port)
    else none

/-- Reads an authority, which starts the text.  A host is missing only outside the web,
where there is no user and no colon either, and no slash after a lone at sign. -/
def authority? (kind : Kind) (url : Url) (s : List Char) : Option Url := do
  let authority := s.takeWhile fun c => !isAuthorityEnd kind c
  let isLast := authority.length = s.length
  let (credentials, place) := (breakAtLastAt? authority).getD ([], authority)
  let user := credentials.takeWhile (· != ':')
  let password := (credentials.dropWhile (· != ':')).drop 1
  let (host, after) := splitHost false place
  let port ← port? after
  if host.isEmpty then
    if kind ≠ .web ∧ after.isEmpty ∧ user.isEmpty ∧ password.isEmpty ∧
        (authority ≠ ['@'] ∨ isLast) then
      some url
    else none
  else do
    let host ← if kind = .web then Host.domain? host else Host.plain? host
    some { url with user, password, host := some host, port }

/-- Whether a text is a drive: a letter with a colon or a bar. -/
def isDrive : List Char → Bool
  | [letter, mark] => letter.isAlpha && (mark == ':' || mark == '|')
  | _ => false

/-- Reads what follows the scheme of a file. -/
def file? (url : Url) : List Char → Option Url
  | a :: b :: rest =>
    let host := rest.takeWhile fun c => !isAuthorityEnd .file c
    if isSlash a && isSlash b && !host.isEmpty && !isDrive host then
      (Host.domain? host).map fun host => { url with host := some host }
    else some url
  | _ => some url

/-- Reads a URL. -/
def read? (s : String) : Option Url := do
  let (scheme, rest) ← Text.breakOn? [':'] (chars s)
  let lower := scheme.map Char.toLower
  let kind := kindOf lower
  let query := ((rest.takeWhile (· != '#')).dropWhile (· != '?')).drop 1
  let url : Url := { scheme := lower, query }
  if ¬isScheme scheme then none
  else
    match kind, rest with
    | .file, rest => file? url rest
    | .web, rest => authority? kind url (rest.dropWhile isSlash)
    | .other, '/' :: '/' :: rest => authority? kind url rest
    | .other, _ => some url

end Url
end QueryGateway
