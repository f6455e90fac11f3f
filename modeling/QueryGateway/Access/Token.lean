import QueryGateway.Access.Header
import QueryGateway.Digest.Sha256
import QueryGateway.Json.Reader
import QueryGateway.Text.Base64Url
import QueryGateway.Text.Split

/-!
Signed tokens that carry the claims of a caller.

A token is a header, a payload and a signature, with dots between them.  The
signature is the authentication code of the rest under a shared secret.  It is
checked before anything in the payload is looked at, and compared as text, so a
signature in any other spelling is refused.  The payload has to name an instant
of expiry, which may lie a minute back; issuer and audience are checked where the
rules name them.
-/

namespace QueryGateway.Access

/-- What tokens are checked against. -/
structure TokenRules where
  secret : String
  issuer : Option String := none
  audience : Option String := none
deriving DecidableEq, Repr, Inhabited

/-- Why a token is refused. -/
inductive TokenError where
  | malformed
  | invalidAlgorithm
  | invalidSignature
  | missingExpiry
  | expired
  | invalidIssuer
  | invalidAudience
deriving DecidableEq, Repr, Inhabited

/-- For how many seconds after its expiry a token is accepted. -/
def leeway : Nat := 60

/-- The parts of a token, as they are written. -/
structure Token where
  header : List Char
  payload : List Char
  signature : List Char
deriving DecidableEq, Repr

namespace Token

/-- What stands before and after the last dot. -/
def breakAtLastDot? (s : List Char) : Option (List Char × List Char) :=
  (Text.breakOn? ['.'] s.reverse).map fun (after, before) => (before.reverse, after.reverse)

/-- The parts of a token.  Dots beyond the second belong to the header. -/
def ofText? (s : String) : Option Token := do
  let (message, signature) ← breakAtLastDot? s.toList
  let (header, payload) ← breakAtLastDot? message
  some { header, payload, signature }

/-- The text that is signed. -/
def message (t : Token) : List Char := t.header ++ '.' :: t.payload

/-- The signature that a secret makes. -/
def signatureWith (secret : String) (t : Token) : List Char :=
  Text.Base64Url.encode
    (Digest.hmacSha256 (Text.Utf8.encode secret.toList) (Text.Utf8.encode t.message))

end Token

/-- What an encoded part says. -/
def contents? (part : List Char) : Option Json.Source :=
  (Text.Base64Url.decode? part).bind Json.Source.ofBytes?

/-- Whether a value is no array or object, or an empty one. -/
def isFlat : Json.Source → Bool
  | .arr items => items.isEmpty
  | .obj entries => entries.isEmpty
  | _ => true

/-- Whether a value is no array and no object. -/
def isSingle : Json.Source → Bool
  | .arr _ => false
  | .obj _ => false
  | _ => true

/-- Whether the registered claims of a payload can be told apart: each occurs once
at most, the instants hold nothing inside, and the subject is a single value. -/
def registeredClaimsStand (payload : Json.Source) : Bool :=
  match payload.record? ["exp", "nbf", "sub", "iss", "aud"] with
  | some [expiry, start, subject, _, _] =>
    expiry.all isFlat && start.all isFlat && subject.all isSingle
  | _ => false

/-- The second that a claim names, counted from the start of 1970. -/
def second? : Json → Option Nat
  | .num (.int n) => (Number.int n).unsigned?
  | .num (.float x) => x.rounded64?
  | _ => none

/-- The names that a claim gives: one, or a list. -/
def names? : Json → Option (List String)
  | .str name => some [name]
  | .arr items => items.mapM Json.str?
  | _ => none

/-- Whether a claim agrees with what the rules expect.  A claim that gives no names
agrees with everything. -/
def agrees (expected : Option String) (claim : Option Json) : Bool :=
  match expected, claim.bind names? with
  | some name, some names => names.contains name
  | _, _ => true

namespace TokenRules

/-- Checks claims at an instant, given in seconds. -/
def check (rules : TokenRules) (now : Int) (claims : Json.Fields) : Except TokenError Unit :=
  match (claims.lookup "exp").bind second? with
  | none => .error .missingExpiry
  | some expiry =>
    if (expiry : Int) < now - leeway then .error .expired
    else if !agrees rules.issuer (claims.lookup "iss") then .error .invalidIssuer
    else if !agrees rules.audience (claims.lookup "aud") then .error .invalidAudience
    else .ok ()

/-- The claims of a token that passes all checks. -/
def claims (rules : TokenRules) (now : Int) (text : String) : Except TokenError Json.Fields := do
  let some token := Token.ofText? text | throw .malformed
  let some algorithm := (contents? token.header).bind algorithm? | throw .malformed
  if algorithm ≠ "HS256" then throw .invalidAlgorithm
  if token.signature ≠ token.signatureWith rules.secret then throw .invalidSignature
  let some payload := contents? token.payload | throw .malformed
  let some claims := payload.value?.bind Json.fields? | throw .malformed
  if !registeredClaimsStand payload then throw .malformed
  rules.check now claims
  return claims

end TokenRules
end QueryGateway.Access
