import QueryGateway.Text.Hex
import QueryGateway.Url.Basic

/-!
URLs of databases.

Any URL will do, of whatever scheme.  What names the user and the place has to be text when
its percent signs are decoded, and the parameters in the query string that have a form of
their own are checked for it.
-/

namespace QueryGateway.Sql

/-- The modes of encryption. -/
def encryptionModes : List String :=
  ["disable", "allow", "prefer", "require", "verify-ca", "verify-full"]

/-- Whether a text is a number below a limit, with a plus sign or without. -/
def isBelow (limit : Nat) (s : List Char) : Bool :=
  let digits := match s with
    | '+' :: rest => rest
    | s => s
  !digits.isEmpty && digits.all Char.isDigit && Decimal.digitsValue digits < limit

/-- Whether a parameter has the form that its name asks for. -/
def isUrlParameter (name value : String) : Bool :=
  if name = "sslmode" ∨ name = "ssl-mode" then encryptionModes.contains value.toLower
  else if name = "port" then isBelow (Nat.pow 2 16) value.toList
  else if name = "hostaddr" then Network.isIpv4 value.toList || Network.isIpv6 value.toList
  else if name = "statement-cache-capacity" then isBelow (Nat.pow 2 64) value.toList
  else true

/-- The bytes of a percent-encoded text. -/
def encodedBytes (s : List Char) : List UInt8 := Text.percentDecodeBytes (Text.Utf8.encode s)

/-- Whether a percent-encoded text is text. -/
def isEncodedText (s : List Char) : Bool := (Text.Utf8.decode? (encodedBytes s)).isSome

/-- Whether a host can be asked for.  One that starts with a slash is the path of a socket,
and has to be text. -/
def isPlace : Url.Host → Bool
  | .plain text => (encodedBytes text).head? != some 0x2f || isEncodedText text
  | _ => true

/-- Whether a text is the URL of a database. -/
def isConnectionUrl (text : String) : Bool :=
  match Url.read? text with
  | none => false
  | some url =>
    url.host.all isPlace && isEncodedText url.user && isEncodedText url.password &&
      (Text.formPairs url.query).all fun (name, value) => isUrlParameter name value

end QueryGateway.Sql
