import QueryGateway.DomainName.Basic
import QueryGateway.Network.IpAddress
import QueryGateway.Text.Hex

/-!
Hosts in URLs.

A host is an IPv6 address in brackets, or a name.  In most schemes a name is a plain text.
Schemes of the web have domain names, and one that ends in a number is an IPv4 address.
-/

namespace QueryGateway.Url

/-- A host.  A domain name is given by its labels. -/
inductive Host where
  | plain (text : List Char)
  | domain (labels : List (List Char))
  | ipv4 (address : Nat)
  | ipv6 (text : List Char)
deriving DecidableEq, Repr

namespace Host

/-- Reads an IPv6 address, after its opening bracket. -/
def ipv6? (s : List Char) : Option Host :=
  if s.getLast? = some ']' ∧ Network.isIpv6 s.dropLast then some (.ipv6 s.dropLast) else none

/-- Whether a character can stand in a plain name. -/
def isPlainChar (c : Char) : Bool :=
  c.toNat != 0 && !"\t\n\r #/:<>?@[\\]^|".toList.contains c

/-- Reads a host of a scheme that is none of the web's. -/
def plain? : List Char → Option Host
  | '[' :: rest => ipv6? rest
  | s => if s.all isPlainChar then some (.plain s) else none

/-- The number that a part of an IPv4 address stands for: hexadecimal after `0x`, octal
after another zero, else decimal.  Nothing after `0x` is zero. -/
def ipv4Part? : List Char → Option Nat
  | [] => none
  | '0' :: 'x' :: digits =>
    if digits.all fun c => (Text.hexDigit? c).isSome then some (Text.hexValue digits) else none
  | '0' :: digits =>
    if digits.all fun c => '0' ≤ c && c ≤ '7' then
      some (digits.foldl (fun value c => value * 8 + (c.toNat - '0'.toNat)) 0)
    else none
  | digits => if digits.all Char.isDigit then some (Decimal.digitsValue digits) else none

/-- Whether a label is a number, whether it could be a part of an address or not. -/
def isNumber (label : List Char) : Bool :=
  (!label.isEmpty && label.all Char.isDigit) || (ipv4Part? label).isSome

/-- The address with the given parts, at most four.  The last part fills what the others
leave of the address. -/
def ipv4? (parts : List (List Char)) : Option Host := do
  let numbers ← parts.mapM ipv4Part?
  let last ← numbers.getLast?
  let front := numbers.dropLast
  if front.length ≤ 3 && front.all (· < 256) && last < Nat.pow 256 (4 - front.length) then
    let address := front.foldl (fun value n => value * 256 + n) 0
    some (.ipv4 (address * Nat.pow 256 (4 - front.length) + last))
  else none

/-- Labels without the empty one after a last point. -/
def withoutRoot (labels : List (List Char)) : List (List Char) :=
  if labels.getLast? = some [] then labels.dropLast else labels

/-- Reads a host of a scheme of the web. -/
def domain? : List Char → Option Host
  | '[' :: rest => ipv6? rest
  | s => do
    let decoded ← Text.Utf8.decode? (Text.percentDecodeBytes (Text.Utf8.encode s))
    let labels ← DomainName.read? decoded
    let parts := withoutRoot labels
    if labels = [[]] then none
    else if parts.getLast?.any isNumber then ipv4? parts
    else some (.domain labels)

end Host
end QueryGateway.Url
