import QueryGateway.Number.Decimal
import QueryGateway.Text.Hex
import QueryGateway.Text.Split

/-!
IP addresses.

The octets of an IPv4 address have no leading zeros.  An IPv6 address may leave out a run
of zero groups once, and may end in an IPv4 address.
-/

namespace QueryGateway.Network

/-- Whether a text is a decimal of at most `digits` digits and at most `most`. -/
def isDecimal (digits most : Nat) (s : List Char) : Bool :=
  !s.isEmpty && s.length ≤ digits && s.all Char.isDigit && Decimal.digitsValue s ≤ most

/-- Whether a text is an octet of an IPv4 address. -/
def isOctet (s : List Char) : Bool := isDecimal 3 255 s && (s.length = 1 || s.head? != some '0')

/-- Whether a text is an IPv4 address. -/
def isIpv4 (s : List Char) : Bool :=
  let octets := Text.split '.' s
  octets.length = 4 && octets.all isOctet

/-- Whether a text is a group of an IPv6 address. -/
def isGroup (s : List Char) : Bool :=
  !s.isEmpty && s.length ≤ 4 && s.all fun c => (Text.hexDigit? c).isSome

/-- The number of groups in a row; an IPv4 address at the end, where one may stand,
counts as two. -/
def groupCount? (ipv4 : Bool) (s : List Char) : Option Nat :=
  if s.isEmpty then some 0
  else
    let parts := Text.split ':' s
    if parts.all isGroup then some parts.length
    else if ipv4 ∧ parts.dropLast.all isGroup ∧ parts.getLast?.any isIpv4 then
      some (parts.length + 1)
    else none

/-- Whether a text is an IPv6 address. -/
def isIpv6 (s : List Char) : Bool :=
  match Text.breakOn? [':', ':'] s with
  | none => groupCount? true s = some 8
  | some (front, back) =>
    match groupCount? false front, groupCount? true back with
    | some m, some n => m + n ≤ 7
    | _, _ => false

end QueryGateway.Network
