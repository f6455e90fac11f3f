import QueryGateway.Text.Split
import QueryGateway.Text.Utf8

/-!
Hexadecimal digits, and the texts that are encoded with them.

In a percent-encoded text a percent sign and two hexadecimal digits stand for a byte.
A percent sign without two digits stands for itself.  In the form that query strings
have, pairs stand between ampersands, and an equals sign divides name and value.  A plus
sign is a blank there, and everything else may be percent-encoded.
-/

namespace QueryGateway.Text

/-- The value of a hexadecimal digit. -/
def hexDigit? (c : Char) : Option Nat :=
  if '0' ≤ c ∧ c ≤ '9' then some (c.toNat - '0'.toNat)
  else if 'a' ≤ c ∧ c ≤ 'f' then some (c.toNat - 'a'.toNat + 10)
  else if 'A' ≤ c ∧ c ≤ 'F' then some (c.toNat - 'A'.toNat + 10)
  else none

/-- The value of a run of hexadecimal digits. -/
def hexValue (digits : List Char) : Nat :=
  digits.foldl (fun value c => value * 16 + (hexDigit? c).getD 0) 0

/-! ## Percent encoding -/

/-- The value of a byte that is a hexadecimal digit. -/
def hexByte? (b : UInt8) : Option Nat := hexDigit? (Char.ofNat b.toNat)

/-- Replaces percent-encoded bytes. -/
def percentDecodeBytes : List UInt8 → List UInt8
  | [] => []
  | [a] => [a]
  | [a, b] => [a, b]
  | a :: b :: c :: rest =>
    if a.toNat = 0x25 then
      match hexByte? b, hexByte? c with
      | some high, some low => UInt8.ofNat (high * 16 + low) :: percentDecodeBytes rest
      | _, _ => a :: percentDecodeBytes (b :: c :: rest)
    else a :: percentDecodeBytes (b :: c :: rest)

/-- Decodes a percent-encoded text. -/
def percentDecode (s : List Char) : List Char :=
  Utf8.decodeLossy (percentDecodeBytes (Utf8.encode s))

/-! ## Forms -/

/-- Decodes a name or a value. -/
def formDecode (s : List Char) : List Char :=
  percentDecode (s.map fun c => if c = '+' then ' ' else c)

/-- The pairs of a query string, in order.  Empty pieces are passed over, and a
piece without an equals sign is a name with an empty value. -/
def formPairs (query : List Char) : List (String × String) :=
  ((split '&' query).filter fun piece => !piece.isEmpty).map fun piece =>
    let name := piece.takeWhile (· != '=')
    let value := (piece.dropWhile (· != '=')).drop 1
    (String.ofList (formDecode name), String.ofList (formDecode value))

end QueryGateway.Text
