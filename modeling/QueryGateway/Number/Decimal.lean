import QueryGateway.Number.Basic

/-!
Decimal numerals as written: a sign, the digits on both sides of the point and
an exponent.  JSON text and expressions have different numeral grammars and
share this reading of the parts.
-/

namespace QueryGateway

/-- The parts of a decimal numeral. -/
structure Decimal where
  negative : Bool
  whole : List Char
  fraction : List Char
  exponent : Int
deriving DecidableEq, Repr

namespace Decimal

/-- The value of a run of decimal digits. -/
def digitsValue (digits : List Char) : Nat :=
  digits.foldl (fun value c => value * 10 + (c.toNat - '0'.toNat)) 0

/-- The leading decimal digits, and what follows them. -/
def takeDigits (s : List Char) : List Char × List Char :=
  (s.takeWhile Char.isDigit, s.dropWhile Char.isDigit)

/-- The nearest binary64 number, or nothing when the numeral is too large. -/
def toBinary64? (d : Decimal) : Option Binary64 :=
  Binary64.ofDecimal? d.negative (digitsValue (d.whole ++ d.fraction))
    (d.exponent - d.fraction.length)

/-- Takes an exponent part if one is there: `e` or `E`, a sign or none, and at
least one digit.  An `e` without digits is no exponent, and nothing is returned. -/
def takeExponent : List Char → Option (Int × List Char)
  | c :: rest =>
    if c = 'e' ∨ c = 'E' then
      let (negative, rest) := match rest with
        | '-' :: rest => (true, rest)
        | '+' :: rest => (false, rest)
        | rest => (false, rest)
      let (digits, rest) := takeDigits rest
      if digits.isEmpty then none
      else
        let size : Int := digitsValue digits
        some (if negative then -size else size, rest)
    else some (0, c :: rest)
  | [] => some (0, [])

end Decimal
end QueryGateway
