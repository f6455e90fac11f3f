import QueryGateway.Number.Decimal
import QueryGateway.Number.Scaling

/-!
Numerals of JSON text.

A numeral without fraction and exponent is an integer if it fits in 64 bits, signed or
unsigned, and is not negative zero.  Every other numeral is a binary64 number.  Its
leading digits, as many as fit in 64 bits, are rounded, and what comes out is scaled by a
power of ten.  With few digits and a small power that is the nearest number; otherwise it
may be a neighbour of that.
-/

namespace QueryGateway.Json

/-- A numeral.  It is whole when it has neither a fraction nor an exponent. -/
structure Numeral where
  decimal : Decimal
  isWhole : Bool
deriving DecidableEq, Repr

namespace Numeral

/-- Whether a character can stand in a numeral. -/
def isPart (c : Char) : Bool := c.isDigit || "+-.eE".toList.contains c

/-- Reads a numeral: digits without a needless zero in front, after a minus sign or none,
then a point with digits or none, then an exponent or none. -/
def read? (s : List Char) : Option Numeral := do
  let (negative, unsigned) := match s with
    | '-' :: rest => (true, rest)
    | s => (false, s)
  let (whole, rest) := Decimal.takeDigits unsigned
  if whole.isEmpty ∨ (whole.length > 1 ∧ whole.head? = some '0') then none
  else do
    let (fraction, after) ← match rest with
      | '.' :: rest =>
        let (digits, rest) := Decimal.takeDigits rest
        if digits.isEmpty then none else some (digits, rest)
      | rest => some ([], rest)
    let (exponent, after) ← Decimal.takeExponent after
    if after.isEmpty then
      some { decimal := { negative, whole, fraction, exponent }, isWhole := rest.isEmpty }
    else none

/-- Takes digits on to a number, as long as it fits in 64 bits, and counts those that are
left over. -/
def significand : (taken : Nat) → List Char → Nat × Nat
  | taken, [] => (taken, 0)
  | taken, c :: rest =>
    let more := taken * 10 + (c.toNat - '0'.toNat)
    if more < Nat.pow 2 64 then significand more rest else (taken, rest.length + 1)

/-- The binary64 number of a decimal numeral, or nothing when it is too large. -/
def toBinary64? (d : Decimal) : Option Binary64 :=
  let (taken, wholeLeft) := significand 0 d.whole
  let (taken, fractionLeft) := significand taken d.fraction
  let exponent := d.exponent + wholeLeft + fractionLeft - d.fraction.length
  (Binary64.scaled? (Binary64.ofInt taken).units exponent).map fun units =>
    { negative := d.negative, units }

/-- The number that a numeral stands for, or nothing when it is too large. -/
def number? (n : Numeral) : Option Number :=
  let size : Int := Decimal.digitsValue n.decimal.whole
  let value := if n.decimal.negative then -size else size
  if n.isWhole ∧ Number.fits value ∧ ¬(n.decimal.negative ∧ value = 0) then some (.int value)
  else (toBinary64? n.decimal).map .float

end Numeral
end QueryGateway.Json
