/-!
Finite binary64 numbers as exact integers.

Every finite binary64 number is a whole number of units of `2 ^ (-1074)`, the
least positive one.  A number is therefore kept as its sign and its count of
units, so comparing two of them is comparing integers, and the only place where
precision is lost is `nearest`, which rounds an exact quotient to 53 bits with
ties going to the even neighbour.
-/

namespace QueryGateway

/-- A finite binary64 number: its sign, and its magnitude in units of `2 ^ (-1074)`. -/
structure Binary64 where
  negative : Bool
  units : Nat
deriving DecidableEq, Repr, Inhabited

namespace Binary64

def zero : Binary64 := { negative := false, units := 0 }

/-- The distance between neighbouring numbers at a magnitude of `units`. -/
def spacing (units : Nat) : Nat := Nat.pow 2 (units.log2 - 52)

/-- The first magnitude that is too large to be finite. -/
def limit : Nat := Nat.pow 2 2098

/-- The number of units in one. -/
def one : Nat := Nat.pow 2 1074

/-- The signed count of units.  Both zeros count nothing. -/
def toInt (x : Binary64) : Int := if x.negative then -(x.units : Int) else x.units

/-- The multiple of `step` nearest to `num`, a half going to the even multiple. -/
def nearestMultiple (num step : Nat) : Nat :=
  let quotient := num / step
  let remainder := num % step
  if 2 * remainder < step ∨ 2 * remainder = step ∧ quotient % 2 = 0 then quotient
  else quotient + 1

/-- The magnitude nearest to `num / den` units that has at most 53 significant bits. -/
def nearest (num den : Nat) : Nat :=
  let step := spacing (num / den)
  nearestMultiple num (den * step) * step

/-- The number nearest to an integer. -/
def ofInt (n : Int) : Binary64 :=
  { negative := n < 0, units := nearest (n.natAbs * one) 1 }

/-- The number nearest to `digits * 10 ^ exponent`, or nothing when that is too
large.  Exponents far outside the range are settled by the count of digits, so
no power is computed for them. -/
def ofDecimal? (negative : Bool) (digits : Nat) (exponent : Int) : Option Binary64 :=
  let magnitude := exponent + (Nat.toDigits 10 digits).length
  if digits = 0 ∨ magnitude < -400 then some { negative, units := 0 }
  else if magnitude > 400 then none
  else
    let units := if exponent < 0 then nearest (digits * one) (Nat.pow 10 exponent.natAbs)
      else nearest (digits * one * Nat.pow 10 exponent.natAbs) 1
    if units < limit then some { negative, units } else none

/-- The number nearest to the sum, or nothing when that is too large.  A sum of
zero is negative only when both terms are. -/
def add? (x y : Binary64) : Option Binary64 :=
  let sum := x.toInt + y.toInt
  let units := nearest sum.natAbs 1
  let negative := if sum = 0 then x.negative && y.negative else decide (sum < 0)
  if units < limit then some { negative, units } else none

/-- The nearest natural number, a half going up, if the number lies between zero and
`2 ^ 64`. -/
def rounded64? (x : Binary64) : Option Nat :=
  if (x.negative ∧ x.units ≠ 0) ∨ Nat.pow 2 64 * one ≤ x.units then none
  else some ((x.units + one / 2) / one)

/-- The numeric order.  The two zeros are equal. -/
def order (x y : Binary64) : Ordering := compare x.toInt y.toInt

end Binary64
end QueryGateway
