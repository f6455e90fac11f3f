import QueryGateway.Number.Binary64

/-!
Scaling binary64 numbers by powers of ten.

The power is rounded before the number is multiplied or divided by it, and the result is
rounded again.  Division by more than `10 ^ 308`, the largest power of ten that is finite,
goes in steps.
-/

namespace QueryGateway.Binary64

/-- The largest exponent of a power of ten that is finite. -/
def maxPower : Nat := 308

/-- The magnitude nearest to `10 ^ exponent`. -/
def powerOfTen (exponent : Nat) : Nat := nearest (Nat.pow 10 exponent * one) 1

/-- The magnitude nearest to a product. -/
def product (a b : Nat) : Nat := nearest (a * b) one

/-- The magnitude nearest to a quotient. -/
def quotient (a b : Nat) : Nat := nearest (a * one) b

/-- A magnitude times `10 ^ exponent`, or nothing when that is too large. -/
def scaledUp? (units exponent : Nat) : Option Nat :=
  if units = 0 then some 0
  else if maxPower < exponent then none
  else
    let scaled := product units (powerOfTen exponent)
    if scaled < limit then some scaled else none

/-- A magnitude divided by `10 ^ exponent`. -/
def scaledDown (units exponent : Nat) : Nat :=
  if units = 0 then 0
  else if maxPower < exponent then
    scaledDown (quotient units (powerOfTen maxPower)) (exponent - maxPower)
  else quotient units (powerOfTen exponent)
termination_by exponent
decreasing_by simp only [maxPower] at *; omega

/-- A magnitude scaled by `10 ^ exponent`, or nothing when that is too large. -/
def scaled? (units : Nat) (exponent : Int) : Option Nat :=
  if exponent < 0 then some (scaledDown units exponent.natAbs)
  else scaledUp? units exponent.natAbs

end QueryGateway.Binary64
