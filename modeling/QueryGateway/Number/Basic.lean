import QueryGateway.Number.Shortest

/-!
JSON numbers: integers kept exactly, and binary64 numbers for everything else.

An integer and a binary64 number are never equal, even when they have the same
value.  Order, on the other hand, compares values as binary64 numbers, so two
large integers can be ordered as equal without being equal.
-/

namespace QueryGateway

/-- A JSON number.  A reader produces integers only between `-2 ^ 63` and `2 ^ 64 - 1`. -/
inductive Number where
  | int (value : Int)
  | float (value : Binary64)
deriving DecidableEq, Repr, Inhabited

namespace Number

/-- Whether an integer fits in a signed 64-bit word. -/
def fitsSigned (n : Int) : Bool := -(Int.pow 2 63) ≤ n && n < Int.pow 2 63

/-- Whether an integer fits in an unsigned 64-bit word. -/
def fitsUnsigned (n : Int) : Bool := 0 ≤ n && n < Int.pow 2 64

/-- Whether an integer is one that a JSON text can hold exactly. -/
def fits (n : Int) : Bool := fitsSigned n || fitsUnsigned n

/-- The value as a signed 64-bit integer. -/
def signed? : Number → Option Int
  | .int n => if fitsSigned n then some n else none
  | .float _ => none

/-- The value as an unsigned 64-bit integer. -/
def unsigned? : Number → Option Nat
  | .int n => if fitsUnsigned n then some n.toNat else none
  | .float _ => none

/-- The nearest binary64 number. -/
def toBinary64 : Number → Binary64
  | .int n => .ofInt n
  | .float x => x

/-- Equality of numbers of the same kind; the two zeros of binary64 are equal. -/
def same : Number → Number → Bool
  | .int a, .int b => a == b
  | .float a, .float b => a.toInt == b.toInt
  | _, _ => false

/-- Order by nearest binary64 number. -/
def order (a b : Number) : Ordering := a.toBinary64.order b.toBinary64

/-- Whether the number is other than zero. -/
def nonzero (a : Number) : Bool := a.toBinary64.units != 0

end Number
end QueryGateway
