import QueryGateway.Number.Binary64

/-!
The fewest decimal digits that read back as a given binary64 number.

The reals that round to a number form an interval around it, ends included when
its last bit is zero.  For one digit, two digits and so on, the two neighbours of
the number on that decimal grid are tested; the first grid with a hit wins, and
of two hits the nearer, an exact tie going to the even digit.
-/

namespace QueryGateway.Binary64

/-- A positive decimal number: `digits * 10 ^ exponent`. -/
structure Scientific where
  digits : Nat
  exponent : Int
deriving DecidableEq, Repr

/-- Whether `num / den` units round to `units`.  The interval reaches half a
spacing on each side, a quarter below a power of two. -/
def roundsTo (units num den : Nat) : Bool :=
  let above := spacing units
  let below := spacing (units - 1)
  let even := units / above % 2 == 0
  -- Four times the distances keep every bound whole.
  let low := 4 * units - 2 * below
  let high := 4 * units + 2 * above
  if even then low * den ≤ 4 * num && 4 * num ≤ high * den
  else low * den < 4 * num && 4 * num < high * den

/-- The exponent of the leading decimal digit of a positive magnitude. -/
def leadingExponent (units : Nat) : Int :=
  let atLeast (e : Int) : Bool :=
    if e < 0 then one ≤ units * Nat.pow 10 e.natAbs else Nat.pow 10 e.natAbs * one ≤ units
  let guess := ((units.log2 : Int) - 1074) * 30103 / 100000
  if atLeast (guess + 1) then guess + 1 else if atLeast guess then guess else guess - 1

/-- The point of the grid of multiples of `10 ^ exponent` that rounds to `units`,
if there is one: the nearer of the two neighbours, and of two equally near the
even one. -/
def onGrid (units : Nat) (exponent : Int) : Option Nat :=
  -- In units, a grid step is `up / down`.
  let up := if exponent < 0 then one else one * Nat.pow 10 exponent.natAbs
  let down := if exponent < 0 then Nat.pow 10 exponent.natAbs else 1
  let floor := units * down / up
  let remainder := units * down % up
  let hit (d : Nat) : Bool := roundsTo units (d * up) down
  let nearer := if 2 * remainder < up ∨ 2 * remainder = up ∧ floor % 2 = 0
    then floor else floor + 1
  let farther := if nearer = floor then floor + 1 else floor
  if hit nearer then some nearer else if hit farther then some farther else none

/-- Tries grids with `count`, `count + 1`, … digits, `remaining` of them. -/
def shortestFrom (units : Nat) (leading : Int) : Nat → Nat → Scientific
  | _, 0 => { digits := units, exponent := 0 }
  | count, remaining + 1 =>
    let exponent := leading - count + 1
    match onGrid units exponent with
    | some digits => { digits, exponent }
    | none => shortestFrom units leading (count + 1) remaining

/-- The shortest decimal that reads back as a positive magnitude; seventeen
digits always suffice. -/
def shortest (units : Nat) : Scientific := shortestFrom units (leadingExponent units) 1 17

end QueryGateway.Binary64
