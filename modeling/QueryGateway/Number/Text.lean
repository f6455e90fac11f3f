import QueryGateway.Number.Basic

/-!
The text of numbers in JSON.

Integers are written in full.  A binary64 number is written with its shortest
digits: positionally from `1e-5` up to `1e16`, always with a fraction, and in
exponent form with an explicit sign outside that range.
-/

namespace QueryGateway

/-- Where positional notation begins and ends, by the exponent of the leading digit. -/
structure NumberFormat where
  leastPositional : Int
  firstExponential : Int

namespace NumberFormat

/-- Numbers in JSON text are positional from `0.00001` to below `10000000000000000.0`. -/
def json : NumberFormat := { leastPositional := -5, firstExponential := 16 }

/-- `digits` with a point after the first `whole` of them, and a `0` on an empty side. -/
def point (digits : List Char) (whole : Nat) : List Char :=
  let front := digits.take whole
  let back := digits.drop whole
  (if front.isEmpty then ['0'] else front) ++ ['.'] ++ (if back.isEmpty then ['0'] else back)

/-- Positional notation of digits whose leading one stands for `10 ^ leading`. -/
def positional (digits : List Char) (leading : Int) : List Char :=
  if leading < 0 then point (List.replicate (leading.natAbs - 1) '0' ++ digits) 0
  else
    point (digits ++ List.replicate (leading.natAbs + 1 - digits.length) '0') (leading.natAbs + 1)

/-- Exponent notation with one digit before the point. -/
def exponential (digits : List Char) (leading : Int) : List Char :=
  let mantissa := match digits with
    | first :: second :: rest => first :: '.' :: second :: rest
    | digits => digits
  let sign := if leading < 0 then '-' else '+'
  mantissa ++ ['e', sign] ++ Nat.toDigits 10 leading.natAbs

/-- Drops zeros at the end. -/
def trimZeros (digits : List Char) : List Char := (digits.reverse.dropWhile (· == '0')).reverse

/-- The text of a magnitude. -/
def magnitude (format : NumberFormat) (units : Nat) : List Char :=
  if units = 0 then ['0', '.', '0']
  else
    let decimal := Binary64.shortest units
    let digits := Nat.toDigits 10 decimal.digits
    let leading := decimal.exponent + digits.length - 1
    let digits := trimZeros digits
    if format.leastPositional ≤ leading ∧ leading < format.firstExponential then
      positional digits leading
    else exponential digits leading

end NumberFormat

namespace Binary64

/-- The text of a binary64 number in JSON. -/
def text (x : Binary64) : String :=
  String.ofList ((if x.negative then ['-'] else []) ++ NumberFormat.json.magnitude x.units)

end Binary64

namespace Number

/-- The text of a number in JSON. -/
def text : Number → String
  | .int n => toString n
  | .float x => x.text

end Number
end QueryGateway
