import QueryGateway.Digest.Sha256

/-!
What a run takes from outside: instants and generated ids.

Both are unbounded sequences that are fixed before the run, and `drawn` counts
how much of them is used.  So everything that reads the clock or makes an id is a
function of the supply, and two runs with the same supply are equal.  A supply can be
made of a seed: its ids are those of version 4, 122 bits of a digest of the seed and a
count and six bits that are fixed, and its clock stands still.
-/

namespace QueryGateway

/-- A point in time, in milliseconds since the start of 1970 in UTC. -/
structure Instant where
  millis : Int
deriving DecidableEq, Repr, Inhabited

namespace Instant

/-- A decimal of at least `width` digits. -/
def padded (width n : Nat) : String :=
  let digits := Nat.toDigits 10 n
  String.ofList (List.replicate (width - digits.length) '0' ++ digits)

/-- The year, month and day of a count of days since the start of 1970, in the
Gregorian calendar.  Years are counted from March, in cycles of 400. -/
def civil (days : Int) : Int × Nat × Nat :=
  let shifted := days + 719468
  let cycle := shifted.fdiv 146097
  let day := (shifted.fmod 146097).toNat
  let year := (day - day / 1460 + day / 36524 - day / 146096) / 365
  let dayOfYear := day - (365 * year + year / 4 - year / 100)
  let month := (5 * dayOfYear + 2) / 153
  let dayOfMonth := dayOfYear - (153 * month + 2) / 5 + 1
  let month := if month < 10 then month + 3 else month - 9
  (year + cycle * 400 + (if month ≤ 2 then 1 else 0), month, dayOfMonth)

/-- The instant in the form `2025-01-31T08:00:00.000Z`. -/
def text (t : Instant) : String :=
  let (year, month, day) := civil (t.millis.fdiv 86400000)
  let ms := (t.millis.fmod 86400000).toNat
  s!"{padded 4 year.toNat}-{padded 2 month}-{padded 2 day}T" ++
    s!"{padded 2 (ms / 3600000)}:{padded 2 (ms / 60000 % 60)}:{padded 2 (ms / 1000 % 60)}" ++
    s!".{padded 3 (ms % 1000)}Z"

end Instant

/-- The instants and ids that a run can draw. -/
structure Supply where
  instants : Nat → Instant
  ids : Nat → String
  drawn : Nat

namespace Supply

/-- The current instant. -/
def instant (s : Supply) : Instant × Supply :=
  (s.instants s.drawn, { s with drawn := s.drawn + 1 })

/-- A fresh id. -/
def id (s : Supply) : String × Supply :=
  (s.ids s.drawn, { s with drawn := s.drawn + 1 })

end Supply

/-! ## Supplies from seeds -/

/-- A byte as two hexadecimal digits. -/
def hexPair (b : UInt8) : List Char :=
  [Nat.digitChar (b.toNat / 16), Nat.digitChar (b.toNat % 16)]

/-- The text of an id of version 4, whose other bits are those of 16 bytes. -/
def idText (bytes : List UInt8) : String :=
  let fixed := (bytes.set 6 (bytes.getD 6 0 &&& 0x0f ||| 0x40)).set 8
    (bytes.getD 8 0 &&& 0x3f ||| 0x80)
  let digits := fixed.flatMap hexPair
  let part (start count : Nat) : String := String.ofList ((digits.drop start).take count)
  "-".intercalate [part 0 8, part 8 4, part 12 4, part 16 4, part 20 12]

/-- The supply of an instant and a seed. -/
def Supply.ofSeed (now : Instant) (seed : List UInt8) : Supply :=
  { instants := fun _ => now
    ids := fun n => idText ((Digest.sha256 (seed ++ Digest.Sha256.lengthBytes n)).take 16)
    drawn := 0 }

end QueryGateway
