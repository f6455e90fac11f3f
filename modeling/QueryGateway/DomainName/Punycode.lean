/-!
The encoding of labels in ASCII.

An encoded label has its ASCII characters first, up to the last hyphen.  Then come numbers
that say which characters are inserted where: each is a distance in the order of
characters first and places second, from one insertion to the next.  The numbers have
digits of a varying base, least digit first, and every digit but the last is as large as a
threshold that goes along with the sizes of the numbers before.
-/

namespace QueryGateway.DomainName.Punycode

/-- The value of a digit: letters, in either case, come before numerals. -/
def digit? (c : Char) : Option Nat :=
  if 'a' ≤ c ∧ c ≤ 'z' then some (c.toNat - 'a'.toNat)
  else if 'A' ≤ c ∧ c ≤ 'Z' then some (c.toNat - 'A'.toNat)
  else if '0' ≤ c ∧ c ≤ '9' then some (c.toNat - '0'.toNat + 26)
  else none

/-- The threshold of the digit at a position, which is counted in steps of 36. -/
def threshold (position bias : Nat) : Nat := max 1 (min 26 (position - bias))

/-- Divides a distance by 35 until it is small, and counts the steps by 36. -/
def shrink (distance count : Nat) : Nat × Nat :=
  if 455 < distance then shrink (distance / 35) (count + 36) else (distance, count)
termination_by distance
decreasing_by exact Nat.div_lt_self (by omega) (by omega)

/-- The bias after a number.  `length` is that of the label with the new character. -/
def adapted (distance length : Nat) (isFirst : Bool) : Nat :=
  let damped := if isFirst then distance / 700 else distance / 2
  let (distance, count) := shrink (damped + damped / length) 0
  count + 36 * distance / (distance + 38)

/-- Takes a number. -/
def takeNumber? (bias : Nat) : (position weight value : Nat) → List Char →
    Option (Nat × List Char)
  | _, _, _, [] => none
  | position, weight, value, c :: rest => do
    let digit ← digit? c
    let value := value + digit * weight
    let t := threshold position bias
    if digit < t then some (value, rest)
    else takeNumber? bias (position + 36) (weight * (36 - t)) value rest

theorem length_lt_of_takeNumber? {bias position weight value : Nat} {s : List Char}
    {r : Nat × List Char} (h : takeNumber? bias position weight value s = some r) :
    r.2.length < s.length := by
  induction s generalizing position weight value with
  | nil => simp [takeNumber?] at h
  | cons c rest ih =>
    simp only [takeNumber?, Option.bind_eq_bind, Option.bind_eq_some_iff] at h
    obtain ⟨digit, -, h⟩ := h
    split at h
    · cases h
      simp
    · have := ih h
      simp only [List.length_cons]
      omega

/-- Makes the insertions that numbers stand for.  `code` and `place` are where the last
one was made. -/
def insert? (code place bias : Nat) (label : List Char) (s : List Char) : Option (List Char) :=
  if s.isEmpty then some label
  else
    match h : takeNumber? bias 36 1 0 s with
    | none => none
    | some (distance, rest) =>
      have := length_lt_of_takeNumber? h
      let length := label.length + 1
      let code' := code + (place + distance) / length
      let place' := (place + distance) % length
      if code'.isValidChar then
        insert? code' (place' + 1) (adapted distance length (place = 0))
          (label.take place' ++ Char.ofNat code' :: label.drop place') rest
      else none
termination_by s.length

/-- The label that an encoded one stands for. -/
def decode? (s : List Char) : Option (List Char) :=
  if s.any fun c => 0x80 ≤ c.toNat then none
  else
    match s.reverse.dropWhile (· != '-') with
    | [] => insert? 0x80 0 72 [] s
    | _ :: before =>
      if before.isEmpty then none
      else insert? 0x80 0 72 before.reverse (s.drop (before.length + 1))

end QueryGateway.DomainName.Punycode
