import QueryGateway.Text.Hex
import QueryGateway.Text.Split

/-!
Sets of characters, as ranges of code points.

A table is written as lines of entries with blanks between them.  An entry has code
points in hexadecimal, with hyphens between them: `300-36f` is a range with its first and
its last character, and `ad` is a single one.
-/

namespace QueryGateway.Text

/-- The code points of every entry of a table. -/
def tableEntries (lines : List String) : List (List Nat) :=
  lines.flatMap fun line => (split ' ' line.toList).map fun entry => (split '-' entry).map hexValue

/-- Ranges of code points, with the first and the last of each. -/
abbrev Ranges := List (Nat × Nat)

namespace Ranges

/-- The ranges of a table. -/
def ofLines (lines : List String) : Ranges :=
  (tableEntries lines).filterMap fun
    | [first, last] => some (first, last)
    | [single] => some (single, single)
    | _ => none

/-- Whether a character lies in one of the ranges. -/
def contains (c : Char) (ranges : Ranges) : Bool :=
  ranges.any fun (first, last) => first ≤ c.toNat && c.toNat ≤ last

end Ranges
end QueryGateway.Text
