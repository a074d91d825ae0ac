/-!
# Sets of code points as ranges

A character class from the Unicode Character Database is a set of code points, written as
inclusive ranges in increasing order. `CodeRanges.contains` is membership in their union.
-/

namespace Columnar.Text

/-- A set of code points, as inclusive ranges `(first, last)` in increasing order. -/
abbrev CodeRanges := Array (Nat × Nat)

/-- Whether a code point lies in one of the ranges. -/
def CodeRanges.contains (rs : CodeRanges) (n : Nat) : Bool :=
  rs.any fun r => r.1 ≤ n && n ≤ r.2

end Columnar.Text
