/-!
# Ranges of code points

A property of characters that a standard fixes as data is kept as a list of closed ranges, so
that the table can be read beside the standard and membership stays a plain comparison.
-/

namespace LexisFront.Text

/-- A closed range of code points. -/
structure CodeRange where
  /-- First code point of the range. -/
  first : Nat
  /-- Last code point of the range. -/
  last : Nat

namespace CodeRange

/-- Whether a character lies in the range. -/
def contains (range : CodeRange) (c : Char) : Bool :=
  range.first ≤ c.toNat && c.toNat ≤ range.last

/-- Whether a character lies in one of the ranges. -/
def anyContains (ranges : List CodeRange) (c : Char) : Bool :=
  ranges.any (·.contains c)

end CodeRange

end LexisFront.Text
