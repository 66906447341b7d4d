/-!
# Tables of code point ranges

A property of characters is given by the ranges of code points that have it, both ends
included, in increasing order. Membership stops at the first range that begins above the
code point.
-/

namespace ParserCombinators.Unicode

/-- Code point ranges with both ends included. -/
abbrev Ranges := List (Nat × Nat)

/-- Whether the code point lies in one of the ranges of an increasing table. -/
def inRanges : Ranges → Nat → Bool
  | [], _ => false
  | (low, high) :: rest, n => if n < low then false else n ≤ high || inRanges rest n

end ParserCombinators.Unicode
