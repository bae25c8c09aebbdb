/-!
# Sets of characters

A Unicode property is a set of code points.  It is given as a list of ranges in
ascending order, so that a search can stop at the first range beyond the code
point it looks for.
-/

namespace PageLayout

/-- A set of code points, as ranges in ascending order with both ends
included. -/
abbrev CodeRanges := List (Nat × Nat)

namespace CodeRanges

/-- Whether a code point lies in one of the ranges. -/
def holds (n : Nat) : CodeRanges → Bool
  | [] => false
  | (low, high) :: rest => if n < low then false else n ≤ high || holds n rest

end CodeRanges

end PageLayout
