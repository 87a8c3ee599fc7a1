/-!
# Ranges of characters

A set of characters as ranges of code points.  The search ends at the first range behind a code
point, so the ranges of a set ascend (`CharRanges.ascends`).
-/

namespace Rewind

/-- Ranges of code points with both their ends. -/
abbrev CharRanges : Type := List (Nat × Nat)

namespace CharRanges

/-- Whether a code point is in one of the ranges, which ascend. -/
def has : CharRanges → Nat → Bool
  | [], _ => false
  | (first, last) :: rest, n => first ≤ n && (n ≤ last || has rest n)

/-- Whether no range starts in front of the one before it. -/
def ascends : CharRanges → Bool
  | p :: q :: rest => p.1 ≤ q.1 && ascends (q :: rest)
  | _ => true

end CharRanges

end Rewind
