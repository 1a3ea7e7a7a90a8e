/-!
# Ranges of characters

Membership of a number in one of some ranges of numbers. Properties of characters are given as such
ranges.
-/

namespace IssueTracker.Text

/-- Whether a number lies in one of some ranges, ends included. -/
def within (ranges : List (Nat × Nat)) (n : Nat) : Bool :=
  ranges.any fun (low, high) => low ≤ n && n ≤ high

end IssueTracker.Text
