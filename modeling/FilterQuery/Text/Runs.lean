namespace FilterQuery.Text

/-!
# Sets of characters as runs

A set of code points is given by its boundaries in increasing order: the first boundary
begins a run, the second ends it (and is outside), the third begins the next, and so on.
-/

/-- Whether a code point lies in a run between boundaries. -/
def inRuns (n : Nat) : List Nat → Bool
  | [] => false
  | b :: bs => if n < b then false else !inRuns n bs

end FilterQuery.Text
