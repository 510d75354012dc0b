/-!
# Sets of characters as ranges

A set of characters given as ascending ranges of code points, first and last included: how the
tables of this library are written down. Main statement: `inRanges_eq_true_iff`, membership in a
list of ranges is membership in one of them.
-/

namespace EventFilter.Text

/-- Whether `n` lies in one of the ranges. -/
def inRanges : List (Nat × Nat) → Nat → Bool
  | [], _ => false
  | (first, last) :: ranges, n => (first ≤ n && n ≤ last) || inRanges ranges n

/-- **Membership**: `n` lies in one of the ranges. -/
theorem inRanges_eq_true_iff {ranges : List (Nat × Nat)} {n : Nat} :
    inRanges ranges n = true ↔ ∃ r ∈ ranges, r.1 ≤ n ∧ n ≤ r.2 := by
  induction ranges with
  | nil => simp [inRanges]
  | cons r ranges ih => simp [inRanges, ih]

end EventFilter.Text
