set_option autoImplicit false

/-! # Sets of code points

A class of characters is given by a table of ranges, both ends included.
-/

namespace KotlinMeta.Text

/-- The code point lies in one of the ranges. -/
def inRanges (ranges : List (Nat × Nat)) (n : Nat) : Bool :=
  ranges.any fun r => r.1 ≤ n && n ≤ r.2

/-- The code point is the first, the third, the fifth … of one of the ranges. -/
def inAlternations (ranges : List (Nat × Nat)) (n : Nat) : Bool :=
  ranges.any fun r => r.1 ≤ n && n ≤ r.2 && (n - r.1) % 2 == 0

theorem inRanges_iff {ranges : List (Nat × Nat)} {n : Nat} :
    inRanges ranges n = true ↔ ∃ r ∈ ranges, r.1 ≤ n ∧ n ≤ r.2 := by
  simp [inRanges]

end KotlinMeta.Text
