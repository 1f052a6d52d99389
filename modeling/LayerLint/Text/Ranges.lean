/-!
# `Text.Ranges` — classes of characters as ranges

## Contents
- **Membership.** `inRanges`, with its laws on the empty and on joined lists.
-/

namespace LayerLint.Text

/-! ## Membership -/

/-- Membership in a list of closed ranges. -/
def inRanges (ranges : List (Nat × Nat)) (n : Nat) : Bool :=
  ranges.any fun r => r.1 ≤ n && n ≤ r.2

@[simp] theorem inRanges_nil (n : Nat) : inRanges [] n = false := rfl

@[simp] theorem inRanges_append (a b : List (Nat × Nat)) (n : Nat) :
    inRanges (a ++ b) n = (inRanges a n || inRanges b n) := by
  simp [inRanges]

end LayerLint.Text
