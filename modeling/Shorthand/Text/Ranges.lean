import Shorthand.Text.Basic

/-!
# Ranges of code points

Character classes too large to list by character are held as closed intervals of code
points; membership looks the character's code point up among them.
-/

namespace Shorthand.Text

/-- Closed intervals of code points, each as its first and last point. -/
abbrev Ranges := List (Nat × Nat)

/-- Whether one of the intervals holds the character. -/
def Ranges.contains (ranges : Ranges) (c : Char) : Bool :=
  ranges.any fun range ↦ range.1 ≤ c.toNat && c.toNat ≤ range.2

/-- Membership means that some interval encloses the code point. -/
theorem Ranges.contains_iff {ranges : Ranges} {c : Char} :
    ranges.contains c = true ↔ ∃ range ∈ ranges, range.1 ≤ c.toNat ∧ c.toNat ≤ range.2 := by
  simp [Ranges.contains]

end Shorthand.Text
