/-!
Sets of code points, given as ascending closed intervals.
-/
namespace FormulaTrace.Text

/-- Closed intervals of code points, in ascending order. -/
abbrev CodeRanges := List (Nat × Nat)

def CodeRanges.contains (ranges : CodeRanges) (code : Nat) : Bool :=
  ranges.any fun range => range.1 ≤ code && code ≤ range.2

@[simp] theorem CodeRanges.contains_nil (code : Nat) : CodeRanges.contains [] code = false := rfl

theorem CodeRanges.contains_iff (ranges : CodeRanges) (code : Nat) :
    ranges.contains code = true ↔ ∃ range ∈ ranges, range.1 ≤ code ∧ code ≤ range.2 := by
  simp [CodeRanges.contains]

end FormulaTrace.Text
