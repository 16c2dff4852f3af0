/-! Sets of code points written as runs. -/

namespace AppletPage.Text

abbrev Range := Nat × Nat

def inRanges (ranges : List Range) (code : Nat) : Bool :=
  ranges.any fun range => range.1 ≤ code && code ≤ range.2

@[simp] theorem inRanges_nil (code : Nat) : inRanges [] code = false := rfl

theorem inRanges_iff {ranges : List Range} {code : Nat} :
    inRanges ranges code = true ↔ ∃ range ∈ ranges, range.1 ≤ code ∧ code ≤ range.2 := by
  simp [inRanges]

end AppletPage.Text
