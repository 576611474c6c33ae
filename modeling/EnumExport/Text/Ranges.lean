/-!
# Tables of code points

A Unicode property is kept as a list of closed ranges in ascending order; a code point has the
property when some range holds it.
-/

namespace EnumExport.Text

/-- Whether some closed range holds the code point. -/
def inRanges (ranges : List (Nat × Nat)) (n : Nat) : Bool :=
  ranges.any fun r => decide (r.1 ≤ n) && decide (n ≤ r.2)

theorem inRanges_iff {ranges : List (Nat × Nat)} {n : Nat} :
    inRanges ranges n = true ↔ ∃ r ∈ ranges, r.1 ≤ n ∧ n ≤ r.2 := by
  simp [inRanges]

end EnumExport.Text
