/-! # Sets of code points given by ranges

Character properties outside ASCII are stored as sorted lists of closed ranges. A property is then
one membership test, `CodeRanges.contains`, and a table is data that no other definition looks
into.
-/

namespace TableSchema.Text

/-- A set of code points, each pair holding the first and the last code point of one range. -/
abbrev CodeRanges : Type := List (Nat × Nat)

namespace CodeRanges

/-- Whether a character lies in one of the ranges. -/
def contains (ranges : CodeRanges) (c : Char) : Bool :=
  ranges.any fun range => range.1 ≤ c.toNat && c.toNat ≤ range.2

/-- Membership is membership in some listed range. -/
theorem contains_iff (ranges : CodeRanges) (c : Char) :
    ranges.contains c = true ↔ ∃ range ∈ ranges, range.1 ≤ c.toNat ∧ c.toNat ≤ range.2 := by
  simp [contains, List.any_eq_true]

end CodeRanges

end TableSchema.Text
