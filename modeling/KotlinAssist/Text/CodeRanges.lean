/-!
# Character sets

The Unicode properties used by the library are tables of closed ranges of code points.  Membership
is a linear search: the long tables are consulted only for characters outside ASCII, and `has_iff`
says what the search decides.
-/

namespace KotlinAssist.Text

/-- A set of characters, given by closed ranges of code points in increasing order. -/
abbrev CodeRanges := List (Nat × Nat)

namespace CodeRanges

/-- Whether a code point lies in one of the ranges. -/
def has (ranges : CodeRanges) (code : Nat) : Bool :=
  ranges.any fun range => range.1 ≤ code && code ≤ range.2

theorem has_iff (ranges : CodeRanges) (code : Nat) :
    ranges.has code = true ↔ ∃ range ∈ ranges, range.1 ≤ code ∧ code ≤ range.2 := by
  simp [has]

end CodeRanges

end KotlinAssist.Text
