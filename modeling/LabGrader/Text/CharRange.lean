/-!
# Ranges of code points

A class of characters is a list of ascending ranges.
-/

namespace LabGrader.Text

/-- The code points from the first to the second, both included. -/
abbrev CharRange := Nat × Nat

/-- Whether one of the ranges has `c`. They ascend, so the first that does not end before `c`
decides. -/
def CharRange.anyHas : List CharRange → Char → Bool
  | [], _ => false
  | (first, last) :: rest, c =>
    if last < c.toNat then CharRange.anyHas rest c else first ≤ c.toNat

end LabGrader.Text
