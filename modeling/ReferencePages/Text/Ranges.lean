/-
**Ranges of code points.**

A property of characters is given by the ranges of code points that have it, in increasing order.
-/

namespace ReferencePages.Text

/-- A list of inclusive ranges of code points. -/
abbrev Ranges := List (Nat × Nat)

/-- The code point lies in one of the ranges. -/
def Ranges.holds (ranges : Ranges) (n : Nat) : Bool :=
  ranges.any fun (first, last) => first ≤ n && n ≤ last

end ReferencePages.Text
