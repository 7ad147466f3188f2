/-!
Sets of characters given by ranges of code points, the form in which Unicode properties are
tabulated. The tables of this folder follow version 17.0 of the standard.
-/

namespace Spreadsheet.Text

/-- Ascending, disjoint ranges of code points, both ends included. -/
abbrev CharRanges := List (Nat × Nat)

/-- The search stops at the first range that starts beyond the code point. -/
def CharRanges.contains : CharRanges → Nat → Bool
  | [], _ => false
  | (first, last) :: rest, n => if n < first then false else n ≤ last || contains rest n

end Spreadsheet.Text
