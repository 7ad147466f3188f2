import Spreadsheet.Text.Units16

/-!
Texts inside stored formulas. A text is stored with one byte a character, which reaches up to
`U+00FF`, or with 16-bit units. Which of the two it was is part of the token.
-/

namespace Spreadsheet

structure StoredText where
  text : String
  /-- Stored as 16-bit units. -/
  wide : Bool
  deriving DecidableEq, Repr, Inhabited

namespace StoredText

/-- One byte a character where that is possible. -/
def ofString (s : String) : StoredText := ⟨s, s.toList.any (0xFF < ·.toNat)⟩

/-- The length that is stored in front: units or characters. -/
def storedLength (s : StoredText) : Nat :=
  if s.wide then (Text.units16 s.text.toList).length else s.text.toList.length

end StoredText

end Spreadsheet
