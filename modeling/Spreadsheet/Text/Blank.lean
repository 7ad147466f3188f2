import Spreadsheet.Text.CharRanges

/-!
Blank characters and trimming. Blank means the Unicode property White_Space, which takes in the
no-break space, the ideographic space and the line and paragraph separators.
-/

namespace Spreadsheet.Text

/-- The characters with the property White_Space. -/
def blankRanges : CharRanges := [
   (0x09, 0x0D), (0x20, 0x20), (0x85, 0x85), (0xA0, 0xA0), (0x1680, 0x1680), (0x2000, 0x200A),
   (0x2028, 0x2029), (0x202F, 0x202F), (0x205F, 0x205F), (0x3000, 0x3000)]

def isBlank (c : Char) : Bool := blankRanges.contains c.toNat

/-- Characters without the blanks at their end. -/
def trimEnd (cs : List Char) : List Char := (cs.reverse.dropWhile isBlank).reverse

/-- Characters without the blanks at either end. -/
def trim (cs : List Char) : List Char := trimEnd (cs.dropWhile isBlank)

end Spreadsheet.Text
