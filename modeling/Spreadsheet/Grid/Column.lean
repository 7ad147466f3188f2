/-!
Column letters: `A` to `Z`, then `AA`, `AB` and so on, a base-26 numeral without a digit for zero.
-/

namespace Spreadsheet

/-- The numeral of a positive number, in front of `tail`. -/
def lettersOnto (n : Nat) (tail : List Char) : List Char :=
  if n = 0 then tail
  else lettersOnto ((n - 1) / 26) (Char.ofNat (65 + (n - 1) % 26) :: tail)
termination_by n
decreasing_by omega

/-- The letters of a column that is counted from zero. -/
def columnName (col : Nat) : List Char := lettersOnto (col + 1) []

/-- The number that letters of either case spell, counted from one. -/
def letterValue (cs : List Char) : Nat :=
  cs.foldl (fun n c => 26 * n + (c.toUpper.toNat - 64)) 0

/-- The column that ASCII letters name. Numerals beyond 32 bits name none. -/
def columnOfName? (cs : List Char) : Option Nat :=
  if cs.isEmpty || !cs.all Char.isAlpha then none
  else if letterValue cs < UInt32.size then some (letterValue cs - 1)
  else none

end Spreadsheet
