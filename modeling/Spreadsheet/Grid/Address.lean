import Spreadsheet.Grid.Cell
import Spreadsheet.Grid.Column
import Spreadsheet.Number.Reading
import Spreadsheet.Text.Blank

/-!
Addresses as formulas write them: a cell with a mark on each coordinate that says whether it moves
when the formula is copied. The text form, such as `B$7`, has a dollar sign before each coordinate
that stays.

Reading accepts exactly an optional dollar sign, letters, an optional dollar sign and digits, with
blanks around.
-/

namespace Spreadsheet

/-- A cell with its relative and absolute coordinates told apart. -/
structure Address where
  row : Nat
  col : Nat
  rowRelative : Bool
  colRelative : Bool
  deriving DecidableEq, Repr, Inhabited

namespace Address

def absolute (c : Cell) : Address := ⟨c.row, c.col, false, false⟩

def relative (c : Cell) : Address := ⟨c.row, c.col, true, true⟩

def cell (a : Address) : Cell := ⟨a.row, a.col⟩

/-- The same marks on another cell. -/
def withCell (a : Address) (c : Cell) : Address := { a with row := c.row, col := c.col }

def colText (a : Address) : List Char :=
  (if a.colRelative then [] else ['$']) ++ columnName a.col

def rowText (a : Address) : List Char :=
  (if a.rowRelative then [] else ['$']) ++ Nat.toDigits 10 (a.row + 1)

def text (a : Address) : List Char := a.colText ++ a.rowText

end Address

/-- The text of a bare cell. -/
def Cell.text (c : Cell) : List Char := (Address.relative c).text

/-- The text of a range: one cell, or its two corners around a colon. -/
def CellRange.text (r : CellRange) : List Char :=
  if r.isSingle then r.start.text else r.start.text ++ ':' :: r.stop.text

/-- Why a text is no address. -/
inductive AddressFault
  | empty
  | missingColumn
  | missingRow
  | invalidColumn
  | invalidRow
  | trailingCharacters
  deriving DecidableEq, Repr

def AddressFault.message : AddressFault → String
  | empty => "empty A1 reference"
  | missingColumn => "missing column in A1 reference"
  | missingRow => "missing row in A1 reference"
  | invalidColumn => "invalid column in A1 reference"
  | invalidRow => "invalid row in A1 reference"
  | trailingCharacters => "trailing characters in A1 reference"

/-- Whether a coordinate is relative, that is, has no dollar sign, and what follows the sign. -/
def splitDollar : List Char → Bool × List Char
  | '$' :: rest => (false, rest)
  | rest => (true, rest)

/-- Reads an address on a grid of the given size. The shape is judged before the numbers, and the
column before the row. -/
def Address.read (s : List Char) (limits : Limits) : Except AddressFault Address := do
  let s := Text.trim s
  if s.isEmpty then throw .empty
  let (colRelative, s) := splitDollar s
  let letters := s.takeWhile Char.isAlpha
  if letters.isEmpty then throw .missingColumn
  let (rowRelative, s) := splitDollar (s.dropWhile Char.isAlpha)
  let digits := s.takeWhile Char.isDigit
  if digits.isEmpty then throw .missingRow
  if !(s.dropWhile Char.isDigit).isEmpty then throw .trailingCharacters
  let some col := columnOfName? letters | throw .invalidColumn
  if limits.maxCols ≤ col then throw .invalidColumn
  let row := Number.ofDigits digits
  if row = 0 ∨ limits.maxRows < row then throw .invalidRow
  return ⟨row - 1, col, rowRelative, colRelative⟩

/-- Reads the address of a cell on the BIFF8 grid, whatever its marks. -/
def Cell.read (s : List Char) : Except AddressFault Cell :=
  (Address.read s {}).map Address.cell

/-- Why a text is no range. -/
inductive RangeFault
  | empty
  | cell (fault : AddressFault)
  deriving DecidableEq, Repr

def RangeFault.message : RangeFault → String
  | empty => "empty A1 range"
  | cell fault => "invalid cell reference in range: " ++ fault.message

/-- Reads a cell, or two opposite corners around the first colon. -/
def CellRange.read (s : List Char) : Except RangeFault CellRange :=
  let s := Text.trim s
  if s.isEmpty then .error .empty
  else match s.dropWhile (· ≠ ':') with
    | [] => ((Cell.read s).map CellRange.single).mapError .cell
    | _ :: second => (do
        let a ← Cell.read (s.takeWhile (· ≠ ':'))
        let b ← Cell.read second
        return CellRange.ofCorners a b : Except AddressFault CellRange).mapError .cell

/-- Two opposite corners of an area, in the order in which the formula stores them. -/
structure AreaAddress where
  first : Address
  last : Address
  deriving DecidableEq, Repr, Inhabited

namespace AreaAddress

def range (a : AreaAddress) : CellRange := .ofCorners a.first.cell a.last.cell

/-- The area takes in every row of the sheet. -/
def isWholeColumn (a : AreaAddress) (limits : Limits) : Bool := a.range.hasAllRows limits

/-- The area takes in every column of the sheet. -/
def isWholeRow (a : AreaAddress) (limits : Limits) : Bool := a.range.hasAllCols limits

def isWhole (a : AreaAddress) (limits : Limits) : Bool :=
  a.isWholeColumn limits || a.isWholeRow limits

/-- The text of an area. Whole columns show only their letters and whole rows only their numbers;
the whole sheet shows both. -/
def text (a : AreaAddress) (limits : Limits) : List Char :=
  match a.isWholeColumn limits, a.isWholeRow limits with
  | true, false => a.first.colText ++ ':' :: a.last.colText
  | false, true => a.first.rowText ++ ':' :: a.last.rowText
  | _, _ => a.first.text ++ ':' :: a.last.text

end AreaAddress

end Spreadsheet
