import Spreadsheet.Text.Blank
import Spreadsheet.Text.Case

/-!
The errors that a cell can hold.

A circular reference is an error of its own while a workbook is recalculated. Everywhere a reader
can see it, it is the error of a wrong operand.
-/

namespace Spreadsheet

inductive CellError
  /-- Two areas have no cell in common. -/
  | null
  | divisionByZero
  /-- An operand has the wrong type. -/
  | value
  /-- A cell or sheet does not exist. -/
  | reference
  /-- A function or a name is not known. -/
  | name
  /-- A number is out of range, or an argument has no result. -/
  | number
  /-- A look-up found nothing. -/
  | notAvailable
  /-- A formula was reached while it was being computed. -/
  | circular
  deriving DecidableEq, Repr, Inhabited

namespace CellError

/-- The errors that readers see, in the order of their codes. -/
def visible : List CellError := [null, divisionByZero, value, reference, name, number, notAvailable]

def text : CellError → String
  | null => "#NULL!"
  | divisionByZero => "#DIV/0!"
  | value | circular => "#VALUE!"
  | reference => "#REF!"
  | name => "#NAME?"
  | number => "#NUM!"
  | notAvailable => "#N/A"

/-- The error that a reader sees. -/
def surfaced : CellError → CellError
  | circular => value
  | e => e

def isInternal : CellError → Bool
  | circular => true
  | _ => false

/-- The code of the error in stored formulas. -/
def code : CellError → UInt8
  | null => 0x00
  | divisionByZero => 0x07
  | value | circular => 0x0F
  | reference => 0x17
  | name => 0x1D
  | number => 0x24
  | notAvailable => 0x2A

def ofCode? (b : UInt8) : Option CellError := visible.find? (·.code == b)

/-- Reads an error from its text in either case, with blanks around. -/
def read? (s : String) : Option CellError :=
  let s := Text.asciiUpper (String.ofList (Text.trim s.toList))
  visible.find? (·.text == s)

/-- What is said about a text that is no error. -/
def unknownMessage (s : String) : String :=
  "unknown error literal `" ++ s ++ "`"

end CellError

end Spreadsheet
