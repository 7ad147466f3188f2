import Spreadsheet.Grid.Column
import Spreadsheet.Text.Alphanumeric
import Spreadsheet.Text.Quoted

/-!
Sheet names in front of references.

A name is quoted unless it consists of letters, digits, underscores and points, starts with
neither a digit nor a point, and could not be taken for a cell in either style of writing cells.
A span of sheets is quoted as a whole.
-/

namespace Spreadsheet.SheetName

/-- The quote around sheet names. -/
def apostrophe : Char := Char.ofNat 0x27

/-- One to three letters up to column `XFD` and then digits. -/
def looksLikeA1 (name : List Char) : Bool :=
  let letters := name.takeWhile Char.isAlpha
  let digits := name.dropWhile Char.isAlpha
  !letters.isEmpty && letters.length ≤ 3 && !digits.isEmpty && digits.all Char.isDigit &&
    (columnOfName? letters).any (· < 16384)

/-- The letter of a row, the letter of a column, or a row letter with its number and possibly a
column letter with its number. -/
def looksLikeR1C1 (name : List Char) : Bool :=
  match name.map Char.toUpper with
  | ['C'] => true
  | 'R' :: rest =>
    match rest.dropWhile Char.isDigit with
    | 'C' :: col => col.all Char.isDigit
    | left => left.isEmpty
  | _ => false

def isPlainChar (c : Char) : Bool := Text.isAlphanumeric c || c = '_' || c = '.'

def needsQuotes (name : List Char) : Bool :=
  match name with
  | [] => true
  | c :: _ =>
    c.isDigit || c = '.' || !name.all isPlainChar || looksLikeA1 name || looksLikeR1C1 name

/-- A name as it stands in front of a reference. -/
def written (name : List Char) : List Char :=
  if needsQuotes name then Text.quoted apostrophe name else name

/-- A span of sheets as it stands in front of a reference. -/
def writtenSpan (first last : List Char) : List Char :=
  if first = last then written first
  else
    let span := first ++ ':' :: last
    if needsQuotes first || needsQuotes last then Text.quoted apostrophe span else span

end Spreadsheet.SheetName
