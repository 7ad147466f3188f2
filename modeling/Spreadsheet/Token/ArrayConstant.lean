import Spreadsheet.CellError
import Spreadsheet.Number.Text
import Spreadsheet.Text.Quoted
import Spreadsheet.Token.StoredText

/-!
Array constants, such as `{1,2;"a",TRUE}`: rows of elements that are written into the
formula. Elements keep the bytes of their stored form that mean nothing, so that they can be
stored again as they were.
-/

namespace Spreadsheet

inductive ArrayElement
  | empty (reserved : Vector UInt8 8)
  | number (bits : UInt64)
  | text (s : StoredText)
  /-- Any byte but zero is true. -/
  | bool (raw : UInt8) (reserved : Vector UInt8 7)
  | error (e : CellError) (reserved : Vector UInt8 7)
  deriving DecidableEq, Repr, Inhabited

namespace ArrayElement

def blank : ArrayElement := .empty (.replicate 8 0)

def ofBool (b : Bool) : ArrayElement := .bool (if b then 1 else 0) (.replicate 7 0)

def ofError (e : CellError) : ArrayElement := .error e (.replicate 7 0)

/-- The element as formulas write it. -/
def render : ArrayElement → List Char
  | empty _ => []
  | number bits => (Number.text (Float.ofBits bits)).toList
  | text s => Text.quoted '"' s.text.toList
  | bool raw _ => if raw = 0 then "FALSE".toList else "TRUE".toList
  | error e _ => e.text.toList

end ArrayElement

/-- A rectangle of elements, row by row. -/
structure ArrayConstant where
  rows : Nat
  cols : Nat
  values : List ArrayElement
  deriving DecidableEq, Repr, Inhabited

namespace ArrayConstant

/-- The values fill the rectangle, and there are some. -/
def WellShaped (a : ArrayConstant) : Prop :=
  0 < a.rows ∧ 0 < a.cols ∧ a.values.length = a.rows * a.cols

instance (a : ArrayConstant) : Decidable a.WellShaped := inferInstanceAs (Decidable (_ ∧ _))

def ofValues? (rows cols : Nat) (values : List ArrayElement) : Option ArrayConstant :=
  let a : ArrayConstant := ⟨rows, cols, values⟩
  if a.WellShaped then some a else none

def get? (a : ArrayConstant) (row col : Nat) : Option ArrayElement :=
  if row < a.rows ∧ col < a.cols then a.values[row * a.cols + col]? else none

/-- The elements of one row between commas. -/
def rowText (a : ArrayConstant) (row : Nat) : List Char :=
  [','].intercalate ((List.range a.cols).map fun col =>
    ((a.get? row col).map ArrayElement.render).getD [])

/-- The rows between semicolons, in braces. -/
def text (a : ArrayConstant) : List Char :=
  Char.ofNat 0x7B :: ([';'].intercalate ((List.range a.rows).map a.rowText) ++ [Char.ofNat 0x7D])

end ArrayConstant

end Spreadsheet
