import Spreadsheet.Number.Text
import Spreadsheet.Token.ArrayConstant

/-!
Values that formulas compute.

A value is a scalar or a rectangle of values. The elements of a rectangle are scalars in everything
that the engine builds, but the type does not ask for it, and a reader of one value finds it by
going down the first elements.
-/

namespace Spreadsheet

inductive Scalar
  | number (x : Float)
  | text (s : String)
  | bool (b : Bool)
  | error (e : CellError)
  | blank
  deriving Inhabited

inductive Value
  | scalar (s : Scalar)
  /-- Values row by row. -/
  | array (rows cols : Nat) (values : List Value)
  deriving Inhabited

instance : Coe Scalar Value := ⟨Value.scalar⟩

/-- The error as readers of a cell see it; other scalars are seen as they are. -/
def Scalar.surfaced : Scalar → Scalar
  | error e => error e.surfaced
  | s => s

def Scalar.isError : Scalar → Bool
  | error _ => true
  | _ => false

/-- The scalar as a cell shows it. -/
def Scalar.display : Scalar → String
  | number x => Number.text x
  | text s => s
  | bool true => "TRUE"
  | bool false => "FALSE"
  | error e => e.text
  | blank => ""

namespace Value

@[match_pattern] abbrev number (x : Float) : Value := scalar (.number x)

@[match_pattern] abbrev text (s : String) : Value := scalar (.text s)

@[match_pattern] abbrev bool (b : Bool) : Value := scalar (.bool b)

@[match_pattern] abbrev error (e : CellError) : Value := scalar (.error e)

@[match_pattern] abbrev blank : Value := scalar .blank

/-- The scalar at the end of the first elements. An array without elements counts as blank. -/
def leaf : Value → Scalar
  | scalar s => s
  | array _ _ [] => .blank
  | array _ _ (v :: _) => v.leaf

/-- The first element of an array, or the value itself. -/
def first : Value → Value
  | array _ _ values => values.head?.getD blank
  | v => v

def isError : Value → Bool
  | scalar s => s.isError
  | array .. => false

/-- The value as readers see it, the elements of an array included. -/
def surfaced : Value → Value
  | scalar s => s.surfaced
  | array rows cols values => array rows cols (values.map fun
    | scalar s => s.surfaced
    | v => v)

/-- The value as a cell shows it. -/
def display (v : Value) : String := v.leaf.display

/-- The element of an array at a position. -/
def get? : Value → Nat → Nat → Option Value
  | array rows cols values, row, col =>
    if row < rows ∧ col < cols then values[row * cols + col]? else none
  | scalar _, _, _ => none

end Value

def ArrayElement.value : ArrayElement → Value
  | empty _ => .blank
  | number bits => .number (Float.ofBits bits)
  | text s => .text s.text
  | bool raw _ => .bool (raw ≠ 0)
  | error e _ => .error e

/-- An array constant as a value of the same shape. -/
def ArrayConstant.value (a : ArrayConstant) : Value :=
  .array a.rows a.cols (a.values.map ArrayElement.value)

end Spreadsheet
