import Spreadsheet.Token.Basic
import Spreadsheet.Value.Coercion

/-!
The order of values.

Numbers come before texts and texts before truth values. Numbers that differ by no more than a
fraction of the larger one are equal, and texts are compared in capitals. A blank, which an empty
text counts as, takes the type of the other side. Errors are not compared but passed on, the left
one first.
-/

namespace Spreadsheet

namespace Number

/-- The larger number, of equal ones the second. One that is no number does not count. -/
def larger (x y : Float) : Float := if x.isNaN || x ≤ y then y else x

/-- The smaller number, of equal ones the second. One that is no number does not count. -/
def smaller (x y : Float) : Float := if x.isNaN || y ≤ x then y else x

/-- Equal up to a fraction `epsilon` of the larger magnitude. -/
def near (epsilon x y : Float) : Bool :=
  x == y || (x - y).abs ≤ epsilon * larger x.abs y.abs

/-- What can be put neither before nor behind counts as equal. -/
def compare (epsilon x y : Float) : Ordering :=
  if near epsilon x y then .eq
  else if x < y then .lt
  else if y < x then .gt
  else .eq

end Number

namespace Scalar

/-- Empty text is blank. -/
def emptyAsBlank : Scalar → Scalar
  | text "" => blank
  | s => s

/-- A blank as a scalar of the other side's type. -/
def inPlaceOf : Scalar → Scalar → Scalar
  | blank, number _ => number 0
  | blank, text _ => text ""
  | blank, bool _ => bool false
  | s, _ => s

/-- The place of a type in the order of types. -/
def rank : Scalar → Nat
  | number _ => 0
  | text _ => 1
  | bool _ => 2
  | error _ | blank => 3

/-- The order of scalars that are no errors. Scalars of different types are ordered by type. -/
def order (epsilon : Float) : Scalar → Scalar → Ordering
  | number x, number y => Number.compare epsilon x y
  | text s, text t => Ord.compare (Text.upper s) (Text.upper t)
  | bool b, bool c => Ord.compare b c
  | s, t => Ord.compare s.rank t.rank

def compare (epsilon : Float) (s t : Scalar) : Except CellError Ordering :=
  match s.emptyAsBlank, t.emptyAsBlank with
  | error e, _ => .error e
  | _, error e => .error e
  | s, t => .ok (order epsilon (s.inPlaceOf t) (t.inPlaceOf s))

end Scalar

/-- The orders for which a comparison holds. Other operators hold for none. -/
def BinaryOp.holds? : BinaryOp → Ordering → Option Bool
  | lt, o => some (o == .lt)
  | le, o => some (o != .gt)
  | eq, o => some (o == .eq)
  | ge, o => some (o != .lt)
  | gt, o => some (o == .gt)
  | ne, o => some (o != .eq)
  | _, _ => none

namespace Value

def compare (epsilon : Float) (v w : Value) : Except CellError Ordering :=
  Scalar.compare epsilon v.leaf w.leaf

/-- The truth value of a comparison, or the error that was passed on. -/
def compareOp (op : BinaryOp) (epsilon : Float) (v w : Value) : Value :=
  match compare epsilon v w with
  | .error e => .error e
  | .ok o => match op.holds? o with
    | some b => .bool b
    | none => .error .value

end Value

end Spreadsheet
