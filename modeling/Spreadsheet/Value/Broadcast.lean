import Spreadsheet.Value.Basic

/-!
Operators on arrays, element by element.

A scalar, or the only element of an array, is combined with every element of the other side. Two
larger arrays are combined position by position in the shape of the longer one, and a position that
only one of them has is `#VALUE!`. The result is a scalar only if both sides are.
-/

namespace Spreadsheet.Value

def mapElements (f : Value → Value) : Value → Value
  | array rows cols values => array rows cols (values.map f)
  | v => f v

/-- The first `n` positions of two arrays combined. -/
def zipPositions (f : Value → Value → Value) (n : Nat) (left right : List Value) : List Value :=
  let l := left.toArray
  let r := right.toArray
  (List.range n).map fun i => match l[i]?, r[i]? with
    | some v, some w => f v w
    | _, _ => .error .value

def broadcast (f : Value → Value → Value) : Value → Value → Value
  | array rows cols left, array rows' cols' right => match left, right with
    | _, [w] => array rows cols (left.map (f · w))
    | [v], _ => array rows' cols' (right.map (f v))
    | _, _ =>
      if left.length < right.length then
        array rows' cols' (zipPositions f (rows' * cols') left right)
      else array rows cols (zipPositions f (rows * cols) left right)
  | array rows cols left, w => array rows cols (left.map (f · w))
  | v, array rows cols right => array rows cols (right.map (f v))
  | v, w => f v w

end Spreadsheet.Value
