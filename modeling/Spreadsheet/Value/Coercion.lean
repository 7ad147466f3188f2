import Spreadsheet.Number.Reading
import Spreadsheet.Text.Blank
import Spreadsheet.Value.Basic

/-!
What operators make of their operands before they compute.

Blanks are zero, empty and false; a truth value is one or zero; text must read as a number. An
error stays an error, and an array stands for its first element.
-/

namespace Spreadsheet

namespace Number

/-- A percent sign at the end, and the text before it without the blanks at its end. -/
def splitPercent (cs : List Char) : Bool × List Char :=
  if cs.getLast? = some '%' then (true, Text.trimEnd cs.dropLast) else (false, cs)

/-- Digits in groups of three between commas. Only the first group may be shorter. -/
def validGrouping (cs : List Char) : Bool :=
  match cs.splitOn ',' with
  | [] => false
  | g :: gs =>
    1 ≤ g.length && g.length ≤ 3 && g.all Char.isDigit &&
      gs.all fun g => g.length = 3 && g.all Char.isDigit

/-- Text without the commas before its first point or exponent, if they group digits well there. -/
def ungroup? (cs : List Char) : Option (List Char) :=
  if ',' ∈ cs then
    let inWhole (c : Char) : Bool := !(c = '.' || c = 'e' || c = 'E')
    let whole := cs.takeWhile inWhole
    if validGrouping whole then some (whole.filter (· ≠ ',') ++ cs.dropWhile inWhole) else none
  else some cs

/-- The number that text stands for: an optional sign, a decimal literal with optional commas, and
an optional percent sign, with blanks around. Literals out of range stand for none. -/
def ofText? (s : String) : Option Float := do
  let (percent, body) := splitPercent (Text.trim s.toList)
  let (negative, digits) := splitSign body
  let x ← ofLiteral? (← ungroup? digits)
  if x.isFinite then
    return (if negative then -1 else 1) * x * (if percent then 0.01 else 1)
  else none

end Number

namespace Scalar

def toNumber : Scalar → Except CellError Float
  | number x => .ok x
  | bool b => .ok (if b then 1 else 0)
  | blank => .ok 0
  | text s => match Number.ofText? s with
    | some x => .ok x
    | none => .error .value
  | error e => .error e

/-- Only an error has no text. -/
def toText : Scalar → Except CellError String
  | error e => .error e
  | s => .ok s.display

def toBool : Scalar → Except CellError Bool
  | bool b => .ok b
  | number x => .ok (x != 0)
  | blank => .ok false
  | text s =>
    if Text.sameIgnoringAsciiCase s "TRUE" then .ok true
    else if Text.sameIgnoringAsciiCase s "FALSE" then .ok false
    else .error .value
  | error e => .error e

end Scalar

namespace Value

def toNumber (v : Value) : Except CellError Float := v.leaf.toNumber

def toText (v : Value) : Except CellError String := v.leaf.toText

def toBool (v : Value) : Except CellError Bool := v.leaf.toBool

/-- A computed number. What is not finite is an error. -/
def ofResult (x : Float) : Value := if x.isFinite then .number x else .error .number

/-- A result, or the error in its place. -/
def ofExcept : Except CellError Value → Value
  | .ok v => v
  | .error e => .error e

end Value

end Spreadsheet
