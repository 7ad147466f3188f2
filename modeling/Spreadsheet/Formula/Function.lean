import Spreadsheet.Formula.Resolve
import Spreadsheet.Settings.Basic
import Spreadsheet.Value.Broadcast
import Spreadsheet.Value.Compare

/-!
Calls of functions, and a small library of them.

An evaluator does not know what functions mean. It hands their operands to a dispatcher, which may
answer that it has no such function. The library `basic` holds the aggregates, the logic and the
questions about values that formulas use most.

Operands are read one after the other and only as far as the result needs them, because reading a
cell may compute it.
-/

namespace Spreadsheet

/-- The function that is called: its number, and its name or that of the add-in's function. -/
structure FunctionCall where
  id : UInt16
  name : String
  deriving DecidableEq, Repr

/-- Where a call is made. -/
structure CallSite where
  surroundings : Surroundings
  here : Place
  settings : Settings

/-- A library of functions. It answers `none` for a function that it does not have. -/
abbrev Dispatcher : Type := CallSite → FunctionCall → List Operand → Query (Option Operand)

namespace CallSite

/-- One value of an operand. -/
def scalar (site : CallSite) (arg : Operand) : Query Value := arg.scalarValue site.here

/-- An operand with its reference read as an array. -/
def array (site : CallSite) (arg : Operand) : Query Value :=
  arg.arrayValue site.settings.maxArrayCells

end CallSite

namespace Library

section Pure

/-- A count as a number. Counts have 64 bits. -/
def ofCount (n : Nat) : Float := n.toUInt64.toFloat

/-- A whole number of steps as a power of ten, by squaring: the bits of the exponent, lowest first,
select the squares that enter the product. A negative exponent takes the reciprocal at the end. -/
def powerOfTen (exponent : Int) : Float :=
  let rec go (n : Nat) (square acc : Float) : Float :=
    if n = 0 then acc
    else go (n / 2) (square * square) (if n % 2 = 1 then acc * square else acc)
  termination_by n
  decreasing_by omega
  let p := go exponent.natAbs 10 1
  if exponent < 0 then 1 / p else p

def sumOf (xs : List Float) : Float := xs.foldl (· + ·) (-0.0)

/-- What an aggregate makes of its numbers. -/
abbrev Aggregate := List Float → Value

def sum : Aggregate := fun xs => .ofResult (sumOf xs)

def product : Aggregate := fun xs => .ofResult (xs.foldl (· * ·) 1)

def average : Aggregate := fun xs =>
  if xs.isEmpty then .error .divisionByZero
  else .ofResult (sumOf xs / ofCount xs.length)

/-- The first number combined with the others, or zero if there is none. -/
def reduced (f : Float → Float → Float) : Aggregate
  | [] => .ofResult 0
  | x :: xs => .ofResult (xs.foldl f x)

/-- The numbers among values; the first error is passed on, and all else does not count. -/
def numbersAmong (vs : List Value) : Except CellError (List Float) :=
  match vs.findSome? fun | .error e => some e | _ => none with
  | some e => .error e
  | none => .ok (vs.filterMap fun | .number x => some x | _ => none)

/-- The values that a logical function looks at in cells and arrays. -/
def isLogical : Value → Bool
  | .number _ | .bool _ | .error _ => true
  | _ => false

/-- The number of an error among those that readers see, counted from one. -/
def errorNumber (e : CellError) : Nat := (CellError.visible.idxOf? e.surfaced).getD 0 + 1

/-- A function of one number on one value. -/
def onNumber (f : Float → Float) (v : Value) : Value :=
  Value.ofExcept do return Value.ofResult (f (← v.toNumber))

/-- A function of one text on one value. -/
def onText (f : String → Value) (v : Value) : Value :=
  Value.ofExcept do return f (← v.toText)

def negation (v : Value) : Value := Value.ofExcept do return .bool (!(← v.toBool))

/-- Rounds to a number of decimal places, a half going away from zero. -/
def roundTo (x places : Float) : Value :=
  let factor := powerOfTen places.toInt32.toInt
  .ofResult ((x * factor).round / factor)

/-- The remainder with the sign of the divisor. -/
def modulo (x d : Float) : Value :=
  if d == 0 then .error .divisionByZero else .ofResult (x - d * (x / d).floor)

/-- The root, which negative numbers do not have. -/
def squareRoot (x : Float) : Float := if x < 0 then 0 / 0 else x.sqrt

/-- The rows or the columns of an operand. -/
def dimension (rows : Bool) : List Operand → Value
  | [.reference r] => match r.singleArea? with
    | some a => .number (ofCount (if rows then a.range.height else a.range.width))
    | none => .error .reference
  | [.value (.array r c _)] => .number (ofCount (if rows then r else c))
  | [.value (.error e)] => .error e
  | [_] => .number 1
  | _ => .error .value

end Pure

/-- The values of an operand that is not a single value. -/
def many? : Operand → Option (Query (List Value))
  | .reference r => some r.values
  | .value (.array _ _ values) => some (pure values)
  | _ => none

/-- The numbers of the operands of an aggregate. Single values must convert to numbers. Once an
operand has an error no further one is read. -/
def numbers : List Operand → ExceptT CellError Query (List Float)
  | [] => return []
  | arg :: args => do
    let here ← match many? arg, arg with
      | some values, _ => numbersAmong (← values)
      | none, .value v => v.toNumber.map ([·])
      | none, _ => pure []
    return here ++ (← numbers args)

def aggregate (f : Aggregate) (args : List Operand) : Query Value := do
  match ← (numbers args).run with
  | .ok xs => return f xs
  | .error e => return .error e

/-- Counts the operands that pass a test: every element of those with many values, and single
values by a test of their own. -/
def count (element single : Value → Bool) (args : List Operand) : Query Value := do
  let counts ← args.mapM fun arg => match many? arg, arg with
    | some values, _ => return (← values).countP element
    | none, .value v => return if single v then 1 else 0
    | none, _ => return 0
  return .number (ofCount (counts.foldl (· + ·) 0))

/-- Combines truth values from the left. Single values must convert; in cells and arrays only
numbers, truth values and errors count. The first error ends the reading. -/
def connect (f : Bool → Bool → Bool) :
    List Operand → Option Bool → ExceptT CellError Query (Option Bool)
  | [], acc => return acc
  | arg :: args, acc => do
    let values ← match many? arg, arg with
      | some values, _ => pure ((← values).filter isLogical)
      | none, .value v => pure [v]
      | none, _ => pure []
    let acc ← values.foldlM (fun acc v => do
      let b ← v.toBool
      return some (acc.elim b (f · b))) acc
    connect f args acc

def logical (f : Bool → Bool → Bool) (args : List Operand) : Query Value := do
  match ← (connect f args none).run with
  | .ok (some b) => return .bool b
  | .ok none => return .error .value
  | .error e => return .error e

/-- A function of one operand, element by element. -/
def unary (f : Value → Value) (site : CallSite) : List Operand → Query Value
  | [arg] => do return (← site.array arg).mapElements f
  | _ => return .error .value

/-- A function of two numbers. The second operand is not read if the first is no number. -/
def binary (f : Float → Float → Value) (site : CallSite) : List Operand → Query Value
  | [a, b] => do
    match (← site.scalar a).toNumber with
    | .error e => return .error e
    | .ok x => return Value.ofExcept ((← site.scalar b).toNumber.map (f x))
  | _ => return .error .value

/-- The texts of the operands in a row, up to the first error. -/
def concatenated (site : CallSite) : List Operand → ExceptT CellError Query String
  | [] => return ""
  | arg :: args => do
    let s ← (← site.scalar arg).toText
    return s ++ (← concatenated site args)

def concatenate (site : CallSite) (args : List Operand) : Query Value := do
  return Value.ofExcept ((← (concatenated site args).run).map Value.text)

/-- A left-out operand that is chosen as a result counts as zero. -/
def chosen : Operand → Operand
  | .missing => .value (.number 0)
  | arg => arg

/-- Chooses the second or the third operand by the first, and does not read either. -/
def ifThenElse (site : CallSite) : List Operand → Query Operand
  | [] => return .error .value
  | cond :: branches => do
    match (← site.scalar cond).toBool with
    | .error e => return .error e
    | .ok true => return chosen (branches[0]?.getD .missing)
    | .ok false => return (branches[1]?.map chosen).getD (.value (.bool false))

/-- The first operand, or the second if the first is an error. -/
def ifError (site : CallSite) : List Operand → Query Operand
  | [arg, fallback] => do
    return if (← site.scalar arg).isError then chosen fallback else arg
  | _ => return .error .value

/-- The function of a name in capitals. -/
def function? (name : String) : Option (CallSite → List Operand → Query Operand) :=
  let value (f : CallSite → List Operand → Query Value) :
      Option (CallSite → List Operand → Query Operand) :=
    some fun site args => do return .value (← f site args)
  let closed (f : List Operand → Query Value) := value fun _ args => f args
  let constant (v : Value) := closed fun _ => return v
  let test (p : Value → Bool) := value (unary fun v => .bool (p v))
  match name with
  | "SUM" => closed (aggregate sum)
  | "PRODUCT" => closed (aggregate product)
  | "AVERAGE" => closed (aggregate average)
  | "MIN" => closed (aggregate (reduced Number.smaller))
  | "MAX" => closed (aggregate (reduced Number.larger))
  | "COUNT" => closed (count (fun | .number _ => true | _ => false) (·.toNumber.isOk))
  | "COUNTA" => closed (count (fun | .blank => false | _ => true) fun _ => true)
  | "IF" => some ifThenElse
  | "IFERROR" => some ifError
  | "ISERROR" => test (·.isError)
  | "ISERR" => test fun | .error e => e ≠ .notAvailable | _ => false
  | "ISNA" => test fun | .error .notAvailable => true | _ => false
  | "ISBLANK" => test fun | .blank => true | _ => false
  | "ISNUMBER" => test fun | .number _ => true | _ => false
  | "ISTEXT" => test fun | .text _ => true | _ => false
  | "ERROR.TYPE" => value (unary fun
    | .error e => .number (ofCount (errorNumber e))
    | _ => .error .notAvailable)
  | "NA" => constant (.error .notAvailable)
  | "TRUE" => constant (.bool true)
  | "FALSE" => constant (.bool false)
  | "AND" => closed (logical (· && ·))
  | "OR" => closed (logical (· || ·))
  | "NOT" => value (unary negation)
  | "ABS" => value (unary (onNumber Float.abs))
  | "INT" => value (unary (onNumber Float.floor))
  | "SQRT" => value (unary (onNumber squareRoot))
  | "ROUND" => value (binary roundTo)
  | "MOD" => value (binary modulo)
  | "LEN" => value (unary (onText fun s => .number (ofCount s.length)))
  | "UPPER" => value (unary (onText fun s => .text (Text.upper s)))
  | "LOWER" => value (unary (onText fun s => .text (Text.lower s)))
  | "CONCATENATE" => value concatenate
  | "ROWS" => closed fun args => return dimension true args
  | "COLUMNS" => closed fun args => return dimension false args
  | _ => none

/-- A name in capitals, without the mark of functions that the file format does not know. -/
def canonicalName (name : String) : String :=
  let upper := Text.asciiUpper name
  let mark := "_XLFN."
  if upper.startsWith mark then String.ofList (upper.toList.drop mark.length) else upper

/-- The small library. -/
def basic : Dispatcher := fun site call args =>
  match function? (canonicalName call.name) with
  | some f => do return some (← f site args)
  | none => return none

/-- The library without functions. -/
def empty : Dispatcher := fun _ _ _ => return none

end Library

end Spreadsheet
