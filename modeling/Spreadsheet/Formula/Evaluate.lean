import Spreadsheet.Formula.Function
import Spreadsheet.Formula.Shared

/-!
Evaluation of formulas.

The tokens of a formula are worked off from left to right on a stack: each takes as many results as
it needs, the latest being its last operand, and pushes one. Errors of spreadsheets are results
like others. An evaluation itself fails only where the tokens do not fit together, or where a
placeholder or an unknown function leaves open what is meant.

Names are evaluated where they are used. `levels` is how deep names may still refer to names.
-/

namespace Spreadsheet

/-- Why a formula cannot be evaluated. -/
inductive EvalError
  | decode (e : DecodeError)
  | stackUnderflow (index : Nat) (opcode : UInt8) (needed available : Nat)
  | malformedStack (remaining : Nat)
  | unknownFunctionArity (index : Nat) (id : UInt16)
  | unsupported (index : Nat) (opcode : UInt8)
  | structureNotFound (sheet : Nat) (anchor : Cell)
  | noFormula (sheet : Nat) (cell : Cell)
  deriving DecidableEq, Repr

/-- A byte as two upper-case hexadecimal digits behind `0x`. -/
def hexByteUpper (b : UInt8) : String :=
  String.ofList ('0' :: 'x' :: (Text.Hex.ofByte b).map Char.toUpper)

def EvalError.message : EvalError → String
  | decode e => e.message
  | stackUnderflow index opcode needed available =>
    "token " ++ toString index ++ " (ptg " ++ hexByteUpper opcode ++ ") needs " ++
      toString needed ++ " operand(s) but only " ++ toString available ++ " are on the stack"
  | malformedStack remaining =>
    "formula left " ++ toString remaining ++ " value(s) on the stack instead of one"
  | unknownFunctionArity index id =>
    "token " ++ toString index ++ " calls function id " ++ toString id.toNat ++
      ", which has no fixed argument count"
  | unsupported index opcode =>
    "token " ++ toString index ++ " (ptg " ++ hexByteUpper opcode ++ ") cannot be evaluated"
  | structureNotFound sheet anchor =>
    "no shared or array formula anchored at " ++ String.ofList anchor.text ++ " on sheet " ++
      toString sheet
  | noFormula sheet cell =>
    "no formula stored at " ++ String.ofList cell.text ++ " on sheet " ++ toString sheet

namespace Evaluate

/-- An entry of the stack. The name of an add-in's function is of use only as the first operand of
a call; anywhere else it is an unknown name. -/
inductive Item
  | operand (o : Operand)
  | callee (name : String)
  deriving Inhabited

def Item.toOperand : Item → Operand
  | operand o => o
  | callee _ => .error .name

def Item.ofValue (v : Value) : Item := .operand (.value v)

/-- Arithmetic on two numbers. -/
def arithmetic (op : BinaryOp) (x y : Float) : Value :=
  match op with
  | .add => .ofResult (x + y)
  | .sub => .ofResult (x - y)
  | .mul => .ofResult (x * y)
  | .div => if y == 0 then .error .divisionByZero else .ofResult (x / y)
  | .power =>
    if x == 0 && y == 0 then .error .number
    else if x == 0 && y < 0 then .error .divisionByZero
    else .ofResult (Float.pow x y)
  | _ => .error .value

/-- An operator on two values that are no arrays. The error of the left side comes first. -/
def binaryElement (op : BinaryOp) (epsilon : Float) (v w : Value) : Value :=
  if op = .concat then Value.ofExcept do return .text ((← v.toText) ++ (← w.toText))
  else if op.isComparison then Value.compareOp op epsilon v w
  else Value.ofExcept do return arithmetic op (← v.toNumber) (← w.toNumber)

/-- An operator on two references. -/
def referenceOperator (op : BinaryOp) (r s : Reference) : Except CellError Reference :=
  match op with
  | .range => r.span s
  | .intersection => r.intersect s
  | _ => .ok (r.union s)

def referenceOperands (op : BinaryOp) : Operand → Operand → Operand
  | .reference r, .reference s => match referenceOperator op r s with
    | .ok t => .reference t
    | .error e => .error e
  | .error e, _ => .error e
  | _, .error e => .error e
  | _, _ => .error .value

/-- Negation, or division by a hundred. -/
def unaryElement (op : UnaryOp) (v : Value) : Value :=
  Value.ofExcept do
    let x ← v.toNumber
    return .number (if op = .minus then -x else x / 100)

def binary (site : CallSite) (op : BinaryOp) (left right : Operand) : Query Operand :=
  if op.isReferenceOperator then return referenceOperands op left right
  else do
    let v ← site.array left
    let w ← site.array right
    return .value (Value.broadcast (binaryElement op site.settings.epsilon) v w)

/-- The sign plus changes nothing, not even a reference. -/
def unary (site : CallSite) (op : UnaryOp) (o : Operand) : Query Operand :=
  if op = .plus then return o
  else do return .value ((← site.array o).mapElements (unaryElement op))

/-- A reference in the form that its token asks for. -/
def applyClass (site : CallSite) (cls : TokenClass) : Operand → Query Operand
  | .reference r => match cls with
    | .reference => return .reference r
    | .value => match r.intersectionCell? site.here with
      | some p => return .reference (.ofArea (.single p))
      | none => return .error .value
    | .array => return .value (← site.array (.reference r))
  | o => return o

def dispatch (functions : Dispatcher) (site : CallSite) (call : FunctionCall)
    (args : List Item) : Query Item := do
  match ← functions site call (args.map Item.toOperand) with
  | some o => return .operand o
  | none => return .operand (.error .name)

/-- A call of a function in the table, with as many arguments as it can take. -/
def callBuiltin (functions : Dispatcher) (site : CallSite) (id : UInt16) (args : List Item) :
    Query Item :=
  match FunctionTable.lookup? id with
  | none => return .ofValue (.error .name)
  | some f =>
    if args.length < f.minArgs ∨ f.maxArgs < args.length then return .ofValue (.error .value)
    else dispatch functions site ⟨id, f.name⟩ args

/-- A call of the function that the first argument names. -/
def callUser (functions : Dispatcher) (site : CallSite) : List Item → Query Item
  | [] => return .ofValue (.error .value)
  | .callee name :: args => dispatch functions site ⟨FunctionTable.userDefined, name⟩ args
  | .operand (.error e) :: _ => return .ofValue (.error e)
  | .operand _ :: _ => return .ofValue (.error .name)

/-- How the body of a name is evaluated where it is used. -/
abbrev BodyEvaluator := List Token → ExceptT EvalError Query Operand

/-- What a defined name stands for. One without a body is a function. -/
def definedName (body : BodyEvaluator) (site : CallSite) (index : UInt16) :
    ExceptT EvalError Query Item :=
  match site.surroundings.definedName index with
  | none => return .ofValue (.error .name)
  | some n =>
    if n.body.isEmpty then return .callee n.name
    else do return .operand (← body n.body)

def linkedName (body : BodyEvaluator) (site : CallSite) (link index : UInt16) :
    ExceptT EvalError Query Item :=
  match site.surroundings.linkedName link index with
  | none => return .ofValue (.error .name)
  | some n => match n.body with
    | none => return .callee n.name
    | some tokens => do return .operand (← body tokens)

/-- What a name stands for, in the form that its token asks for. -/
def inClass (site : CallSite) (cls : TokenClass) : Item → Query Item
  | .operand o => do return .operand (← applyClass site cls o)
  | item => return item

/-- The result of a token that has its operands, from left to right. Notes have none. -/
def tokenResult (functions : Dispatcher) (body : BodyEvaluator) (site : CallSite)
    (index : Nat) (args : List Item) (t : Token) : ExceptT EvalError Query (Option Item) :=
  let arg (i : Nat) : Operand := (args[i]?.map Item.toOperand).getD .missing
  let value (v : Value) : ExceptT EvalError Query (Option Item) := return some (.ofValue v)
  let item (x : Query Item) : ExceptT EvalError Query (Option Item) := ExceptT.lift (some <$> x)
  let operand (x : Query Operand) : ExceptT EvalError Query (Option Item) :=
    item (Item.operand <$> x)
  match t with
  | .exp .. | .table .. => throw (.unsupported index t.opcode)
  | .attr (.sum _) => item (callBuiltin functions site FunctionTable.sum args)
  | .attr _ | .paren | .memory _ => return none
  | .missing => return some (.operand .missing)
  | .text s => value (.text s.text)
  | .error e => value (.error e)
  | .bool raw => value (.bool (raw ≠ 0))
  | .int n => value (.number (Float.ofNat n.toNat))
  | .num bits => value (.number (Float.ofBits bits))
  | .array _ _ a =>
    if site.settings.maxArrayCells < a.rows * a.cols then value (.error .number) else value a.value
  | .binary op => operand (binary site op (arg 0) (arg 1))
  | .unary op => operand (unary site op (arg 0))
  | .func _ id => item (callBuiltin functions site id args)
  | .funcVar _ _ _ id _ =>
    if id = FunctionTable.userDefined then item (callUser functions site args)
    else item (callBuiltin functions site id args)
  | .name cls i _ => do item (inClass site cls (← definedName body site i))
  | .nameX cls link i _ => do item (inClass site cls (← linkedName body site link i))
  | .ref cls _ | .area cls _ | .refErr cls _ | .areaErr cls _ | .refN cls _ | .areaN cls _
  | .ref3d cls _ _ | .area3d cls _ _ | .refErr3d cls _ _ | .areaErr3d cls _ _ =>
    match site.surroundings.resolve? site.settings.limits site.here t with
    | some o => operand (applyClass site cls o)
    | none => throw (.unsupported index t.opcode)

/-- One token on a stack, the latest result first. -/
def step (functions : Dispatcher) (body : BodyEvaluator) (site : CallSite)
    (stack : List Item) (index : Nat) (t : Token) : ExceptT EvalError Query (List Item) := do
  match t.operandCount? with
  | none => match t with
    | .func _ id => throw (.unknownFunctionArity index id)
    | _ => throw (.unsupported index t.opcode)
  | some n =>
    if stack.length < n then throw (.stackUnderflow index t.opcode n stack.length)
    let result ← tokenResult functions body site index (stack.take n).reverse t
    return result.toList ++ stack.drop n

/-- All tokens, and then the only result on the stack. -/
def run (functions : Dispatcher) (body : BodyEvaluator) (site : CallSite)
    (tokens : List Token) : ExceptT EvalError Query Operand := do
  match ← tokens.zipIdx.foldlM (fun stack (t, i) => step functions body site stack i t) [] with
  | [item] => return item.toOperand
  | stack => throw (.malformedStack stack.length)

/-- Evaluation with a bound on how deep names refer to names. Beyond it a name is unknown. -/
def withLevels (functions : Dispatcher) (site : CallSite) :
    (levels : Nat) → List Token → ExceptT EvalError Query Operand
  | 0, tokens => run functions (fun _ => return .error .name) site tokens
  | levels + 1, tokens => run functions (withLevels functions site levels) site tokens

end Evaluate

/-- The result of a formula, which may still be a reference. -/
def evaluateOperand (functions : Dispatcher) (site : CallSite) (tokens : List Token) :
    ExceptT EvalError Query Operand :=
  Evaluate.withLevels functions site site.settings.maxNameDepth tokens

/-- The result of a formula in one cell. -/
def evaluate (functions : Dispatcher) (site : CallSite) (tokens : List Token) :
    ExceptT EvalError Query Value := do
  let o ← evaluateOperand functions site tokens
  ExceptT.lift (Value.first <$> site.scalar o)

/-- The result of an array formula. -/
def evaluateArray (functions : Dispatcher) (site : CallSite) (tokens : List Token) :
    ExceptT EvalError Query Value := do
  ExceptT.lift (site.array (← evaluateOperand functions site tokens))

end Spreadsheet
