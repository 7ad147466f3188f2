import Spreadsheet.SheetName
import Spreadsheet.Token.Basic
import Spreadsheet.Token.Decode

/-!
The text of formulas.

Tokens are turned into text on a stack, operands first. Tokens for blanks hold back what they stand
for until the next token writes it: in front of itself, around an operator, or before the closing
parenthesis.

Names and sheets are stored as numbers, so the text depends on a table of names.
-/

namespace Spreadsheet

/-- What stands in front of a reference into another sheet. -/
inductive SheetLabel
  /-- The sheets of this workbook from `first` to `last`. -/
  | span (first last : String)
  | external (book sheet : String)
  /-- The sheet is gone; the name it had may still be known. -/
  | deleted (name : Option String)
  deriving DecidableEq, Repr, Inhabited

/-- The names that the numbers in tokens stand for. -/
structure Names where
  sheetLabel : UInt16 → SheetLabel
  definedName : UInt16 → Option String
  linkedName : UInt16 → UInt16 → Option String
  limits : Limits

/-- Nothing is known by name. -/
def Names.none : Names where
  sheetLabel _ := .deleted .none
  definedName _ := .none
  linkedName _ _ := .none
  limits := {}

/-- Why a formula has no text. -/
inductive RenderError
  | stackUnderflow (index : Nat) (opcode : UInt8) (needed available : Nat)
  | stackNotSingular (remaining : Nat)
  | unknownFunction (index : Nat) (id : UInt16)
  | unresolvedPlaceholder (index : Nat)
  deriving DecidableEq, Repr

def RenderError.message : RenderError → String
  | stackUnderflow index opcode needed available =>
    "token " ++ toString index ++ " (ptg=" ++ hexByte opcode ++ ") needs " ++ toString needed ++
      " operands but only " ++ toString available ++ " are available"
  | stackNotSingular remaining =>
    "formula left " ++ toString remaining ++ " expressions on the stack"
  | unknownFunction index id =>
    "unknown function id " ++ toString id.toNat ++ " at token " ++ toString index
  | unresolvedPlaceholder index =>
    "token " ++ toString index ++
      " is a shared/array placeholder that must be instantiated first"

namespace Render

/-- A reference to nothing on a sheet that may be known by name. -/
def broken : SheetLabel → List Char
  | .span name _ | .external _ name | .deleted (some name) =>
    SheetName.written name.toList ++ "!#REF!".toList
  | .deleted none => "#REF!".toList

/-- A reference behind its sheet. In a quoted prefix only the sheet's own apostrophes are doubled,
not those of the workbook. -/
def qualified (label : SheetLabel) (reference : List Char) : List Char :=
  match label with
  | .span first last => SheetName.writtenSpan first.toList last.toList ++ '!' :: reference
  | .external book sheet =>
    let q := SheetName.apostrophe
    if SheetName.needsQuotes sheet.toList then
      q :: '[' :: book.toList ++ ']' :: Text.doubled q sheet.toList ++ q :: '!' :: reference
    else '[' :: book.toList ++ ']' :: sheet.toList ++ '!' :: reference
  | .deleted _ => broken label

def call (name : List Char) (args : List (List Char)) : List Char :=
  name ++ '(' :: [','].intercalate args ++ [')']

/-- The texts of what is computed so far, the latest first, and the blanks held back. -/
structure State where
  stack : List (List Char)
  pending : Option (Spacing × List Char)

/-- The blanks that go in front of the next token. -/
def State.lead (st : State) : List Char :=
  match st.pending with
  | some (spacing, blanks) => if spacing.isBeforeClose then [] else blanks
  | none => []

/-- The blanks that go before the next closing parenthesis. -/
def State.close (st : State) : List Char :=
  match st.pending with
  | some (spacing, blanks) => if spacing.isBeforeClose then blanks else []
  | none => []

/-- How many results a token must find. Only a call can leave that open. -/
def needed (index : Nat) : Token → Except RenderError Nat
  | .func _ id => match FunctionTable.fixedArity? id with
    | some n => .ok n
    | none => .error (.unknownFunction index id)
  | t => .ok (t.operandCount?.getD 0)

/-- The text of a token that is no note, given the texts of its operands from left to right, the
blanks in front of it and the ones before a closing parenthesis. -/
def tokenText (names : Names) (origin : Cell) (index : Nat) (lead close : List Char)
    (args : List (List Char)) : Token → Except RenderError (List Char)
  | .exp .. | .table .. => .error (.unresolvedPlaceholder index)
  | .binary op =>
    .ok ((args[0]?.getD []) ++ lead ++ op.symbol.toList ++ (args[1]?.getD []))
  | .unary .percent => .ok ((args[0]?.getD []) ++ lead ++ ['%'])
  | .unary .minus => .ok (lead ++ '-' :: (args[0]?.getD []))
  | .unary .plus => .ok (lead ++ '+' :: (args[0]?.getD []))
  | .paren => .ok (lead ++ '(' :: (args[0]?.getD []) ++ close ++ [')'])
  | .missing => .ok lead
  | .text s => .ok (lead ++ Text.quoted '"' s.text.toList)
  | .attr (.sum _) => .ok (lead ++ call "SUM".toList args)
  | .attr _ | .memory _ => .ok lead
  | .error e => .ok (lead ++ e.text.toList)
  | .bool raw => .ok (lead ++ (if raw = 0 then "FALSE" else "TRUE").toList)
  | .int n => .ok (lead ++ Nat.toDigits 10 n.toNat)
  | .num bits => .ok (lead ++ (Number.text (Float.ofBits bits)).toList)
  | .array _ _ value => .ok (lead ++ value.text)
  | .func _ id => .ok (lead ++ call ((FunctionTable.name? id).getD "#NAME?").toList args)
  | .funcVar _ _ _ id _ =>
    match id == FunctionTable.userDefined, args with
    | true, callee :: args => .ok (lead ++ call callee args)
    | _, args => match FunctionTable.name? id with
      | some name => .ok (lead ++ call name.toList args)
      | none => .error (.unknownFunction index id)
  | .name _ i _ => .ok (lead ++ ((names.definedName i).getD "#NAME?").toList)
  | .nameX _ link i _ => .ok (lead ++ ((names.linkedName link i).getD "#NAME?").toList)
  | .ref _ a => .ok (lead ++ a.text)
  | .area _ a => .ok (lead ++ a.text names.limits)
  | .refErr .. | .areaErr .. => .ok (lead ++ "#REF!".toList)
  | .refN _ a => .ok (lead ++ (a.resolve origin names.limits).text)
  | .areaN _ a => .ok (lead ++ (a.resolve origin names.limits).text names.limits)
  | .ref3d _ link a => .ok (lead ++ qualified (names.sheetLabel link) a.text)
  | .area3d _ link a => .ok (lead ++ qualified (names.sheetLabel link) (a.text names.limits))
  | .refErr3d _ link _ | .areaErr3d _ link _ => .ok (lead ++ broken (names.sheetLabel link))

/-- One token. A parenthesis encloses the latest text, and takes nothing where there is none. -/
def step (names : Names) (origin : Cell) (st : State) (index : Nat) (t : Token) :
    Except RenderError State := do
  let n ← needed index t
  if st.stack.length < n then throw (.stackUnderflow index t.opcode n st.stack.length)
  match t with
  | .attr (.space spacing count _) =>
    let blank := if spacing.isLineBreak then '\n' else ' '
    return { st with pending := some (spacing, List.replicate count.toNat blank) }
  | .attr (.sum _) => push n
  | .attr _ | .memory _ => return st
  | .paren => push 1
  | _ => push n
where
  /-- The token's text takes the place of its operands' texts. -/
  push (n : Nat) : Except RenderError State := do
    let args := (st.stack.take n).reverse
    let text ← tokenText names origin index st.lead st.close args t
    return ⟨text :: st.stack.drop n, none⟩

end Render

/-- The text of a formula in the cell `origin`, without a leading equals sign. -/
def render (tokens : List Token) (names : Names) (origin : Cell) : Except RenderError String := do
  let st ← tokens.zipIdx.foldlM (fun st (t, i) => Render.step names origin st i t) ⟨[], none⟩
  match st.stack with
  | [text] => return String.ofList text
  | stack => throw (.stackNotSingular stack.length)

end Spreadsheet
