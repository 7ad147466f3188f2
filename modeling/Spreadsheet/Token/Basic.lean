import Spreadsheet.Grid.Offset
import Spreadsheet.Token.ArrayConstant
import Spreadsheet.Token.FunctionTable
import Spreadsheet.Token.Opcode

/-!
Tokens of formulas.

A formula is a list of tokens in postfix order: operands push one result, operators take some and
push one. Other tokens only carry notes about the text or the history of the formula.
-/

namespace Spreadsheet

inductive BinaryOp
  | add | sub | mul | div | power | concat
  | lt | le | eq | ge | gt | ne
  | intersection | union | range
  deriving DecidableEq, Repr, Inhabited

namespace BinaryOp

def kind : BinaryOp → TokenKind
  | add => .add
  | sub => .sub
  | mul => .mul
  | div => .div
  | power => .power
  | concat => .concat
  | lt => .lt
  | le => .le
  | eq => .eq
  | ge => .ge
  | gt => .gt
  | ne => .ne
  | intersection => .intersection
  | union => .union
  | range => .range

def symbol : BinaryOp → String
  | add => "+"
  | sub => "-"
  | mul => "*"
  | div => "/"
  | power => "^"
  | concat => "&"
  | lt => "<"
  | le => "<="
  | eq => "="
  | ge => ">="
  | gt => ">"
  | ne => "<>"
  | intersection => " "
  | union => ","
  | range => ":"

def isComparison : BinaryOp → Bool
  | lt | le | eq | ge | gt | ne => true
  | _ => false

/-- The operators on references themselves and not on their values. -/
def isReferenceOperator : BinaryOp → Bool
  | intersection | union | range => true
  | _ => false

end BinaryOp

inductive UnaryOp
  | plus
  | minus
  /-- Division by a hundred, written behind its operand. -/
  | percent
  deriving DecidableEq, Repr, Inhabited

def UnaryOp.kind : UnaryOp → TokenKind
  | plus => .plus
  | minus => .minus
  | percent => .percent

/-- Where blanks of the formula's text stand. -/
inductive Spacing
  | spaceBefore
  | breakBefore
  | spaceBeforeOpen
  | breakBeforeOpen
  | spaceBeforeClose
  | breakBeforeClose
  | spaceBeforeFormula
  /-- A code without a meaning. -/
  | other (code : UInt8)
  deriving DecidableEq, Repr, Inhabited

namespace Spacing

def code : Spacing → UInt8
  | spaceBefore => 0
  | breakBefore => 1
  | spaceBeforeOpen => 2
  | breakBeforeOpen => 3
  | spaceBeforeClose => 4
  | breakBeforeClose => 5
  | spaceBeforeFormula => 6
  | other b => b

def known : List Spacing :=
  [spaceBefore, breakBefore, spaceBeforeOpen, breakBeforeOpen, spaceBeforeClose, breakBeforeClose,
   spaceBeforeFormula]

def ofCode (b : UInt8) : Spacing := (known.find? (·.code == b)).getD (.other b)

def isLineBreak : Spacing → Bool
  | breakBefore | breakBeforeOpen | breakBeforeClose => true
  | _ => false

def isBeforeClose : Spacing → Bool
  | spaceBeforeClose | breakBeforeClose => true
  | _ => false

end Spacing

/-- Notes between the tokens of a formula. -/
inductive Attribute
  /-- The formula is recomputed whenever anything is. -/
  | volatile (data : UInt16)
  /-- Where to go on if a condition fails. -/
  | ifJump (offset : UInt16)
  /-- Where the choices of a selection start and where they end. -/
  | choose (offsets : List UInt16)
  | goto (offset : UInt16)
  /-- The sum of one argument. -/
  | sum (data : UInt16)
  | assignment (volatile : Bool) (data : UInt16)
  | space (spacing : Spacing) (count : UInt8) (volatile : Bool)
  /-- Flags without a meaning. -/
  | other (flags : UInt8) (data : UInt16)
  deriving DecidableEq, Repr, Inhabited

/-- The byte of flags that tells attributes apart. -/
def Attribute.flags : Attribute → UInt8
  | volatile _ => 0x01
  | ifJump _ => 0x02
  | choose _ => 0x04
  | goto _ => 0x08
  | sum _ => 0x10
  | assignment v _ => if v then 0x21 else 0x20
  | space _ _ v => if v then 0x41 else 0x40
  | other flags _ => flags

/-- How the precomputed areas of a reference expression were stored. -/
inductive MemoryKind
  /-- A list of areas follows the formula. -/
  | areas
  | error
  | notStored
  | function
  | areasRelative
  | notStoredRelative
  deriving DecidableEq, Repr, Inhabited

def MemoryKind.kind : MemoryKind → TokenKind
  | areas => .memArea
  | error => .memErr
  | notStored => .memNoMem
  | function => .memFunc
  | areasRelative => .memAreaN
  | notStoredRelative => .memNoMemN

/-- Four bytes without a meaning precede the length. -/
def MemoryKind.hasReserved : MemoryKind → Bool
  | areas | error | notStored => true
  | _ => false

/-- A rectangle as stored, its corners in any order. -/
structure StoredArea where
  first : Cell
  last : Cell
  deriving DecidableEq, Repr, Inhabited

/-- A note that the next `length` bytes of the formula compute known areas. -/
structure Memory where
  kind : MemoryKind
  cls : TokenClass
  reserved : Vector UInt8 4
  length : UInt16
  areas : List StoredArea
  deriving DecidableEq, Repr, Inhabited

inductive Token
  /-- The cell belongs to the shared or array formula anchored there. -/
  | exp (row col : UInt16)
  /-- The cell belongs to the data table anchored there. -/
  | table (row col : UInt16)
  | binary (op : BinaryOp)
  | unary (op : UnaryOp)
  | paren
  /-- An argument that was left out. -/
  | missing
  | text (s : StoredText)
  | attr (a : Attribute)
  | error (e : CellError)
  /-- Any byte but zero is true. -/
  | bool (raw : UInt8)
  | int (n : UInt16)
  | num (bits : UInt64)
  | array (cls : TokenClass) (reserved : Vector UInt8 7) (value : ArrayConstant)
  /-- A call of a function that always takes as many arguments. -/
  | func (cls : TokenClass) (id : UInt16)
  | funcVar (cls : TokenClass) (argc : UInt8) (prompt : Bool) (id : UInt16) (command : Bool)
  /-- A defined name by its number, which starts at one. -/
  | name (cls : TokenClass) (index reserved : UInt16)
  /-- A name of another workbook or of an add-in. -/
  | nameX (cls : TokenClass) (link index reserved : UInt16)
  | ref (cls : TokenClass) (addr : Address)
  | area (cls : TokenClass) (area : AreaAddress)
  | memory (m : Memory)
  | refErr (cls : TokenClass) (reserved : Vector UInt8 4)
  | areaErr (cls : TokenClass) (reserved : Vector UInt8 8)
  | refN (cls : TokenClass) (addr : OffsetAddress)
  | areaN (cls : TokenClass) (area : OffsetArea)
  | ref3d (cls : TokenClass) (link : UInt16) (addr : Address)
  | area3d (cls : TokenClass) (link : UInt16) (area : AreaAddress)
  | refErr3d (cls : TokenClass) (link : UInt16) (reserved : Vector UInt8 4)
  | areaErr3d (cls : TokenClass) (link : UInt16) (reserved : Vector UInt8 8)
  deriving DecidableEq, Repr, Inhabited

/-- What a token does when a formula is evaluated. -/
inductive TokenRole
  /-- It takes operands and pushes one result. -/
  | operator
  /-- It pushes a value. -/
  | operand
  /-- It pushes a reference. -/
  | reference
  /-- It does nothing. -/
  | control
  deriving DecidableEq, Repr

/-- How many operands a token takes. -/
inductive Arity
  | standalone
  | unary
  | binary
  /-- As many as the function table or the token says. -/
  | varying
  deriving DecidableEq, Repr

namespace Token

def kind : Token → TokenKind
  | exp .. => .exp
  | table .. => .table
  | binary op => op.kind
  | unary op => op.kind
  | paren => .paren
  | missing => .missing
  | text _ => .text
  | attr _ => .attr
  | error _ => .error
  | bool _ => .bool
  | int _ => .int
  | num _ => .num
  | array .. => .array
  | func .. => .func
  | funcVar .. => .funcVar
  | name .. => .name
  | nameX .. => .nameX
  | ref .. => .ref
  | area .. => .area
  | memory m => m.kind.kind
  | refErr .. => .refErr
  | areaErr .. => .areaErr
  | refN .. => .refN
  | areaN .. => .areaN
  | ref3d .. => .ref3d
  | area3d .. => .area3d
  | refErr3d .. => .refErr3d
  | areaErr3d .. => .areaErr3d

def class? : Token → Option TokenClass
  | array cls .. | func cls .. | funcVar cls .. | name cls .. | nameX cls .. | ref cls ..
  | area cls .. | refErr cls .. | areaErr cls .. | refN cls .. | areaN cls .. | ref3d cls ..
  | area3d cls .. | refErr3d cls .. | areaErr3d cls .. => some cls
  | memory m => some m.cls
  | _ => none

def opcode (t : Token) : UInt8 := t.kind.opcode t.class?

def role : Token → TokenRole
  | binary _ | unary _ | func .. | funcVar .. | attr (.sum _) => .operator
  | attr _ | paren | memory _ => .control
  | name .. | nameX .. | ref .. | area .. | refErr .. | areaErr .. | refN .. | areaN .. | ref3d ..
  | area3d .. | refErr3d .. | areaErr3d .. => .reference
  | exp .. | table .. | missing | text _ | error _ | bool _ | int _ | num _ | array .. => .operand

def isOperator (t : Token) : Bool := t.role = .operator

/-- References are operands too. -/
def isOperand (t : Token) : Bool := t.role = .operand || t.role = .reference

def isReference (t : Token) : Bool := t.role = .reference

def isControl (t : Token) : Bool := t.role = .control

def arity : Token → Arity
  | binary _ => .binary
  | unary _ | attr (.sum _) => .unary
  | func .. | funcVar .. => .varying
  | _ => .standalone

/-- How many results a token takes from the stack. It is not known for a call without a count of a
function that is not in the table or takes a varying number. -/
def operandCount? : Token → Option Nat
  | func _ id => FunctionTable.fixedArity? id
  | funcVar _ argc .. => some argc.toNat
  | binary _ => some 2
  | unary _ | attr (.sum _) => some 1
  | _ => some 0

/-- A reference to one cell, wanted for its value. -/
def ofAddress (a : Address) : Token := .ref .value a

/-- A reference to an area, wanted as such. -/
def ofArea (a : AreaAddress) : Token := .area .reference a

def ofBool (b : Bool) : Token := .bool (if b then 1 else 0)

def ofString (s : String) : Token := .text (.ofString s)

/-- A call with a given number of arguments. -/
def call (id : UInt16) (argc : UInt8) : Token := .funcVar .value argc false id false

/-- A call of a function that always takes as many arguments. -/
def fixedCall (id : UInt16) : Token := .func .value id

end Token

end Spreadsheet
