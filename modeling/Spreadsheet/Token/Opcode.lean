/-!
The opcodes of stored formulas.

An opcode names a kind of token. The kinds that stand for operands exist in three classes, which
say how the operand is used; their opcodes hold the class in bits 5 and 6.

`split?` takes an opcode apart and `TokenKind.opcode` puts it together.
-/

namespace Spreadsheet

/-- What a formula wants of an operand. -/
inductive TokenClass
  /-- A reference as such. -/
  | reference
  /-- One value. -/
  | value
  /-- All values, laid out as an array. -/
  | array
  deriving DecidableEq, Repr, Inhabited

def TokenClass.bits : TokenClass → UInt8
  | reference => 0x20
  | value => 0x40
  | array => 0x60

def TokenClass.all : List TokenClass := [reference, value, array]

inductive TokenKind
  | exp | table
  | add | sub | mul | div | power | concat
  | lt | le | eq | ge | gt | ne
  | intersection | union | range
  | plus | minus | percent
  | paren | missing
  | text | attr | error | bool | int | num
  | array | func | funcVar | name | ref | area
  | memArea | memErr | memNoMem | memFunc
  | refErr | areaErr | refN | areaN
  | memAreaN | memNoMemN
  | nameX | ref3d | area3d | refErr3d | areaErr3d
  deriving DecidableEq, Repr, Inhabited

namespace TokenKind

/-- The opcode of a kind; for kinds with a class, in the class of references. -/
def base : TokenKind → UInt8
  | exp => 0x01
  | table => 0x02
  | add => 0x03
  | sub => 0x04
  | mul => 0x05
  | div => 0x06
  | power => 0x07
  | concat => 0x08
  | lt => 0x09
  | le => 0x0A
  | eq => 0x0B
  | ge => 0x0C
  | gt => 0x0D
  | ne => 0x0E
  | intersection => 0x0F
  | union => 0x10
  | range => 0x11
  | plus => 0x12
  | minus => 0x13
  | percent => 0x14
  | paren => 0x15
  | missing => 0x16
  | text => 0x17
  | attr => 0x19
  | error => 0x1C
  | bool => 0x1D
  | int => 0x1E
  | num => 0x1F
  | array => 0x20
  | func => 0x21
  | funcVar => 0x22
  | name => 0x23
  | ref => 0x24
  | area => 0x25
  | memArea => 0x26
  | memErr => 0x27
  | memNoMem => 0x28
  | memFunc => 0x29
  | refErr => 0x2A
  | areaErr => 0x2B
  | refN => 0x2C
  | areaN => 0x2D
  | memAreaN => 0x2E
  | memNoMemN => 0x2F
  | nameX => 0x39
  | ref3d => 0x3A
  | area3d => 0x3B
  | refErr3d => 0x3C
  | areaErr3d => 0x3D

def all : List TokenKind :=
  [exp, table, add, sub, mul, div, power, concat, lt, le, eq, ge, gt, ne, intersection, union,
   range, plus, minus, percent, paren, missing, text, attr, error, bool, int, num, array, func,
   funcVar, name, ref, area, memArea, memErr, memNoMem, memFunc, refErr, areaErr, refN, areaN,
   memAreaN, memNoMemN, nameX, ref3d, area3d, refErr3d, areaErr3d]

/-- Kinds of this opcode and above come in three classes. -/
def isClassed (k : TokenKind) : Bool := 0x20 ≤ k.base

def ofBase? (b : UInt8) : Option TokenKind := all.find? (·.base == b)

/-- The opcode of a kind in a class. Kinds without classes ignore it. -/
def opcode (k : TokenKind) (cls : Option TokenClass) : UInt8 :=
  match cls with
  | some c => if k.isClassed then k.base % 0x20 ||| c.bits else k.base
  | none => k.base

/-- The kind and the class of an opcode, if it is one. -/
def split? (b : UInt8) : Option (TokenKind × Option TokenClass) :=
  if 0x80 ≤ b then none
  else if b < 0x20 then (ofBase? b).map (·, none)
  else do
    let cls ← TokenClass.all.find? (·.bits == b &&& 0x60)
    let kind ← ofBase? (b % 0x20 ||| 0x20)
    return (kind, some cls)

end TokenKind

end Spreadsheet
