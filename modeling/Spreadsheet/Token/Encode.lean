import Spreadsheet.Text.Displayed
import Spreadsheet.Token.Basic
import Spreadsheet.Token.Bytes

/-!
The stored form of formulas.

The tokens of a formula stand back to back, each as its opcode and its payload. Array constants
and lists of known areas have no bounded size; they follow the formula in a data block of their
own, in the order of their tokens.

Everything a token holds is written, bytes without a meaning included. A token with a part that
does not fit its field is refused.
-/

namespace Spreadsheet

inductive EncodeError
  | textTooLong (length max : Nat)
  | notCompressible (c : Char)
  | arrayTooLarge (rows cols : Nat)
  | addressOutOfRange (row col : Nat)
  | tooManyArguments (argc : UInt8)
  | functionOutOfRange (id : UInt16)
  | listTooLong (length : Nat)
  deriving DecidableEq, Repr

def EncodeError.message : EncodeError → String
  | textTooLong length max =>
    "string of " ++ toString length ++ " characters exceeds the " ++ toString max ++
      " character limit"
  | notCompressible c =>
    "character " ++ Text.quotedChar c ++ " cannot be stored in a compressed string"
  | arrayTooLarge rows cols =>
    "array constant of " ++ toString rows ++ "x" ++ toString cols ++
      " does not fit the value block"
  | addressOutOfRange row col =>
    "cell address " ++ toString row ++ ":" ++ toString col ++ " is outside the encodable grid"
  | tooManyArguments argc => "argument count " ++ toString argc.toNat ++ " exceeds 127"
  | functionOutOfRange id => "function id " ++ toString id.toNat ++ " exceeds 0x7FFF"
  | listTooLong length =>
    "list of " ++ toString length ++ " entries does not fit a 16-bit count"

/-- A stored formula: its tokens, and the data block behind them. -/
structure Stored where
  code : List UInt8
  data : List UInt8
  deriving DecidableEq, Repr, Inhabited

namespace Encode

def u16 (n : UInt16) : List UInt8 := leBytes 2 n.toNat

def u64 (n : UInt64) : List UInt8 := leBytes 8 n.toNat

/-- The column field of an address: 14 bits of column, a bit for a relative row and one for a
relative column. -/
def colField (col : Nat) (rowRelative colRelative : Bool) : Nat :=
  col % 0x4000 + (if rowRelative then 0x4000 else 0) + (if colRelative then 0x8000 else 0)

/-- The characters of a text in the form it asks for. -/
def chars (s : StoredText) : Except EncodeError (List UInt8) :=
  if s.wide then .ok ((Text.units16 s.text.toList).flatMap u16)
  else s.text.toList.mapM fun c =>
    if c.toNat ≤ 0xFF then .ok c.toNat.toUInt8 else .error (.notCompressible c)

/-- A text behind its length, which takes `width` bytes, and a byte for its form. -/
def text (width : Nat) (s : StoredText) : Except EncodeError (List UInt8) := do
  let max := Nat.pow 256 width - 1
  if max < s.storedLength then throw (.textTooLong s.storedLength max)
  return leBytes width s.storedLength ++ (if s.wide then 1 else 0) :: (← chars s)

def element : ArrayElement → Except EncodeError (List UInt8)
  | .empty reserved => .ok (0x00 :: reserved.toList)
  | .number bits => .ok (0x01 :: u64 bits)
  | .text s => do return 0x02 :: (← text 2 s)
  | .bool raw reserved => .ok (0x04 :: raw :: reserved.toList)
  | .error e reserved => .ok (0x10 :: e.code :: reserved.toList)

/-- The columns and the rows, each less one, and then the elements. -/
def array (a : ArrayConstant) : Except EncodeError (List UInt8) := do
  if ¬ a.WellShaped ∨ 256 < a.cols ∨ 65536 < a.rows then throw (.arrayTooLarge a.rows a.cols)
  return leBytes 1 (a.cols - 1) ++ leBytes 2 (a.rows - 1) ++ (← a.values.mapM element).flatten

def attr (a : Attribute) : List UInt8 :=
  a.flags :: match a with
    | .volatile data | .sum data | .assignment _ data | .other _ data => u16 data
    | .ifJump offset | .goto offset => u16 offset
    | .choose offsets => u16 (offsets.length - 1).toUInt16 ++ offsets.flatMap u16
    | .space spacing count _ => [spacing.code, count]

/-- The two fields of an address, unless it is off the storable grid. -/
def addressFields (a : Address) : Except EncodeError (List UInt8 × List UInt8) :=
  if 0xFFFF < a.row ∨ 0x3FFF < a.col then .error (.addressOutOfRange a.row a.col)
  else .ok (leBytes 2 a.row, leBytes 2 (colField a.col a.rowRelative a.colRelative))

def address (a : Address) : Except EncodeError (List UInt8) := do
  let (row, col) ← addressFields a
  return row ++ col

/-- Both rows, then both columns. -/
def areaAddress (a : AreaAddress) : Except EncodeError (List UInt8) := do
  let (row₁, col₁) ← addressFields a.first
  let (row₂, col₂) ← addressFields a.last
  return row₁ ++ row₂ ++ col₁ ++ col₂

def offsetCol (a : OffsetAddress) : List UInt8 :=
  leBytes 2 (colField a.col.toNat a.rowRelative a.colRelative)

def storedArea (a : StoredArea) : Except EncodeError (List UInt8) :=
  let parts := [a.first.row, a.last.row, a.first.col, a.last.col]
  if parts.any (0xFFFF < ·) then .error (.addressOutOfRange a.last.row a.last.col)
  else .ok (parts.flatMap (leBytes 2))

/-- The list of areas behind a formula, where the note has one. -/
def memoryData (m : Memory) : Except EncodeError (List UInt8) := do
  if m.kind ≠ .areas then return []
  if 0xFFFF < m.areas.length then throw (.listTooLong m.areas.length)
  return leBytes 2 m.areas.length ++ (← m.areas.mapM storedArea).flatten

/-- The payload of a token. -/
def payload : Token → Except EncodeError (List UInt8)
  | .exp row col | .table row col => .ok (u16 row ++ u16 col)
  | .binary _ | .unary _ | .paren | .missing => .ok []
  | .text s => text 1 s
  | .attr a => .ok (attr a)
  | .error e => .ok [e.code]
  | .bool raw => .ok [raw]
  | .int n => .ok (u16 n)
  | .num bits => .ok (u64 bits)
  | .array _ reserved _ => .ok reserved.toList
  | .func _ id => .ok (u16 id)
  | .funcVar _ argc prompt id command => do
    if 0x7F < argc then throw (.tooManyArguments argc)
    if 0x7FFF < id then throw (.functionOutOfRange id)
    return (argc + if prompt then 0x80 else 0) :: u16 (id + if command then 0x8000 else 0)
  | .name _ index reserved => .ok (u16 index ++ u16 reserved)
  | .nameX _ link index reserved => .ok (u16 link ++ u16 index ++ u16 reserved)
  | .ref _ a => address a
  | .area _ a => areaAddress a
  | .memory m => .ok ((if m.kind.hasReserved then m.reserved.toList else []) ++ u16 m.length)
  | .refErr _ reserved => .ok reserved.toList
  | .areaErr _ reserved => .ok reserved.toList
  | .refN _ a => .ok (u16 a.row ++ offsetCol a)
  | .areaN _ a => .ok (u16 a.first.row ++ u16 a.last.row ++ offsetCol a.first ++ offsetCol a.last)
  | .ref3d _ link a => do return u16 link ++ (← address a)
  | .area3d _ link a => do return u16 link ++ (← areaAddress a)
  | .refErr3d _ link reserved => .ok (u16 link ++ reserved.toList)
  | .areaErr3d _ link reserved => .ok (u16 link ++ reserved.toList)

/-- What a token adds to the data block. -/
def data : Token → Except EncodeError (List UInt8)
  | .array _ _ value => array value
  | .memory m => memoryData m
  | _ => .ok []

def token (t : Token) : Except EncodeError Stored := do
  return ⟨t.opcode :: (← payload t), ← data t⟩

end Encode

/-- The stored form of a formula. The first token that cannot be stored is reported. -/
def encode : List Token → Except EncodeError Stored
  | [] => .ok ⟨[], []⟩
  | t :: ts => do
    let first ← Encode.token t
    let rest ← encode ts
    return ⟨first.code ++ rest.code, first.data ++ rest.data⟩

end Spreadsheet
