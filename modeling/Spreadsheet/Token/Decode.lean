import Spreadsheet.Text.Hex
import Spreadsheet.Token.Basic
import Spreadsheet.Token.Bytes

/-!
Reading stored formulas.

A token is read in two steps: its payload from the formula, and then what it keeps in the data
block behind the formula. An error names the position of the token it was met in, also when the
fault lies in the data block.
-/

namespace Spreadsheet

/-- What is wrong with the token at some position. -/
inductive DecodeFault
  | unexpectedEnd (opcode : UInt8) (needed remaining : Nat)
  | unsupported (opcode : UInt8)
  | errorCode (code : UInt8)
  | textFlags (flags : UInt8)
  | loneSurrogate
  | elementKind (kind : UInt8)
  | truncatedData (opcode : UInt8)
  deriving DecidableEq, Repr

structure DecodeError where
  /-- The position of the token in the formula. -/
  offset : Nat
  fault : DecodeFault
  deriving DecidableEq, Repr

/-- A byte as two lower-case hexadecimal digits behind `0x`. -/
def hexByte (b : UInt8) : String :=
  String.ofList ('0' :: 'x' :: Text.Hex.ofByte b)

def DecodeError.message (e : DecodeError) : String :=
  let here := " at offset " ++ toString e.offset
  match e.fault with
  | .unexpectedEnd opcode needed remaining =>
    "unexpected end of rgce" ++ here ++ " (ptg=" ++ hexByte opcode ++ ", needed " ++
      toString needed ++ " bytes, " ++ toString remaining ++ " remaining)"
  | .unsupported opcode => "unsupported ptg " ++ hexByte opcode ++ here
  | .errorCode code => "invalid error code " ++ hexByte code ++ here
  | .textFlags flags => "invalid string flags " ++ hexByte flags ++ here
  | .loneSurrogate => "invalid UTF-16 string" ++ here
  | .elementKind kind =>
    "invalid array element type " ++ hexByte kind ++ " for token" ++ here
  | .truncatedData opcode =>
    "rgcb data for token" ++ here ++ " (ptg=" ++ hexByte opcode ++ ") is truncated"

namespace Decode

/-- The error in the next byte. -/
def cellError : Reader CellError := do
  let code ← Reader.u8
  match CellError.ofCode? code with
  | some e => return e
  | none => Reader.fail (.errorCode code)

/-- A text behind its length, which takes `width` bytes, and a byte for its form. -/
def text (width : Nat) : Reader StoredText := do
  let length ← Reader.number width
  let flags ← Reader.u8
  if flags = 0 then
    let raw ← Reader.bytes length
    return ⟨String.ofList (raw.toList.map fun b => Char.ofNat b.toNat), false⟩
  else if flags = 1 then
    let raw ← Reader.bytes (2 * length)
    match Text.ofUnits16? (units raw.toList) with
    | some cs => return ⟨String.ofList cs, true⟩
    | none => Reader.fail .loneSurrogate
  else Reader.fail (.textFlags flags)
where
  /-- Bytes two by two, the low one first. -/
  units : List UInt8 → List UInt16
    | lo :: hi :: rest => (ofLEBytes [lo, hi]).toUInt16 :: units rest
    | _ => []

def element : Reader ArrayElement := do
  let kind ← Reader.u8
  if kind = 0x00 then return .empty (← Reader.bytes 8)
  else if kind = 0x01 then return .number (← Reader.u64)
  else if kind = 0x02 then return .text (← text 2)
  else if kind = 0x04 then
    let raw ← Reader.u8
    return .bool raw (← Reader.bytes 7)
  else if kind = 0x10 then
    let e ← cellError
    return .error e (← Reader.bytes 7)
  else Reader.fail (.elementKind kind)

def array : Reader ArrayConstant := do
  let cols := (← Reader.number 1) + 1
  let rows := (← Reader.number 2) + 1
  return ⟨rows, cols, ← Reader.times (rows * cols) element⟩

def attr : Reader Attribute := do
  let flags ← Reader.u8
  let data ← Reader.u16
  if flags = 0x01 then return .volatile data
  else if flags = 0x02 then return .ifJump data
  else if flags = 0x04 then return .choose (← Reader.times (data.toNat + 1) Reader.u16)
  else if flags = 0x08 then return .goto data
  else if flags = 0x10 then return .sum data
  else if flags = 0x20 ∨ flags = 0x21 then return .assignment (flags = 0x21) data
  else if flags = 0x40 ∨ flags = 0x41 then
    return .space (Spacing.ofCode data.toUInt8) (data / 0x100).toUInt8 (flags = 0x41)
  else return .other flags data

/-- The column of a column field, and whether the row and the column are relative. -/
def splitColField (field : Nat) : Nat × Bool × Bool :=
  (field % 0x4000, field / 0x4000 % 2 = 1, field / 0x8000 % 2 = 1)

def toAddress (row field : Nat) : Address :=
  let (col, rowRelative, colRelative) := splitColField field
  ⟨row, col, rowRelative, colRelative⟩

def toOffset (row field : Nat) : OffsetAddress :=
  let (col, rowRelative, colRelative) := splitColField field
  ⟨row.toUInt16, col.toUInt16, rowRelative, colRelative⟩

/-- A row field and a column field. -/
def cornerFields (make : Nat → Nat → α) : Reader α := do
  let row ← Reader.number 2
  return make row (← Reader.number 2)

/-- Two row fields and two column fields. -/
def areaFields (make : Nat → Nat → α) : Reader (α × α) := do
  let row₁ ← Reader.number 2
  let row₂ ← Reader.number 2
  let col₁ ← Reader.number 2
  let col₂ ← Reader.number 2
  return (make row₁ col₁, make row₂ col₂)

def address : Reader Address := cornerFields toAddress

def areaAddress : Reader AreaAddress := do
  let (first, last) ← areaFields toAddress
  return ⟨first, last⟩

def offsetArea : Reader OffsetArea := do
  let (first, last) ← areaFields toOffset
  return ⟨first, last⟩

def storedArea : Reader StoredArea := do
  let (first, last) ← areaFields Cell.mk
  return ⟨first, last⟩

/-- A token of which the payload is read and the data block may still be wanted. -/
inductive Pending
  | done (t : Token)
  | array (cls : TokenClass) (reserved : Vector UInt8 7)
  | areas (cls : TokenClass) (reserved : Vector UInt8 4) (length : UInt16)

def memory (kind : MemoryKind) (cls : TokenClass) : Reader Pending := do
  let reserved ← if kind.hasReserved then Reader.bytes 4 else pure (.replicate 4 0)
  let length ← Reader.u16
  if kind = .areas then return .areas cls reserved length
  else return .done (.memory ⟨kind, cls, reserved, length, []⟩)

/-- The payload of a token of a given kind and class. -/
def payload (kind : TokenKind) (cls : TokenClass) : Reader Pending :=
  let done (r : Reader Token) : Reader Pending := do return .done (← r)
  let binary (op : BinaryOp) : Reader Pending := pure (.done (.binary op))
  let unary (op : UnaryOp) : Reader Pending := pure (.done (.unary op))
  match kind with
  | .exp => done do
    let row ← Reader.u16
    return .exp row (← Reader.u16)
  | .table => done do
    let row ← Reader.u16
    return .table row (← Reader.u16)
  | .add => binary .add
  | .sub => binary .sub
  | .mul => binary .mul
  | .div => binary .div
  | .power => binary .power
  | .concat => binary .concat
  | .lt => binary .lt
  | .le => binary .le
  | .eq => binary .eq
  | .ge => binary .ge
  | .gt => binary .gt
  | .ne => binary .ne
  | .intersection => binary .intersection
  | .union => binary .union
  | .range => binary .range
  | .plus => unary .plus
  | .minus => unary .minus
  | .percent => unary .percent
  | .paren => pure (.done .paren)
  | .missing => pure (.done .missing)
  | .text => done do return .text (← text 1)
  | .attr => done do return .attr (← attr)
  | .error => done do return .error (← cellError)
  | .bool => done do return .bool (← Reader.u8)
  | .int => done do return .int (← Reader.u16)
  | .num => done do return .num (← Reader.u64)
  | .array => do return .array cls (← Reader.bytes 7)
  | .func => done do return .func cls (← Reader.u16)
  | .funcVar => done do
    let argc ← Reader.u8
    let id ← Reader.u16
    return .funcVar cls (argc % 0x80) (0x80 ≤ argc) (id % 0x8000) (0x8000 ≤ id)
  | .name => done do
    let index ← Reader.u16
    return .name cls index (← Reader.u16)
  | .nameX => done do
    let link ← Reader.u16
    let index ← Reader.u16
    return .nameX cls link index (← Reader.u16)
  | .ref => done do return .ref cls (← address)
  | .area => done do return .area cls (← areaAddress)
  | .memArea => memory .areas cls
  | .memErr => memory .error cls
  | .memNoMem => memory .notStored cls
  | .memFunc => memory .function cls
  | .memAreaN => memory .areasRelative cls
  | .memNoMemN => memory .notStoredRelative cls
  | .refErr => done do return .refErr cls (← Reader.bytes 4)
  | .areaErr => done do return .areaErr cls (← Reader.bytes 8)
  | .refN => done do return .refN cls (← cornerFields toOffset)
  | .areaN => done do return .areaN cls (← offsetArea)
  | .ref3d => done do
    let link ← Reader.u16
    return .ref3d cls link (← address)
  | .area3d => done do
    let link ← Reader.u16
    return .area3d cls link (← areaAddress)
  | .refErr3d => done do
    let link ← Reader.u16
    return .refErr3d cls link (← Reader.bytes 4)
  | .areaErr3d => done do
    let link ← Reader.u16
    return .areaErr3d cls link (← Reader.bytes 8)

/-- Reads from the data block what the token keeps there. -/
def Pending.complete : Pending → Reader Token
  | done t => pure t
  | array cls reserved => do return .array cls reserved (← Decode.array)
  | areas cls reserved length => do
    let count ← Reader.number 2
    return .memory ⟨.areas, cls, reserved, length, ← Reader.times count storedArea⟩

/-- A fault in the payload of a token. -/
def inPayload (opcode : UInt8) : PayloadFault → DecodeFault
  | .endOfBytes needed remaining => .unexpectedEnd opcode needed remaining
  | .errorCode code => .errorCode code
  | .textFlags flags => .textFlags flags
  | .loneSurrogate => .loneSurrogate
  | .elementKind kind => .elementKind kind

/-- A fault in the data block. Where it ends early, only the token is reported. -/
def inData (opcode : UInt8) : PayloadFault → DecodeFault
  | .endOfBytes _ _ => .truncatedData opcode
  | fault => inPayload opcode fault

/-- One token off the front of a formula whose first opcode has been read: the token, and what is
left of the formula and of the data block. -/
def token (opcode : UInt8) (code data : List UInt8) :
    Except DecodeFault (Token × { rest : List UInt8 // rest.length ≤ code.length } × List UInt8) :=
  match TokenKind.split? opcode with
  | none => .error (.unsupported opcode)
  | some (kind, cls) =>
    match payload kind (cls.getD .reference) code with
    | .error fault => .error (inPayload opcode fault)
    | .ok ⟨pending, rest, h⟩ =>
      match pending.complete data with
      | .error fault => .error (inData opcode fault)
      | .ok ⟨t, data, _⟩ => .ok (t, ⟨rest, h.length_le⟩, data)

/-- All tokens of what is left of a formula of `total` bytes, and the unread part of the data
block. -/
def tokens (total : Nat) (code data : List UInt8) :
    Except DecodeError (List Token × List UInt8) :=
  match code with
  | [] => .ok ([], data)
  | opcode :: rest =>
    match token opcode rest data with
    | .error fault => .error ⟨total - (rest.length + 1), fault⟩
    | .ok (t, ⟨rest', _⟩, data) => do
      let (ts, data) ← tokens total rest' data
      return (t :: ts, data)
termination_by code.length
decreasing_by simp only [List.length_cons]; omega

end Decode

/-- The tokens of a stored formula, and what its data block holds beyond them. -/
def decodeWithRest (code data : List UInt8) : Except DecodeError (List Token × List UInt8) :=
  Decode.tokens code.length code data

/-- The tokens of a stored formula. Whatever its data block holds beyond them is ignored. -/
def decode (code data : List UInt8) : Except DecodeError (List Token) :=
  (decodeWithRest code data).map (·.1)

end Spreadsheet
