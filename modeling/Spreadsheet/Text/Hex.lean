/-!
Bytes as hexadecimal digits, two for each byte, the high one first.

Reading accepts exactly what `ofBytes` writes.
-/

namespace Spreadsheet.Text.Hex

/-- The two lower-case digits of a byte. -/
def ofByte (b : UInt8) : List Char := [Nat.digitChar (b.toNat / 16), Nat.digitChar (b.toNat % 16)]

def ofBytes (bytes : List UInt8) : List Char := bytes.flatMap ofByte

/-- The value of a lower-case digit. -/
def digit? (c : Char) : Option Nat :=
  if c.isDigit then some (c.toNat - '0'.toNat)
  else if 'a' ≤ c ∧ c ≤ 'f' then some (c.toNat - 'a'.toNat + 10)
  else none

def toBytes? : List Char → Option (List UInt8)
  | [] => some []
  | hi :: lo :: rest => do
    let b := 16 * (← digit? hi) + (← digit? lo)
    return b.toUInt8 :: (← toBytes? rest)
  | _ => none

end Spreadsheet.Text.Hex
