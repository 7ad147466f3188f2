/-!
Texts as sequences of 16-bit units.

A character up to `U+FFFF` is one unit, any other a high surrogate and a low one. A sequence is
the form of a text exactly when its surrogates come in such pairs.
-/

namespace Spreadsheet.Text

/-- The units of one character. -/
def charUnits (c : Char) : List UInt16 :=
  let n := c.toNat
  if n < 0x10000 then [n.toUInt16]
  else [(0xD800 + (n - 0x10000) / 0x400).toUInt16, (0xDC00 + (n - 0x10000) % 0x400).toUInt16]

def units16 (cs : List Char) : List UInt16 := cs.flatMap charUnits

def isHighSurrogate (u : UInt16) : Bool := 0xD800 ≤ u.toNat && u.toNat < 0xDC00

def isLowSurrogate (u : UInt16) : Bool := 0xDC00 ≤ u.toNat && u.toNat < 0xE000

/-- The characters that units stand for, unless a surrogate stands alone. -/
def ofUnits16? : List UInt16 → Option (List Char)
  | [] => some []
  | u :: rest =>
    if isLowSurrogate u then none
    else if isHighSurrogate u then
      match rest with
      | v :: rest =>
        if isLowSurrogate v then
          (ofUnits16? rest).map
            (Char.ofNat (0x10000 + (u.toNat - 0xD800) * 0x400 + (v.toNat - 0xDC00)) :: ·)
        else none
      | [] => none
    else (ofUnits16? rest).map (Char.ofNat u.toNat :: ·)

end Spreadsheet.Text
