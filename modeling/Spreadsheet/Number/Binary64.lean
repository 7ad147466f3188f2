/-!
Double-precision numbers as exact integers.

A finite double is a sign, a natural mantissa and a power of two. The mantissa and the exponent
are read off the bits, so every later question about digits is a question about natural numbers.
-/

namespace Spreadsheet.Number

/-- The magnitude of a finite double, `mantissa * 2 ^ exponent`. -/
structure Magnitude where
  mantissa : Nat
  exponent : Int
  /-- The gap below this number is half the gap above it, because it is a power of two. -/
  narrowBelow : Bool
  deriving DecidableEq, Repr

/-- What the hidden leading bit is worth above a fraction of 52 bits. -/
def hiddenBit : Nat := 0x10000000000000

/-- The magnitude stored in the low 63 bits: a fraction of 52 bits under a biased exponent, where
an exponent field of zero stands for numbers without the hidden leading bit. -/
def Magnitude.ofBits (bits : UInt64) : Magnitude :=
  let fraction := bits.toNat % hiddenBit
  let field : Nat := bits.toNat / hiddenBit % 2048
  if field = 0 then ⟨fraction, -1074, false⟩
  else ⟨fraction + hiddenBit, field - 1075, fraction = 0 && 1 < field⟩

def Magnitude.ofFloat (x : Float) : Magnitude := .ofBits x.toBits

/-- The sign bit, which minus zero has too. -/
def isNegative (x : Float) : Bool := 0x8000000000000000 ≤ x.toBits.toNat

/-- The magnitude as a fraction of two natural numbers. -/
def Magnitude.ratio (v : Magnitude) : Nat × Nat :=
  (v.mantissa * Nat.pow 2 v.exponent.toNat, Nat.pow 2 (-v.exponent).toNat)

/-- The double nearest to `significand * 10 ^ exponent`, infinite when that is out of range. -/
def scientific (significand : Nat) (exponent : Int) : Float :=
  Float.ofScientific significand (exponent < 0) exponent.natAbs

end Spreadsheet.Number
