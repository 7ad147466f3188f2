import Spreadsheet.Number.Binary64

/-!
Decimal digits of doubles.

`round15` keeps fifteen significant digits, a half going to the even neighbour. `shortest` finds
the fewest digits that read back as the same double: for one digit, two digits and so on it tries
the two neighbours of the number on that decimal grid, and of two neighbours that both read back
it takes the nearer one.
-/

namespace Spreadsheet.Number

/-- A positive decimal number, `digits * 10 ^ exponent`. -/
structure Decimal where
  digits : Nat
  exponent : Int
  deriving DecidableEq, Repr

/-- How many decimal digits a number has; zero has one. -/
def digitCount (n : Nat) : Nat := (Nat.toDigits 10 n).length

/-- The exponent of the leading decimal digit of the positive fraction `num / den`. -/
def leadingExponent (num den : Nat) : Int :=
  if den ≤ num then (digitCount (num / den) : Int) - 1
  else -(digitCount ((den - 1) / num) : Int)

/-- The quotient rounded to the nearest integer, a half going to the even neighbour. -/
def roundDiv (num den : Nat) : Nat :=
  let q := num / den
  let r := num % den
  if 2 * r < den then q
  else if den < 2 * r then q + 1
  else q + q % 2

/-- The fraction `num / den` counted in steps of `10 ^ exponent`, again as a fraction. -/
def inSteps (num den : Nat) (exponent : Int) : Nat × Nat :=
  (num * Nat.pow 10 (-exponent).toNat, den * Nat.pow 10 exponent.toNat)

/-- A positive magnitude to fifteen significant digits. -/
def Magnitude.round15 (v : Magnitude) : Decimal :=
  let (num, den) := v.ratio
  let step := leadingExponent num den - 14
  let (n, d) := inSteps num den step
  ⟨roundDiv n d, step⟩

/-- The decimal `digits * 10 ^ exponent` lies among the reals that round to `v`, the two ends of
that interval counting when the mantissa is even. All is scaled to quarters of a unit in the last
place. -/
def Magnitude.readsBack (v : Magnitude) (digits : Nat) (exponent : Int) : Bool :=
  let quarter := v.exponent - 2
  let x := digits * Nat.pow 10 exponent.toNat * Nat.pow 2 (-quarter).toNat
  let unit := Nat.pow 10 (-exponent).toNat * Nat.pow 2 quarter.toNat
  let low := (4 * v.mantissa - if v.narrowBelow then 1 else 2) * unit
  let high := (4 * v.mantissa + 2) * unit
  if v.mantissa % 2 = 0 then low ≤ x && x ≤ high else low < x && x < high

/-- The better of the two neighbours of `v` on the grid of steps `10 ^ step`, if one reads back. -/
def Magnitude.onGrid? (v : Magnitude) (step : Int) : Option Decimal :=
  let (num, den) := v.ratio
  let (n, d) := inSteps num den step
  let below := n / d
  let nearest := if 2 * (n % d) ≤ d then below else below + 1
  let other := if 2 * (n % d) ≤ d then below + 1 else below
  if v.readsBack nearest step then some ⟨nearest, step⟩
  else if v.readsBack other step then some ⟨other, step⟩
  else none

/-- The shortest decimal that reads back as `v`. Seventeen digits always suffice. -/
def Magnitude.shortest (v : Magnitude) : Decimal :=
  let (num, den) := v.ratio
  let lead := leadingExponent num den
  ((List.range 17).findSome? fun (k : Nat) => v.onGrid? (lead - k)).getD v.round15

end Spreadsheet.Number
