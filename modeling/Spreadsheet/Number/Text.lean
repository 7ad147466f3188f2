import Spreadsheet.Number.Decimal

/-!
Numbers as formula text and concatenation show them.

A number is cut to fifteen significant digits, read back as a double, and written with the fewest
digits that identify that double: positionally between `1e-19` and `1e21`, otherwise as a mantissa
and a signed exponent.
-/

namespace Spreadsheet.Number

/-- The significant digits without trailing zeros. -/
def Decimal.significant (d : Decimal) : List Char :=
  ((Nat.toDigits 10 d.digits).reverse.dropWhile (· = '0')).reverse

/-- The exponent of the leading digit. -/
def Decimal.lead (d : Decimal) : Int := d.exponent + digitCount d.digits - 1

/-- Positional notation, padded with zeros up to the decimal point on either side. -/
def Decimal.positional (d : Decimal) : List Char :=
  let ds := d.significant
  if d.lead < 0 then
    '0' :: '.' :: (List.replicate (-d.lead - 1).toNat '0' ++ ds)
  else
    let whole := d.lead.toNat + 1
    if ds.length ≤ whole then ds ++ List.replicate (whole - ds.length) '0'
    else ds.take whole ++ '.' :: ds.drop whole

/-- One digit before the point, then the exponent with its sign: `1.5E+21`. -/
def Decimal.exponential (d : Decimal) : List Char :=
  let mantissa := match d.significant with
    | [] => ['0']
    | [c] => [c]
    | c :: rest => c :: '.' :: rest
  let sign := if d.lead < 0 then '-' else '+'
  mantissa ++ 'E' :: sign :: Nat.toDigits 10 d.lead.natAbs

/-- A nonzero finite number cut to fifteen significant digits, of the same sign. The largest
doubles become infinite. -/
def cut15 (x : Float) : Float :=
  let d := (Magnitude.ofFloat x).round15
  let y := scientific d.digits d.exponent
  if isNegative x then -y else y

/-- The text of a number. Only numbers that are no numbers read `#NUM!`; one that leaves the range
of doubles when it is cut to fifteen digits reads `inf`. -/
def text (x : Float) : String :=
  if !x.isFinite then "#NUM!"
  else if x == 0 then "0"
  else
    let y := cut15 x
    let digits :=
      if !y.isFinite then "inf".toList
      else
        let d := (Magnitude.ofFloat y).shortest
        if 1e-19 ≤ y.abs && y.abs < 1e21 then d.positional else d.exponential
    String.ofList (if isNegative x then '-' :: digits else digits)

end Spreadsheet.Number
