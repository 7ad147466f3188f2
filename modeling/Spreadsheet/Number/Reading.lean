import Spreadsheet.Number.Binary64

/-!
Reading decimal literals.

A literal is digits with at most one point among, before or after them, and then possibly a
marked exponent. It carries no leading sign.
-/

namespace Spreadsheet.Number

/-- The number that decimal digits spell. -/
def ofDigits (ds : List Char) : Nat := ds.foldl (fun n c => 10 * n + (c.toNat - 48)) 0

theorem foldl_digits (n : Nat) (ds : List Char) :
    ds.foldl (fun n c => 10 * n + (c.toNat - 48)) n = n * Nat.pow 10 ds.length + ofDigits ds := by
  induction ds generalizing n with
  | nil => simp [ofDigits]
  | cons c ds ih =>
    have hpow : Nat.pow 10 (ds.length + 1) = 10 * Nat.pow 10 ds.length := Nat.pow_succ'
    rw [ofDigits, List.foldl_cons, List.foldl_cons, ih, ih (10 * 0 + _), List.length_cons, hpow]
    grind

theorem ofDigits_append (ds es : List Char) :
    ofDigits (ds ++ es) = ofDigits ds * Nat.pow 10 es.length + ofDigits es := by
  rw [ofDigits, List.foldl_append, foldl_digits, ← ofDigits]

/-- The number that decimal digits spell, put together from halves. For a long number this takes
far fewer steps than adding digit by digit. -/
def ofManyDigits (ds : List Char) : Nat :=
  if ds.length ≤ 500 then ofDigits ds
  else
    let low := ds.drop (ds.length / 2)
    ofManyDigits (ds.take (ds.length / 2)) * Nat.pow 10 low.length + ofManyDigits low
termination_by ds.length
decreasing_by
  · simp only [List.length_take]; omega
  · simp only [List.length_drop]; omega

theorem ofManyDigits_eq (ds : List Char) : ofManyDigits ds = ofDigits ds := by
  fun_induction ofManyDigits ds with
  | case1 => rfl
  | case2 ds _ low ihHigh ihLow => rw [ihHigh, ihLow, ← ofDigits_append, List.take_append_drop]

/-- An optional sign and the rest. -/
def splitSign : List Char → Bool × List Char
  | '-' :: rest => (true, rest)
  | '+' :: rest => (false, rest)
  | rest => (false, rest)

/-- The size of an exponent. Its digits count until they reach `2 ^ 16`; those behind are passed
over. -/
def exponentSize (ds : List Char) : Nat :=
  ds.foldl (fun n c => if n < UInt16.size then 10 * n + (c.toNat - 48) else n) 0

/-- The exponent that ends a literal: nothing, or a marker, an optional sign and digits. -/
def exponent? : List Char → Option Int
  | [] => some 0
  | marker :: rest =>
    if marker = 'e' ∨ marker = 'E' then
      let (negative, ds) := splitSign rest
      if ds.isEmpty || !ds.all Char.isDigit then none
      else some (if negative then -(exponentSize ds : Int) else exponentSize ds)
    else none

/-- The digits after a point, if there is one, and the rest. -/
def splitFraction : List Char → List Char × List Char
  | '.' :: rest => (rest.takeWhile Char.isDigit, rest.dropWhile Char.isDigit)
  | rest => ([], rest)

/-- The double nearest to the number of the digits times a power of ten. That number has `size`
digits before its point, and sizes beyond those of doubles need no arithmetic: all below `10 ^ -324`
is nearest to zero, and from `10 ^ 309` on all is out of range. -/
def ofDecimal (digits : List Char) (exponent : Int) : Float :=
  let ds := digits.dropWhile (· = '0')
  let size := ds.length + exponent
  if ds.isEmpty || size < -323 then 0
  else if 309 < size then 1 / 0
  else scientific (ofManyDigits ds) exponent

/-- The double nearest to an unsigned decimal literal. -/
def ofLiteral? (cs : List Char) : Option Float :=
  let whole := cs.takeWhile Char.isDigit
  let (fraction, rest) := splitFraction (cs.dropWhile Char.isDigit)
  if whole.isEmpty && fraction.isEmpty then none
  else (exponent? rest).map fun e => ofDecimal (whole ++ fraction) (e - fraction.length)

end Spreadsheet.Number
