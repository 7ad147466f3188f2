import Spreadsheet.Number.Reading

/-!
JSON texts as trees.

Reading judges the shape of a text only. Numbers stay literals until someone asks for their value,
and a string whose escapes name no characters is still a string, though one without a text.
-/

namespace Spreadsheet

/-- The parts of a JSON number: its sign, the digits before the point, those after it, and the
exponent with its sign. -/
structure JsonNumber where
  negative : Bool
  whole : List Char
  fraction : List Char
  exponent : Option (Bool × List Char)
  deriving DecidableEq, Repr, Inhabited

inductive Json
  | null
  | bool (b : Bool)
  | number (n : JsonNumber)
  | string (s : Option String)
  | array (items : List Json)
  | object (members : List (Option String × Json))
  deriving Inhabited

namespace JsonNumber

/-- The literal has neither a point nor an exponent. -/
def isInteger (n : JsonNumber) : Bool := n.fraction.isEmpty && n.exponent.isNone

/-- The value of an unsigned integer that is at most `max`. -/
def natUpTo? (n : JsonNumber) (max : Nat) : Option Nat :=
  if n.isInteger && !n.negative && Number.ofDigits n.whole ≤ max
  then some (Number.ofDigits n.whole) else none

/-- Appends digits to a number as long as it stays below `2 ^ 64`, and returns the digits left. -/
def appendFitting (n : Nat) : List Char → Nat × List Char
  | [] => (n, [])
  | c :: cs =>
    let m := 10 * n + (c.toNat - 48)
    if m < UInt64.size then appendFitting m cs else (n, c :: cs)

/-- A 64-bit number scaled by a power of ten with double arithmetic. Powers beyond those of doubles
are divided by in two steps; products out of range have no value. -/
def scaled? (significand : Nat) (exponent : Int) : Option Float :=
  let f := Number.scientific significand 0
  let power (e : Int) : Float := Number.scientific 1 e
  if significand = 0 then some 0
  else if 308 < exponent then none
  else if 0 ≤ exponent then
    let x := f * power exponent
    if x.isFinite then some x else none
  else if -308 ≤ exponent then some (f / power (-exponent))
  else if -616 ≤ exponent then some (f / power 308 / power (-exponent - 308))
  else some 0

/-- The number as a double. Only the leading digits that fit 64 bits count. -/
def toFloat? (n : JsonNumber) : Option Float := do
  let (whole, cut) := appendFitting 0 n.whole
  let (significand, left) := appendFitting whole n.fraction
  let shift : Int := cut.length - (n.fraction.length - left.length : Nat)
  let magnitude ← match n.exponent with
    | none => scaled? significand shift
    | some (negative, ds) =>
      let e : Int := Number.ofDigits ds
      if e < 0x80000000 then scaled? significand (if negative then shift - e else shift + e)
      else if significand = 0 || negative then some 0
      else none
  return if n.negative then -magnitude else magnitude

end JsonNumber

namespace Json

def isBlank (c : Char) : Bool := c = ' ' || c = '\t' || c = '\n' || c = '\r'

def skipBlanks (cs : List Char) : List Char := cs.dropWhile isBlank

/-- At least one digit, and what follows the digits. -/
def digits? (cs : List Char) : Option (List Char × List Char) :=
  let ds := cs.takeWhile Char.isDigit
  if ds.isEmpty then none else some (ds, cs.dropWhile Char.isDigit)

/-- A number behind its sign. A leading zero stands alone. -/
def number? (negative : Bool) (cs : List Char) : Option (JsonNumber × List Char) := do
  let (whole, cs) ← digits? cs
  if 1 < whole.length && whole.head? == some '0' then none
  let (fraction, cs) ← match cs with
    | '.' :: cs => digits? cs
    | _ => some ([], cs)
  match cs with
  | marker :: rest =>
    if marker = 'e' ∨ marker = 'E' then
      let (negativeExponent, rest) := Number.splitSign rest
      let (ds, rest) ← digits? rest
      return (⟨negative, whole, fraction, some (negativeExponent, ds)⟩, rest)
    else return (⟨negative, whole, fraction, none⟩, cs)
  | [] => return (⟨negative, whole, fraction, none⟩, [])

/-- The value of a hexadecimal digit of either case. -/
def hexValue? (c : Char) : Option Nat :=
  if c.isDigit then some (c.toNat - 48)
  else if 'a' ≤ c ∧ c ≤ 'f' then some (c.toNat - 87)
  else if 'A' ≤ c ∧ c ≤ 'F' then some (c.toNat - 55)
  else none

/-- The number of four hexadecimal digits. -/
def hex4? : List Char → Option (Nat × List Char)
  | a :: b :: c :: d :: rest => do
    return (((← hexValue? a) * 16 + (← hexValue? b)) * 256 + (← hexValue? c) * 16 + (← hexValue? d),
      rest)
  | _ => none

/-- The units that a short escape stands for. -/
def shortEscape? : Char → Option Nat
  | '"' => some 0x22
  | '\\' => some 0x5C
  | '/' => some 0x2F
  | 'b' => some 0x08
  | 'f' => some 0x0C
  | 'n' => some 0x0A
  | 'r' => some 0x0D
  | 't' => some 0x09
  | _ => none

/-- A piece of a string: a character as it stands, or the 16-bit unit of an escape. -/
inductive Piece
  | plain (c : Char)
  | unit (u : Nat)

/-- The text of pieces. Units that are surrogates must come in pairs. -/
def textOfPieces? : List Piece → Option (List Char)
  | [] => some []
  | .plain c :: rest => (textOfPieces? rest).map (c :: ·)
  | .unit u :: .unit v :: rest =>
    if 0xD800 ≤ u ∧ u < 0xDC00 ∧ 0xDC00 ≤ v ∧ v < 0xE000 then
      (textOfPieces? rest).map
        (Char.ofNat (0x10000 + (u - 0xD800) * 0x400 + (v - 0xDC00)) :: ·)
    else if 0xD800 ≤ u ∧ u < 0xE000 then none
    else (textOfPieces? (.unit v :: rest)).map (Char.ofNat u :: ·)
  | .unit u :: rest =>
    if 0xD800 ≤ u ∧ u < 0xE000 then none else (textOfPieces? rest).map (Char.ofNat u :: ·)

/-- The pieces of a string up to its closing quote. `fuel` bounds their number. -/
def pieces? : (fuel : Nat) → List Char → Option (List Piece × List Char)
  | 0, _ => none
  | fuel + 1, cs => match cs with
    | [] => none
    | '"' :: rest => some ([], rest)
    | '\\' :: 'u' :: rest => do
      let (u, rest) ← hex4? rest
      let (ps, rest) ← pieces? fuel rest
      return (.unit u :: ps, rest)
    | '\\' :: c :: rest => do
      let u ← shortEscape? c
      let (ps, rest) ← pieces? fuel rest
      return (.plain (Char.ofNat u) :: ps, rest)
    | c :: rest => do
      if c.toNat < 0x20 || c = '\\' then none
      let (ps, rest) ← pieces? fuel rest
      return (.plain c :: ps, rest)

/-- A string behind its opening quote. -/
def string? (cs : List Char) : Option (Option String × List Char) := do
  let (ps, rest) ← pieces? (cs.length + 1) cs
  return ((textOfPieces? ps).map String.ofList, rest)

mutual

/-- A value at the front of a text. `fuel` bounds the number of nested steps. -/
def value? : (fuel : Nat) → List Char → Option (Json × List Char)
  | 0, _ => none
  | fuel + 1, cs => match skipBlanks cs with
    | 'n' :: 'u' :: 'l' :: 'l' :: rest => some (null, rest)
    | 't' :: 'r' :: 'u' :: 'e' :: rest => some (bool true, rest)
    | 'f' :: 'a' :: 'l' :: 's' :: 'e' :: rest => some (bool false, rest)
    | '"' :: rest => (string? rest).map fun (s, rest) => (string s, rest)
    | '-' :: rest => (number? true rest).map fun (n, rest) => (number n, rest)
    | '[' :: rest => match skipBlanks rest with
      | ']' :: rest => some (array [], rest)
      | rest => (items? fuel rest).map fun (js, rest) => (array js, rest)
    | c :: rest =>
      if c.toNat = 0x7B then match skipBlanks rest with
        | d :: rest' =>
          if d.toNat = 0x7D then some (object [], rest')
          else (members? fuel rest).map fun (ms, rest) => (object ms, rest)
        | [] => none
      else (number? false (c :: rest)).map fun (n, rest) => (number n, rest)
    | [] => none

/-- The values of an array up to its closing bracket, of which there is one at least. -/
def items? : (fuel : Nat) → List Char → Option (List Json × List Char)
  | 0, _ => none
  | fuel + 1, cs => do
    let (j, cs) ← value? fuel cs
    match skipBlanks cs with
    | ',' :: cs =>
      let (js, cs) ← items? fuel cs
      return (j :: js, cs)
    | ']' :: cs => return ([j], cs)
    | _ => none

/-- The members of an object up to its closing brace, of which there is one at least. -/
def members? : (fuel : Nat) → List Char → Option (List (Option String × Json) × List Char)
  | 0, _ => none
  | fuel + 1, cs => match skipBlanks cs with
    | '"' :: cs => do
      let (key, cs) ← string? cs
      match skipBlanks cs with
      | ':' :: cs =>
        let (j, cs) ← value? fuel cs
        match skipBlanks cs with
        | ',' :: cs =>
          let (ms, cs) ← members? fuel cs
          return ((key, j) :: ms, cs)
        | c :: cs => if c.toNat = 0x7D then return ([(key, j)], cs) else none
        | [] => none
      | _ => none
    | _ => none

end

/-- The value that a whole text holds. -/
def read? (s : String) : Option Json := do
  let cs := s.toList
  let (j, rest) ← value? (2 * cs.length + 2) cs
  if (skipBlanks rest).isEmpty then return j else none

end Json

end Spreadsheet
