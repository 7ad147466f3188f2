import Spreadsheet.Text.CaseTable

/-!
Upper and lower case.

The full Unicode mappings may lengthen a text, and the lower case of a capital sigma depends on
whether it ends a word. The ASCII mappings leave every other character alone.
-/

namespace Spreadsheet.Text

/-- The partner of a code point in the first run that holds it. -/
def CaseRun.map? (runs : List CaseRun) (n : Nat) : Option Nat :=
  (runs.find? fun r => r.first ≤ n && n ≤ r.last && (n - r.first) % r.step == 0).map
    fun r => ((n : Int) + r.shift).toNat

def upperChar (c : Char) : List Char :=
  if c.toNat < 128 then [c.toUpper]
  else match upperSpecial.lookup c.toNat with
    | some parts => parts.map Char.ofNat
    | none => [Char.ofNat ((CaseRun.map? upperRuns c.toNat).getD c.toNat)]

/-- Only a capital I with a dot above has a lower case of two characters. -/
def lowerChar (c : Char) : List Char :=
  if c.toNat < 128 then [c.toLower]
  else if c.toNat = 0x130 then ['i', Char.ofNat 0x307]
  else [Char.ofNat ((CaseRun.map? lowerRuns c.toNat).getD c.toNat)]

def upperChars (cs : List Char) : List Char := cs.flatMap upperChar

def upper (s : String) : String := String.ofList (upperChars s.toList)

/-- The first of `cs` that case mapping does not pass over is a cased letter. -/
def meetsCased (cs : List Char) : Bool :=
  match cs.dropWhile fun c => caseIgnorableRanges.contains c.toNat with
  | [] => false
  | c :: _ => casedRanges.contains c.toNat

/-- Lower case of `cs` after the characters `before`, behind `done`, which is their lower case. Both
come last first. A capital sigma at the end of a word takes its final form. -/
def lowerAfter (before done : List Char) : List Char → List Char
  | [] => done.reverse
  | c :: rest =>
    let here :=
      if c.toNat = 0x3A3 then
        [Char.ofNat (if meetsCased before && !meetsCased rest then 0x3C2 else 0x3C3)]
      else lowerChar c
    lowerAfter (c :: before) (here.reverse ++ done) rest

def lower (s : String) : String := String.ofList (lowerAfter [] [] s.toList)

/-- Upper case of the ASCII letters only. -/
def asciiUpper (s : String) : String := String.ofList (s.toList.map Char.toUpper)

/-- Two texts that differ at most in the case of ASCII letters. -/
def sameIgnoringAsciiCase (s t : String) : Bool := asciiUpper s == asciiUpper t

end Spreadsheet.Text
