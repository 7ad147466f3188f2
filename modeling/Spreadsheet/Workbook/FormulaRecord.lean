import Spreadsheet.Formula.Shared

/-!
Formulas as a workbook stores them, and the areas that their tokens observe.

A record is the formula of one cell, the formula that a group of cells shares, or the formula of an
array block. The cells of a group or a block have records of their own, which hold a placeholder.
-/

namespace Spreadsheet

/-- The sheet of this workbook that a link stands for, if it is a single one. -/
def SheetLink.localSheet? : SheetLink → Option Nat
  | span first last => if first = last then some first else none
  | _ => none

/-- The table of sheets that references into other sheets go through. -/
abbrev SheetLinks := Array SheetLink

/-- The single sheet of this workbook that a numbered link stands for. -/
def SheetLinks.localSheet? (links : SheetLinks) (link : UInt16) : Option Nat :=
  (links[link.toNat]?).bind SheetLink.localSheet?

namespace Token

/-- The sheet on which a token of a formula on the sheet `own` observes cells. -/
def observedSheet? (own : Nat) (links : SheetLinks) : Token → Option Nat
  | ref .. | area .. | refN .. | areaN .. => some own
  | ref3d _ link _ | area3d _ link _ => links.localSheet? link
  | _ => none

/-- The range that a token of a formula with the given anchor means in `cell`. References into
other sheets mean none where their relative parts leave the grid. -/
def rangeIn? (anchor cell : Cell) (limits : Limits) : Token → Option CellRange
  | ref _ a => some (.single a.cell)
  | area _ a => some a.range
  | refN _ a => some (.single (a.resolve cell limits).cell)
  | areaN _ a => some (a.resolve cell limits).range
  | ref3d _ _ a => (a.shiftRelative? dRow dCol limits).map fun a => .single a.cell
  | area3d _ _ a => (a.shiftRelative? dRow dCol limits).map AreaAddress.range
  | _ => none
where
  dRow : Int := cell.row - anchor.row
  dCol : Int := cell.col - anchor.col

end Token

inductive FormulaBody
  | cell (cell : Cell) (tokens : List Token)
  | shared (formula : SharedFormula)
  | array (formula : ArrayFormula)
  deriving DecidableEq, Repr, Inhabited

/-- The kinds of records. Records of different kinds may have the same place. -/
inductive FormulaKind
  | cell
  | shared
  | array
  deriving DecidableEq, Hashable, Repr, Inhabited

namespace FormulaBody

def kind : FormulaBody → FormulaKind
  | cell .. => .cell
  | shared _ => .shared
  | array _ => .array

def tokens : FormulaBody → List Token
  | cell _ tokens => tokens
  | shared f => f.tokens
  | array f => f.tokens

def withTokens : FormulaBody → List Token → FormulaBody
  | cell c _, tokens => cell c tokens
  | shared f, tokens => shared { f with tokens }
  | array f, tokens => array { f with tokens }

/-- The cell of a formula, or the anchor of a group or a block. -/
def position : FormulaBody → Cell
  | cell c _ => c
  | shared f => f.anchor
  | array f => f.range.start

/-- The cells from which the tokens are seen. An array formula is evaluated at its anchor only. -/
def members : FormulaBody → CellRange
  | cell c _ => .single c
  | shared f => f.range
  | array f => .single f.range.start

end FormulaBody

/-- What a record is found by: no two records of a kind have the same place. -/
structure FormulaKey where
  kind : FormulaKind
  place : Place
  deriving DecidableEq, Hashable, Repr, Inhabited

structure FormulaRecord where
  sheet : Nat
  body : FormulaBody
  deriving DecidableEq, Repr, Inhabited

namespace FormulaRecord

def tokens (r : FormulaRecord) : List Token := r.body.tokens

def position (r : FormulaRecord) : Cell := r.body.position

def place (r : FormulaRecord) : Place := ⟨r.sheet, r.position⟩

def key (r : FormulaRecord) : FormulaKey := ⟨r.body.kind, r.place⟩

/-- The record with one token replaced, if it has that many. -/
def setToken (r : FormulaRecord) (i : Nat) (t : Token) : FormulaRecord :=
  { r with body := r.body.withTokens (r.tokens.set i t) }

/-- The area that a token observes: the smallest one around what the first and the last member
see. -/
def observed? (r : FormulaRecord) (links : SheetLinks) (limits : Limits) (i : Nat) :
    Option Area := do
  let t ← r.tokens[i]?
  let sheet ← t.observedSheet? r.sheet links
  let first ← t.rangeIn? r.position r.body.members.start limits
  let last ← t.rangeIn? r.position r.body.members.stop limits
  return ⟨sheet, first.bounding last⟩

end FormulaRecord

end Spreadsheet
