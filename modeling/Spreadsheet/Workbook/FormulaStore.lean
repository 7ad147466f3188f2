import Spreadsheet.Workbook.FormulaRecord
import Spreadsheet.Workbook.Observers
import Std.Data.HashMap

/-!
The formulas of a workbook.

A formula gets a number when it is stored and keeps it while it moves over the grid; the number of
a removed formula is not used again. A formula that comes to a place where one of its kind is
stored removes that one.

The store knows at all times which area each token observes, under the links it was last told. So
every operation that may change this takes the links.
-/

namespace Spreadsheet

structure FormulaStore where
  limits : Limits
  /-- The records by their numbers. Removed ones leave a gap. -/
  records : Array (Option FormulaRecord) := #[]
  positions : Std.HashMap FormulaKey Nat := ∅
  observers : Observers := .empty limits

namespace FormulaStore

def empty (limits : Limits) : FormulaStore := { limits }

def get? (s : FormulaStore) (id : Nat) : Option FormulaRecord := (s.records[id]?).join

def token? (s : FormulaStore) (h : Handle) : Option Token :=
  (s.get? h.formula).bind fun r => r.tokens[h.token]?

/-- The number of the formula of a cell. -/
def cellFormula? (s : FormulaStore) (p : Place) : Option Nat := s.positions[FormulaKey.mk .cell p]?

/-- The shared formula that is anchored at a place. -/
def sharedAt? (s : FormulaStore) (p : Place) : Option SharedFormula := do
  match (← s.get? (← s.positions[FormulaKey.mk .shared p]?)).body with
  | .shared f => return f
  | _ => none

/-- The array formula that is anchored at a place. -/
def arrayAt? (s : FormulaStore) (p : Place) : Option ArrayFormula := do
  match (← s.get? (← s.positions[FormulaKey.mk .array p]?)).body with
  | .array f => return f
  | _ => none

/-- The records with their numbers, in ascending order. -/
def toList (s : FormulaStore) : List (Nat × FormulaRecord) :=
  s.records.toList.zipIdx.filterMap fun (r, id) => r.map (id, ·)

/-- The numbers of the records, in ascending order. -/
def ids (s : FormulaStore) : List Nat := s.toList.map Prod.fst

/-- Records what the tokens of a formula observe. -/
def trackAll (s : FormulaStore) (links : SheetLinks) (id : Nat) (r : FormulaRecord) :
    FormulaStore :=
  { s with observers := (List.range r.tokens.length).foldl (fun o i =>
      match r.observed? links s.limits i with
      | some a => o.track ⟨id, i⟩ a
      | none => o) s.observers }

/-- Forgets what the tokens of a formula observed. -/
def untrackAll (s : FormulaStore) (id : Nat) (r : FormulaRecord) : FormulaStore :=
  { s with observers :=
      (List.range r.tokens.length).foldl (fun o i => o.untrack ⟨id, i⟩) s.observers }

/-- Takes a formula out of the index of places, unless another one took its place. -/
def release (s : FormulaStore) (id : Nat) (key : FormulaKey) : FormulaStore :=
  if s.positions[key]? = some id then { s with positions := s.positions.erase key } else s

def setRecord (s : FormulaStore) (id : Nat) (r : Option FormulaRecord) : FormulaStore :=
  { s with records := s.records.setIfInBounds id r }

def remove (s : FormulaStore) (id : Nat) : FormulaStore :=
  match s.get? id with
  | none => s
  | some r => ((s.untrackAll id r).setRecord id none).release id r.key

/-- Stores a formula under a new number. -/
def insert (s : FormulaStore) (links : SheetLinks) (r : FormulaRecord) : Nat × FormulaStore :=
  let s := match s.positions[r.key]? with
    | some old => s.remove old
    | none => s
  let id := s.records.size
  let s := { s with records := s.records.push (some r), positions := s.positions.insert r.key id }
  (id, s.trackAll links id r)

/-- Replaces one token, if there is such a token. -/
def replaceToken (s : FormulaStore) (links : SheetLinks) (h : Handle) (t : Token) : FormulaStore :=
  match s.get? h.formula with
  | none => s
  | some r =>
    if h.token < r.tokens.length then
      let r := r.setToken h.token t
      let s := s.setRecord h.formula (some r)
      { s with observers := match r.observed? links s.limits h.token with
          | some a => s.observers.track h a
          | none => s.observers.untrack h }
    else s

/-- Makes any change to a stored formula, which may move it. Whatever is stored at its new place
is removed. -/
def update (s : FormulaStore) (links : SheetLinks) (id : Nat)
    (edit : FormulaRecord → FormulaRecord) : FormulaStore :=
  match s.get? id with
  | none => s
  | some old =>
    let s := (s.untrackAll id old).release id old.key
    let r := edit old
    let s := s.setRecord id (some r)
    let s := match s.positions[r.key]? with
      | none => s
      | some displaced =>
        if displaced = id then s
        else match s.get? displaced with
          | none => s
          | some d => (s.untrackAll displaced d).setRecord displaced none
    let s := { s with positions := s.positions.insert r.key id }
    s.trackAll links id r

end FormulaStore

end Spreadsheet
