import Spreadsheet.Settings.Basic
import Spreadsheet.Settings.Json

/-!
Settings written as JSON.

An object gives fields by name: each at most once, absent ones keep their defaults, and names that
are not known do not matter. An array gives the fields in order and may leave out the last ones.
-/

namespace Spreadsheet

namespace Json

/-- The value of a field of an object: `none` if it is given twice, `some none` if it is absent. -/
def field? (members : List (Option String × Json)) (name : String) : Option (Option Json) :=
  match members.filter (·.1 == some name) with
  | [] => some none
  | [(_, j)] => some (some j)
  | _ => none

/-- The values of named fields, in an object by name and in an array by order. -/
def fields? (names : List String) : Json → Option (List (Option Json))
  | object members =>
    if members.all (·.1.isSome) then names.mapM (field? members) else none
  | array items =>
    if items.length ≤ names.length then
      some (items.map some ++ List.replicate (names.length - items.length) none)
    else none
  | _ => none

/-- An absent field keeps its default; a present one must be readable. -/
def orDefault (default : α) (read : Json → Option α) : Option Json → Option α
  | none => some default
  | some j => read j

def nat? (max : Nat) : Json → Option Nat
  | number n => n.natUpTo? max
  | _ => none

def float? : Json → Option Float
  | number n => n.toFloat?
  | _ => none

end Json

def CalculationMode.ofName? (s : Option String) : Option CalculationMode :=
  if s = some "automatic" then some .automatic
  else if s = some "manual" then some .manual
  else none

/-- A mode is a name, or an object whose only member has that name and no value. -/
def CalculationMode.ofJson? : Json → Option CalculationMode
  | .string s => ofName? s
  | .object [(key, .null)] => ofName? key
  | _ => none

def Limits.ofJson? (j : Json) : Option Limits := do
  let [rows, cols] ← j.fields? ["max_rows", "max_cols"] | none
  let max := UInt32.size - 1
  return ⟨← Json.orDefault 65536 (Json.nat? max) rows, ← Json.orDefault 256 (Json.nat? max) cols⟩

def Settings.ofJson? (j : Json) : Option Settings := do
  let [mode, limits, epsilon, depth, cells] ← j.fields? ["calculation_mode", "limits",
    "compare_epsilon", "max_name_depth", "max_array_cells"] | none
  let standard : Settings := {}
  return {
    mode := ← Json.orDefault standard.mode CalculationMode.ofJson? mode
    limits := ← Json.orDefault standard.limits Limits.ofJson? limits
    epsilon := ← Json.orDefault standard.epsilon Json.float? epsilon
    maxNameDepth := ← Json.orDefault standard.maxNameDepth (Json.nat? (UInt32.size - 1)) depth
    maxArrayCells := ← Json.orDefault standard.maxArrayCells (Json.nat? (UInt64.size - 1)) cells }

def Settings.read? (s : String) : Option Settings := Json.read? s >>= Settings.ofJson?

end Spreadsheet
