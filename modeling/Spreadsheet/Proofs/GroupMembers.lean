import Spreadsheet.Proofs.Course
import Spreadsheet.Proofs.Enumeration
import Spreadsheet.Proofs.StoreHistory

/-!
What the cells of a new group or block show.

A group puts a placeholder for its anchor into each of its cells, over whatever is stored there, and
its own record beside them. The placeholders find it again as long as they have room for the
coordinates of the anchor. A new array block takes the place of an older one with its anchor. A new
shared formula does not, and where the older block covers a cell it still comes first.
-/

namespace Spreadsheet

/-- The anchor's coordinates fit into a placeholder. -/
def Cell.Short (c : Cell) : Prop := c.row < 2 ^ 16 ∧ c.col < 2 ^ 16

instance (c : Cell) : Decidable c.Short := inferInstanceAs (Decidable (_ ∧ _))

/-- The cell that a placeholder names for an anchor: the low 16 bits of its coordinates. -/
def Cell.truncated (c : Cell) : Cell := ⟨c.row % 2 ^ 16, c.col % 2 ^ 16⟩

lemma Cell.truncated_of_short {c : Cell} (h : c.Short) : c.truncated = c := by
  rw [truncated, Nat.mod_eq_of_lt h.1, Nat.mod_eq_of_lt h.2]

lemma placeholderAnchor?_eq_truncated (c : Cell) :
    placeholderAnchor? [placeholder c] = some c.truncated := by
  simp only [placeholder, placeholderAnchor?, UInt16.toNat_ofNat', Nat.toUInt16, Cell.truncated]

/-- A formula as one of its cells has it. -/
def FormulaBody.boundAt (limits : Limits) (c : Cell) : FormulaBody → BoundFormula
  | cell _ tokens => .plain tokens
  | shared f => .shared (bindShared f.tokens f.anchor c limits)
  | array f => .array f

/-! ### Placeholders -/

namespace Workbook

section
variable {w : Workbook} {p : Place} {anchor : Cell}

/-- The array block that is anchored at a cell and covers another. -/
def blockOver? (w : Workbook) (sheet : Nat) (anchor c : Cell) : Option ArrayFormula :=
  (w.formulas.arrayAt? ⟨sheet, anchor⟩).filter (c ∈ ·.range)

/-- The anchor that the placeholder in a cell names. -/
def anchor? (w : Workbook) (p : Place) : Option Cell := (w.formula? p).bind placeholderAnchor?

/-- Where the group or block is found that a placeholder for an anchor stands for. -/
def groupKey (w : Workbook) (p : Place) (anchor : Cell) : FormulaKey :=
  ⟨if (w.blockOver? p.sheet anchor p.cell).isSome then .array else .shared, ⟨p.sheet, anchor⟩⟩

lemma groupKey_of_block {block : ArrayFormula}
    (h : w.blockOver? p.sheet anchor p.cell = some block) :
    w.groupKey p anchor = ⟨.array, ⟨p.sheet, anchor⟩⟩ := by
  rw [groupKey, h]
  rfl

lemma groupKey_of_none (h : w.blockOver? p.sheet anchor p.cell = none) :
    w.groupKey p anchor = ⟨.shared, ⟨p.sheet, anchor⟩⟩ := by
  rw [groupKey, h]
  rfl

lemma kind_groupKey_ne : (w.groupKey p anchor).kind ≠ .cell := by
  unfold groupKey
  split_ifs <;> simp

/-- What a placeholder for an anchor stands for is found in one place. -/
lemma boundTo?_eq (hw : w.formulas.Coherent) (p : Place) (anchor : Cell) :
    w.boundTo? p anchor = (w.formulas.find? (w.groupKey p anchor)).map fun r =>
      r.body.boundAt w.limits p.cell := by
  rcases h : w.blockOver? p.sheet anchor p.cell with _ | block
  · have hshared : w.boundTo? p anchor = boundTo?.fromShared w p anchor := by
      unfold boundTo?
      unfold blockOver? at h
      rcases harray : w.formulas.arrayAt? ⟨p.sheet, anchor⟩ with _ | g
      · rfl
      · rw [harray, Option.filter_some] at h
        exact if_neg (by simpa using h)
    rw [hshared, boundTo?.fromShared, groupKey_of_none h]
    refine Option.ext fun f => ?_
    simp only [Option.map_eq_some_iff, FormulaStore.sharedAt?_eq_some_iff hw]
    constructor
    · rintro ⟨g, hg, hf⟩
      exact ⟨_, hg, hf⟩
    · rintro ⟨⟨sheet, body⟩, hr, hf⟩
      obtain ⟨k, -, hkey⟩ := (FormulaStore.find?_eq_some_iff hw).mp hr
      cases body with
      | cell c tokens => cases hkey
      | array g => cases hkey
      | shared g =>
        cases hkey
        exact ⟨g, hr, hf⟩
  · obtain ⟨harray, hc⟩ := Option.filter_eq_some_iff.mp h
    rw [groupKey_of_block h, (FormulaStore.arrayAt?_eq_some_iff hw).mp harray]
    exact boundTo?_eq_array_iff.mpr ⟨harray, of_decide_eq_true hc⟩

lemma bound?_of_anchor? (h : w.anchor? p = some anchor) :
    w.bound? p = some (match w.boundTo? p anchor with
      | some f => .ok f
      | none => .error (.structureNotFound p.sheet anchor)) := by
  obtain ⟨tokens, htokens, h⟩ := Option.bind_eq_some_iff.mp h
  rcases hbound : w.boundTo? p anchor with _ | f <;>
    simp [bound?, htokens, instantiate, h, hbound]

/-- A placeholder for a cell that no group or block is anchored at stands for nothing. -/
lemma bound?_of_find?_eq_none (hw : w.formulas.Coherent) (h : w.anchor? p = some anchor)
    (hnone : ∀ kind, kind ≠ .cell → w.formulas.find? ⟨kind, ⟨p.sheet, anchor⟩⟩ = none) :
    w.bound? p = some (.error (.structureNotFound p.sheet anchor)) := by
  have hfind : w.formulas.find? (w.groupKey p anchor) = none := hnone _ kind_groupKey_ne
  rw [bound?_of_anchor? h, boundTo?_eq hw, hfind]
  rfl

lemma bound?_of_boundTo? {f : BoundFormula} (h : w.anchor? p = some anchor)
    (hf : w.boundTo? p anchor = some f) : w.bound? p = some (.ok f) := by
  rw [bound?_of_anchor? h, hf]

end

/-! ### New groups -/

variable {w : Workbook} {sheet : Nat} {range : CellRange} {body : List Token} {c : Cell}

/-- The cells of a list hold certain tokens, and nothing else is stored but before. -/
structure Filled (w w' : Workbook) (sheet : Nat) (cells : List Cell) (tokens : List Token) :
    Prop where
  coherent : w'.formulas.Coherent
  limits : w'.limits = w.limits
  formula? : ∀ c, w'.formula? ⟨sheet, c⟩ = if c ∈ cells then some tokens else w.formula? ⟨sheet, c⟩
  find? : ∀ key, key.kind ≠ .cell → w'.formulas.find? key = w.formulas.find? key

lemma filled_foldl (hw : w.formulas.Coherent) (sheet : Nat) (cells : List Cell)
    (tokens : List Token) :
    Filled w (cells.foldl (fun w c => (w.setFormula ⟨sheet, c⟩ tokens).2) w) sheet cells
      tokens := by
  induction cells generalizing w with
  | nil => exact ⟨hw, rfl, fun c => (if_neg List.not_mem_nil).symm, fun _ _ => rfl⟩
  | cons d cells ih =>
    have hrest := ih (coherent_setFormula hw ⟨sheet, d⟩ tokens)
    refine ⟨hrest.coherent, hrest.limits, fun c => ?_, fun key hkey => ?_⟩
    · rw [List.foldl_cons, hrest.formula?, formula?_setFormula hw]
      by_cases hc : c = d
      · simp [hc]
      · simp [hc, Ne.symm hc]
    · rw [List.foldl_cons, hrest.find? key hkey, find?_setFormula hw, if_neg]
      rintro rfl
      exact hkey rfl

lemma filled_fillPlaceholders (hw : w.formulas.Coherent) (sheet : Nat) (range : CellRange) :
    Filled w (w.fillPlaceholders sheet range) sheet range.cells [placeholder range.start] :=
  filled_foldl hw sheet range.cells [placeholder range.start]

section
variable {w' : Workbook} {r : FormulaRecord} {tokens : List Token} {cells : List Cell}

lemma Filled.formula?_insertRecord (h : Filled w w' sheet cells tokens) (hr : r.body.kind ≠ .cell)
    (c : Cell) : (w'.insertRecord r).2.formula? ⟨sheet, c⟩ =
      if c ∈ cells then some tokens else w.formula? ⟨sheet, c⟩ := by
  have hkey : r.key ≠ ⟨.cell, ⟨sheet, c⟩⟩ := fun h => hr (congrArg FormulaKey.kind h)
  rw [formula?_eq, find?_insertRecord h.coherent, if_neg hkey, ← formula?_eq, h.formula?]

lemma Filled.coherent_insertRecord (h : Filled w w' sheet cells tokens) (r : FormulaRecord) :
    (w'.insertRecord r).2.formulas.Coherent :=
  (FormulaStore.put_insert w'.links r h.coherent).coherent

/-- A record of another kind or anchor is found as before. -/
lemma Filled.find?_insertRecord (h : Filled w w' sheet cells tokens) {key : FormulaKey}
    (hkind : key.kind ≠ .cell) (hkey : r.key ≠ key) :
    (w'.insertRecord r).2.formulas.find? key = w.formulas.find? key := by
  rw [Workbook.find?_insertRecord h.coherent, if_neg hkey, h.find? key hkind]

end

/-- The cells keep their placeholders when the record of the group is stored. -/
lemma anchor?_insertGroup (hw : w.formulas.Coherent) {r : FormulaRecord} (hr : r.body.kind ≠ .cell)
    (hc : c ∈ range) : ((w.fillPlaceholders sheet range).insertRecord r).2.anchor? ⟨sheet, c⟩ =
      some range.start.truncated := by
  have hfilled := filled_fillPlaceholders hw sheet range
  rw [anchor?, hfilled.formula?_insertRecord hr, if_pos (CellRange.mem_cells hc), Option.bind_some]
  exact placeholderAnchor?_eq_truncated range.start

lemma anchor?_insertGroup_of_short (hw : w.formulas.Coherent) (hshort : range.start.Short)
    {r : FormulaRecord} (hr : r.body.kind ≠ .cell) (hc : c ∈ range) :
    ((w.fillPlaceholders sheet range).insertRecord r).2.anchor? ⟨sheet, c⟩ = some range.start := by
  rw [anchor?_insertGroup hw hr hc, Cell.truncated_of_short hshort]

lemma arrayAt?_setArray (hw : w.formulas.Coherent) :
    (w.setArray sheet range body).2.formulas.arrayAt? ⟨sheet, range.start⟩ =
      some ⟨range, body⟩ := by
  have hfilled := filled_fillPlaceholders hw sheet range
  have hcoherent : (w.setArray sheet range body).2.formulas.Coherent :=
    hfilled.coherent_insertRecord ⟨sheet, .array ⟨range, body⟩⟩
  rw [FormulaStore.arrayAt?_eq_some_iff hcoherent]
  exact (find?_insertRecord hfilled.coherent _ _).trans (if_pos rfl)

lemma bound?_setArray (hw : w.formulas.Coherent) (hshort : range.start.Short) (hc : c ∈ range) :
    (w.setArray sheet range body).2.bound? ⟨sheet, c⟩ = some (.ok (.array ⟨range, body⟩)) := by
  have hanchor : (w.setArray sheet range body).2.anchor? ⟨sheet, c⟩ = some range.start :=
    anchor?_insertGroup_of_short hw hshort (by simp [FormulaBody.kind]) hc
  exact bound?_of_boundTo? hanchor (boundTo?_eq_array_iff.mpr ⟨arrayAt?_setArray hw, hc⟩)

lemma blockOver?_setShared (hw : w.formulas.Coherent) (sheet : Nat) (range : CellRange)
    (body : List Token) (anchor c : Cell) :
    (w.setShared sheet range body).2.blockOver? sheet anchor c = w.blockOver? sheet anchor c := by
  have hfilled := filled_fillPlaceholders hw sheet range
  have hcoherent : (w.setShared sheet range body).2.formulas.Coherent :=
    hfilled.coherent_insertRecord ⟨sheet, .shared ⟨range.start, range, body⟩⟩
  have hfind : (w.setShared sheet range body).2.formulas.find? ⟨.array, ⟨sheet, anchor⟩⟩ =
      w.formulas.find? ⟨.array, ⟨sheet, anchor⟩⟩ :=
    hfilled.find?_insertRecord (by simp) (by simp [FormulaRecord.key, FormulaBody.kind])
  unfold blockOver?
  refine congrArg (Option.filter _) (Option.ext fun f => ?_)
  rw [FormulaStore.arrayAt?_eq_some_iff hcoherent, FormulaStore.arrayAt?_eq_some_iff hw, hfind]

lemma bound?_setShared (hw : w.formulas.Coherent) (hshort : range.start.Short) (hc : c ∈ range) :
    (w.setShared sheet range body).2.bound? ⟨sheet, c⟩ =
      some (.ok (match w.blockOver? sheet range.start c with
        | some block => .array block
        | none => .shared (bindShared body range.start c w.limits))) := by
  have hfilled := filled_fillPlaceholders hw sheet range
  have hcoherent : (w.setShared sheet range body).2.formulas.Coherent :=
    hfilled.coherent_insertRecord ⟨sheet, .shared ⟨range.start, range, body⟩⟩
  have hanchor : (w.setShared sheet range body).2.anchor? ⟨sheet, c⟩ = some range.start :=
    anchor?_insertGroup_of_short hw hshort (by simp [FormulaBody.kind]) hc
  have hblock := blockOver?_setShared hw sheet range body range.start c
  refine bound?_of_boundTo? hanchor ?_
  rcases hold : w.blockOver? sheet range.start c with _ | block
  · have hfind : (w.setShared sheet range body).2.formulas.find? ⟨.shared, ⟨sheet, range.start⟩⟩ =
        some ⟨sheet, .shared ⟨range.start, range, body⟩⟩ :=
      (find?_insertRecord hfilled.coherent _ _).trans (if_pos rfl)
    have hlimits : (w.setShared sheet range body).2.limits = w.limits := hfilled.limits
    have hkey : (w.setShared sheet range body).2.groupKey ⟨sheet, c⟩ range.start =
        ⟨.shared, ⟨sheet, range.start⟩⟩ := groupKey_of_none (hblock.trans hold)
    rw [boundTo?_eq hcoherent, hkey, hfind, hlimits]
    rfl
  · obtain ⟨harray, hmem⟩ := Option.filter_eq_some_iff.mp (hblock.trans hold)
    exact boundTo?_eq_array_iff.mpr ⟨harray, of_decide_eq_true hmem⟩

/-- Every cell of a new array block is part of it, whatever was stored before. Every cell of a new
shared group has the group's formula, unless an older array block with the same anchor covers it:
that one comes first. -/
theorem bound?_setGroup (hw : w.Reachable) (sheet : Nat) (range : CellRange) (body : List Token)
    (hshort : range.start.Short) :
    (∀ c ∈ range, (w.setArray sheet range body).2.bound? ⟨sheet, c⟩ =
        some (.ok (.array ⟨range, body⟩))) ∧
      (∀ c ∈ range, w.blockOver? sheet range.start c = none →
        (w.setShared sheet range body).2.bound? ⟨sheet, c⟩ =
          some (.ok (.shared (bindShared body range.start c w.limits)))) ∧
      ∀ c ∈ range, ∀ block, w.blockOver? sheet range.start c = some block →
        (w.setShared sheet range body).2.bound? ⟨sheet, c⟩ = some (.ok (.array block)) := by
  refine ⟨fun c hc => bound?_setArray hw.coherent hshort hc, fun c hc hnone => ?_,
    fun c hc block hblock => ?_⟩
  · rw [bound?_setShared hw.coherent hshort hc, hnone]
  · rw [bound?_setShared hw.coherent hshort hc, hblock]

namespace GroupExample

/-- The cells A1 and A2. -/
def column : CellRange := .ofCorners ⟨0, 0⟩ ⟨1, 0⟩

/-- A sheet with an array block. -/
def block : Workbook := (empty {}).run [.addSheet "Sheet1", .setArray 0 column [.int 1]]

lemma blockOver?_block {c : Cell} (hc : c ∈ column) :
    block.blockOver? 0 ⟨0, 0⟩ c = some ⟨column, [.int 1]⟩ := by
  have hblock : block.formulas.arrayAt? ⟨0, ⟨0, 0⟩⟩ = some ⟨column, [.int 1]⟩ :=
    arrayAt?_setArray (FormulaStore.coherent_empty {})
  rw [blockOver?, hblock, Option.filter_some, if_pos (decide_eq_true hc)]

/-- A shared formula that is set over the block does not show. -/
theorem block_hides_shared :
    block.Reachable ∧ 0 < block.sheets.size ∧
      ¬∀ c ∈ column, (block.setShared 0 column [.int 2]).2.bound? ⟨0, c⟩ =
        some (.ok (.shared (bindShared [.int 2] column.start c block.limits))) := by
  have hw : block.Reachable := ⟨_, _, rfl⟩
  have hc : (⟨1, 0⟩ : Cell) ∈ column := by decide
  have hblock : block.blockOver? 0 column.start ⟨1, 0⟩ = some ⟨column, [.int 1]⟩ :=
    blockOver?_block hc
  refine ⟨hw, by decide, fun h => ?_⟩
  have hshared := h _ hc
  rw [bound?_setShared hw.coherent (by decide) hc, hblock] at hshared
  simp at hshared

theorem bound?_setGroup_block :
    block.Reachable ∧ column.start.Short ∧
      (block.setArray 0 column [.int 2]).2.bound? ⟨0, ⟨1, 0⟩⟩ =
        some (.ok (.array ⟨column, [.int 2]⟩)) ∧
      (block.setShared 0 column [.int 2]).2.bound? ⟨0, ⟨1, 0⟩⟩ =
        some (.ok (.array ⟨column, [.int 1]⟩)) := by
  have hw : block.Reachable := ⟨_, _, rfl⟩
  have hshort : column.start.Short := by decide
  have hc : (⟨1, 0⟩ : Cell) ∈ column := by decide
  obtain ⟨harray, -, hshared⟩ := bound?_setGroup hw 0 column [.int 2] hshort
  exact ⟨hw, hshort, harray _ hc, hshared _ hc _ (blockOver?_block hc)⟩

/-- The cells A65537 and A65538. -/
def farColumn : CellRange := .ofCorners ⟨65536, 0⟩ ⟨65537, 0⟩

/-- A sheet with more rows than a placeholder can count. -/
def tall : Workbook := (empty { limits := ⟨70000, 256⟩ }).run [.addSheet "Sheet1"]

lemma bound?_tall {r : FormulaRecord} (hkind : r.body.kind ≠ .cell)
    (hposition : r.position = farColumn.start) {c : Cell} (hc : c ∈ farColumn) :
    ((tall.fillPlaceholders 0 farColumn).insertRecord r).2.bound? ⟨0, c⟩ =
      some (.error (.structureNotFound 0 ⟨0, 0⟩)) := by
  have hw : tall.Reachable := ⟨_, _, rfl⟩
  have hfilled := filled_fillPlaceholders hw.coherent 0 farColumn
  refine bound?_of_find?_eq_none (hfilled.coherent_insertRecord r)
    (anchor?_insertGroup hw.coherent hkind hc) fun kind hcell => ?_
  have hempty : tall.formulas.find? ⟨kind, ⟨0, ⟨0, 0⟩⟩⟩ = none := by
    simp [tall, run, apply, addSheet, empty, FormulaStore.find?, FormulaStore.empty]
  rw [← hempty]
  refine hfilled.find?_insertRecord hcell fun h => ?_
  have hstart : farColumn.start ≠ ⟨0, 0⟩ := by decide
  exact hstart (hposition.symm.trans (congrArg (·.place.cell) h))

/-- A group or a block that starts in a row which does not fit into a placeholder is not found by
its cells. -/
theorem farColumn_not_found :
    tall.Reachable ∧ 0 < tall.sheets.size ∧ farColumn.stop.row < tall.limits.maxRows ∧
      ¬farColumn.start.Short ∧ ∀ c ∈ farColumn,
        (tall.setShared 0 farColumn [.int 1]).2.bound? ⟨0, c⟩ =
            some (.error (.structureNotFound 0 ⟨0, 0⟩)) ∧
          (tall.setArray 0 farColumn [.int 1]).2.bound? ⟨0, c⟩ =
            some (.error (.structureNotFound 0 ⟨0, 0⟩)) :=
  ⟨⟨_, _, rfl⟩, by decide, by decide, by decide, fun _ hc =>
    ⟨bound?_tall (by simp [FormulaBody.kind]) rfl hc,
      bound?_tall (by simp [FormulaBody.kind]) rfl hc⟩⟩

end GroupExample

end Workbook

end Spreadsheet
