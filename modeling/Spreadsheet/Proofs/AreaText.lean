import Spreadsheet.Proofs.AddressText
import Spreadsheet.Proofs.GridEdit

/-!
Areas as text.

Each corner of an area is written as an address, of which whole columns leave out the row and whole
rows the column. What is left out is told by the form of the text: an area without row numbers takes
in every row and one without letters every column, so that on the grid no two areas that differ in
their cells or in a shown mark look alike.
-/

namespace Spreadsheet

/-! ### Parts of addresses -/

namespace Address

variable {a b : Address} {c : Char} {cols rows : Bool}

/-- The letters, the number or both, each behind its dollar sign. -/
def partText (cols rows : Bool) (a : Address) : List Char :=
  (if cols then a.colText else []) ++ if rows then a.rowText else []

lemma colText_eq (a : Address) :
    a.colText = AddressSpelling.sign (!a.colRelative) ++ columnName a.col := by
  rw [colText]
  cases a.colRelative <;> rfl

lemma rowText_eq (a : Address) :
    a.rowText = AddressSpelling.sign (!a.rowRelative) ++ Nat.toDigits 10 (a.row + 1) := by
  rw [rowText]
  cases a.rowRelative <;> rfl

lemma isAlpha_or_eq_of_mem_colText (h : c ∈ a.colText) : c.isAlpha ∨ c = '$' := by
  rw [colText_eq, List.mem_append] at h
  exact h.symm.imp isAlpha_of_mem_columnName AddressSpelling.eq_of_mem_sign

lemma isDigit_or_eq_of_mem_rowText (h : c ∈ a.rowText) : c.isDigit ∨ c = '$' := by
  rw [rowText_eq, List.mem_append] at h
  exact h.symm.imp (Nat.isDigit_of_mem_toDigits (b := 10) (by decide) (by decide) ·)
    AddressSpelling.eq_of_mem_sign

lemma exists_isAlpha_colText (a : Address) : ∃ c ∈ a.colText, c.isAlpha := by
  obtain ⟨c, hc⟩ := List.exists_mem_of_ne_nil _ (columnName_ne_nil a.col)
  exact ⟨c, by simp [colText_eq, hc], isAlpha_of_mem_columnName hc⟩

lemma exists_isDigit_rowText (a : Address) : ∃ c ∈ a.rowText, c.isDigit := by
  obtain ⟨c, hc⟩ := List.exists_mem_of_ne_nil (Nat.toDigits 10 (a.row + 1)) Nat.toDigits_ne_nil
  exact ⟨c, by simp [rowText_eq, hc], Nat.isDigit_of_mem_toDigits (by decide) (by decide) hc⟩

/-- What follows the letters begins with a dollar sign or a digit, if there is anything. -/
lemma isAlpha_eq_false_of_mem_rowText (h : c ∈ a.rowText) : c.isAlpha = false := by
  rcases isDigit_or_eq_of_mem_rowText h with h | rfl
  · exact isAlpha_eq_false_of_isDigit h
  · rfl

lemma isDigit_eq_false_of_mem_colText (h : c ∈ a.colText) : c.isDigit = false := by
  rcases isAlpha_or_eq_of_mem_colText h with h | rfl
  · refine Bool.eq_false_iff.mpr fun hdigit => ?_
    rw [isAlpha_eq_false_of_isDigit hdigit] at h
    cases h
  · rfl

lemma mem_partText : c ∈ a.partText cols rows ↔ cols ∧ c ∈ a.colText ∨ rows ∧ c ∈ a.rowText := by
  cases cols <;> cases rows <;> simp [partText]

lemma exists_isAlpha_partText_iff : (∃ c ∈ a.partText cols rows, c.isAlpha) ↔ cols := by
  constructor
  · rintro ⟨c, hc, halpha⟩
    rcases mem_partText.mp hc with ⟨hcols, -⟩ | ⟨-, hc⟩
    · exact hcols
    · rw [isAlpha_eq_false_of_mem_rowText hc] at halpha
      cases halpha
  · intro hcols
    obtain ⟨c, hc, halpha⟩ := a.exists_isAlpha_colText
    exact ⟨c, mem_partText.mpr (.inl ⟨hcols, hc⟩), halpha⟩

lemma exists_isDigit_partText_iff : (∃ c ∈ a.partText cols rows, c.isDigit) ↔ rows := by
  constructor
  · rintro ⟨c, hc, hdigit⟩
    rcases mem_partText.mp hc with ⟨-, hc⟩ | ⟨hrows, -⟩
    · rw [isDigit_eq_false_of_mem_colText hc] at hdigit
      cases hdigit
    · exact hrows
  · intro hrows
    obtain ⟨c, hc, hdigit⟩ := a.exists_isDigit_rowText
    exact ⟨c, mem_partText.mpr (.inr ⟨hrows, hc⟩), hdigit⟩

lemma colon_notMem_partText : ':' ∉ a.partText cols rows := by
  intro h
  rcases mem_partText.mp h with ⟨-, h⟩ | ⟨-, h⟩
  · rcases isAlpha_or_eq_of_mem_colText h with h | h <;> cases h
  · rcases isDigit_or_eq_of_mem_rowText h with h | h <;> cases h

/-- Letters and their mark are told apart from what follows. -/
lemma colText_append_inj {rest rest' : List Char} (h : ∀ c ∈ rest.head?, c.isAlpha = false)
    (h' : ∀ c ∈ rest'.head?, c.isAlpha = false) : a.colText ++ rest = b.colText ++ rest' ↔
      (a.col = b.col ∧ a.colRelative = b.colRelative) ∧ rest = rest' := by
  constructor
  · intro heq
    have hsplit (x : Address) (cs : List Char) :
        splitDollar (x.colText ++ cs) = (x.colRelative, columnName x.col ++ cs) := by
      have hhead : (columnName x.col ++ cs).head? ≠ some '$' :=
        (AddressSpelling.ofAddress x).head?_letters_append cs
      rw [colText_eq, List.append_assoc, AddressSpelling.splitDollar_sign _ hhead, Bool.not_not]
    have halpha (x : Address) : ∀ c ∈ columnName x.col, c.isAlpha := fun _ =>
      isAlpha_of_mem_columnName
    have hparts := congrArg splitDollar heq
    rw [hsplit, hsplit, Prod.mk.injEq] at hparts
    obtain ⟨hmark, hparts⟩ := hparts
    have hname : columnName a.col = columnName b.col := by
      rw [← Text.takeWhile_run (halpha a) h, hparts, Text.takeWhile_run (halpha b) h']
    have hvalue := congrArg letterValue hname
    rw [letterValue_columnName, letterValue_columnName] at hvalue
    rw [hname, List.append_right_inj] at hparts
    exact ⟨⟨by omega, hmark⟩, hparts⟩
  · rintro ⟨⟨hcol, hmark⟩, rfl⟩
    rw [colText_eq, colText_eq, hcol, hmark]

lemma rowText_inj : a.rowText = b.rowText ↔ a.row = b.row ∧ a.rowRelative = b.rowRelative := by
  constructor
  · intro heq
    have hsplit (x : Address) :
        splitDollar x.rowText = (x.rowRelative, Nat.toDigits 10 (x.row + 1)) := by
      have hhead : (Nat.toDigits 10 (x.row + 1)).head? ≠ some '$' :=
        (AddressSpelling.ofAddress x).head?_digits
      rw [rowText_eq, AddressSpelling.splitDollar_sign _ hhead, Bool.not_not]
    have hparts := congrArg splitDollar heq
    rw [hsplit, hsplit, Prod.mk.injEq] at hparts
    have hvalue := congrArg Number.ofDigits hparts.2
    rw [Number.ofDigits_toDigits, Number.ofDigits_toDigits] at hvalue
    exact ⟨by omega, hparts.1⟩
  · rintro ⟨hrow, hmark⟩
    rw [rowText_eq, rowText_eq, hrow, hmark]

/-- **Addresses of one form** have the same text if and only if they agree in what is shown. -/
lemma partText_inj : a.partText cols rows = b.partText cols rows ↔
    (cols → a.col = b.col ∧ a.colRelative = b.colRelative) ∧
      (rows → a.row = b.row ∧ a.rowRelative = b.rowRelative) := by
  have hstart (x : Address) :
      ∀ c ∈ (if rows then x.rowText else []).head?, c.isAlpha = false := fun c hc => by
    split at hc
    · exact isAlpha_eq_false_of_mem_rowText (List.mem_of_mem_head? hc)
    · cases hc
  have hrows : (if rows then a.rowText else []) = (if rows then b.rowText else []) ↔
      (rows → a.row = b.row ∧ a.rowRelative = b.rowRelative) := by
    cases rows
    · simp
    · simp [rowText_inj]
  rcases cols with _ | _
  · simpa [partText] using hrows
  · simpa [partText, hrows] using colText_append_inj (a := a) (b := b) (hstart a) (hstart b)

end Address

/-! ### Ranges -/

/-- On the grid a range with all rows ends in the last one. -/
lemma CellRange.hasAllRows_iff {r : CellRange} {limits : Limits} (h : limits.Holds r.stop) :
    r.hasAllRows limits ↔ r.start.row = 0 ∧ r.stop.row = limits.maxRows - 1 := by
  have := h.1
  simp only [hasAllRows, Bool.and_eq_true, decide_eq_true_eq]
  omega

lemma CellRange.hasAllCols_iff {r : CellRange} {limits : Limits} (h : limits.Holds r.stop) :
    r.hasAllCols limits ↔ r.start.col = 0 ∧ r.stop.col = limits.maxCols - 1 := by
  have := h.2
  simp only [hasAllCols, Bool.and_eq_true, decide_eq_true_eq]
  omega

namespace AreaAddress

variable {a b : AreaAddress} {limits : Limits}

/-! ### What a text shows -/

/-- The text has letters of columns. -/
def ShowsCols (a : AreaAddress) (limits : Limits) : Prop := ∃ c ∈ a.text limits, c.isAlpha

/-- The text has numbers of rows. -/
def ShowsRows (a : AreaAddress) (limits : Limits) : Prop := ∃ c ∈ a.text limits, c.isDigit

/-- Each corner has the same column, with the same mark. -/
structure SameCols (a b : AreaAddress) : Prop where
  first : a.first.col = b.first.col ∧ a.first.colRelative = b.first.colRelative
  last : a.last.col = b.last.col ∧ a.last.colRelative = b.last.colRelative

/-- Each corner has the same row, with the same mark. -/
structure SameRows (a b : AreaAddress) : Prop where
  first : a.first.row = b.first.row ∧ a.first.rowRelative = b.first.rowRelative
  last : a.last.row = b.last.row ∧ a.last.rowRelative = b.last.rowRelative

/-- Columns are left out of whole rows, unless the whole sheet is meant. -/
def writesCols (a : AreaAddress) (limits : Limits) : Bool :=
  a.isWholeColumn limits || !a.isWholeRow limits

/-- Rows are left out of whole columns, unless the whole sheet is meant. -/
def writesRows (a : AreaAddress) (limits : Limits) : Bool :=
  a.isWholeRow limits || !a.isWholeColumn limits

lemma text_eq (a : AreaAddress) (limits : Limits) : a.text limits =
    a.first.partText (a.writesCols limits) (a.writesRows limits) ++
      ':' :: a.last.partText (a.writesCols limits) (a.writesRows limits) := by
  unfold text writesCols writesRows Address.partText
  cases a.isWholeColumn limits <;> cases a.isWholeRow limits <;> simp [Address.text]

/-- What is told by some character is told by one of a corner, as long as colons do not tell it. -/
lemma exists_mem_text_iff {P : Char → Prop} {shown : Prop} (hcolon : ¬ P ':')
    (hpart : ∀ x : Address,
      (∃ c ∈ x.partText (a.writesCols limits) (a.writesRows limits), P c) ↔ shown) :
    (∃ c ∈ a.text limits, P c) ↔ shown := by
  simp only [text_eq, List.mem_append, List.mem_cons, or_and_right, exists_or, exists_eq_left,
    hcolon, false_or, hpart, or_self]

lemma showsCols_iff : a.ShowsCols limits ↔ a.writesCols limits :=
  exists_mem_text_iff (by decide) fun _ => Address.exists_isAlpha_partText_iff

lemma showsRows_iff : a.ShowsRows limits ↔ a.writesRows limits :=
  exists_mem_text_iff (by decide) fun _ => Address.exists_isDigit_partText_iff

/-- **The same text** is of one form, and shows the same in it. -/
lemma text_eq_text_iff_parts : a.text limits = b.text limits ↔
    (a.writesCols limits = b.writesCols limits ∧ a.writesRows limits = b.writesRows limits) ∧
      (a.writesCols limits → a.SameCols b) ∧ (a.writesRows limits → a.SameRows b) := by
  have hparts (h : a.writesCols limits = b.writesCols limits)
      (h' : a.writesRows limits = b.writesRows limits) : a.text limits = b.text limits ↔
        (a.writesCols limits → a.SameCols b) ∧ (a.writesRows limits → a.SameRows b) := by
    rw [text_eq, text_eq, ← h, ← h', List.append_cons_inj_of_notMem Address.colon_notMem_partText
      Address.colon_notMem_partText, Address.partText_inj, Address.partText_inj, and_iff_right rfl]
    constructor
    · rintro ⟨hfirst, hlast⟩
      exact ⟨fun hc => ⟨hfirst.1 hc, hlast.1 hc⟩, fun hr => ⟨hfirst.2 hr, hlast.2 hr⟩⟩
    · rintro ⟨hcols, hrows⟩
      exact ⟨⟨fun hc => (hcols hc).first, fun hr => (hrows hr).first⟩,
        fun hc => (hcols hc).last, fun hr => (hrows hr).last⟩
  constructor
  · intro h
    have hcols : a.writesCols limits = b.writesCols limits := by
      rw [Bool.eq_iff_iff, ← showsCols_iff, ← showsCols_iff, ShowsCols, h, ShowsCols]
    have hrows : a.writesRows limits = b.writesRows limits := by
      rw [Bool.eq_iff_iff, ← showsRows_iff, ← showsRows_iff, ShowsRows, h, ShowsRows]
    exact ⟨⟨hcols, hrows⟩, (hparts hcols hrows).mp h⟩
  · rintro ⟨⟨hcols, hrows⟩, h⟩
    exact (hparts hcols hrows).mpr h

/-! ### What a text leaves out -/

/-- The columns of both areas are the same. -/
lemma cols_range_eq (ha : a.OnGrid limits) (hb : b.OnGrid limits)
    (hwrites : a.writesCols limits = b.writesCols limits)
    (h : a.writesCols limits → a.SameCols b) :
    a.range.start.col = b.range.start.col ∧ a.range.stop.col = b.range.stop.col := by
  rcases hcols : a.writesCols limits with _ | _
  · rw [hcols] at hwrites
    have hwhole {x : AreaAddress} (hx : x.writesCols limits = false) :
        x.range.hasAllCols limits := by
      simp only [writesCols, Bool.or_eq_false_iff, Bool.not_eq_false'] at hx
      exact hx.2
    have hacols := (CellRange.hasAllCols_iff ha.holds_stop).mp (hwhole hcols)
    have hbcols := (CellRange.hasAllCols_iff hb.holds_stop).mp (hwhole hwrites.symm)
    exact ⟨hacols.1.trans hbcols.1.symm, hacols.2.trans hbcols.2.symm⟩
  · obtain ⟨⟨hfirst, -⟩, hlast, -⟩ := h hcols
    simp only [range, CellRange.ofCorners, Address.cell, hfirst, hlast, and_self]

/-- The rows of both areas are the same. -/
lemma rows_range_eq (ha : a.OnGrid limits) (hb : b.OnGrid limits)
    (hwrites : a.writesRows limits = b.writesRows limits)
    (h : a.writesRows limits → a.SameRows b) :
    a.range.start.row = b.range.start.row ∧ a.range.stop.row = b.range.stop.row := by
  rcases hrows : a.writesRows limits with _ | _
  · rw [hrows] at hwrites
    have hwhole {x : AreaAddress} (hx : x.writesRows limits = false) :
        x.range.hasAllRows limits := by
      simp only [writesRows, Bool.or_eq_false_iff, Bool.not_eq_false'] at hx
      exact hx.2
    have harows := (CellRange.hasAllRows_iff ha.holds_stop).mp (hwhole hrows)
    have hbrows := (CellRange.hasAllRows_iff hb.holds_stop).mp (hwhole hwrites.symm)
    exact ⟨harows.1.trans hbrows.1.symm, harows.2.trans hbrows.2.symm⟩
  · obtain ⟨⟨hfirst, -⟩, hlast, -⟩ := h hrows
    simp only [range, CellRange.ofCorners, Address.cell, hfirst, hlast, and_self]

/-- **Areas that look alike.** Two areas on the grid have the same text if and only if they take in
the same cells and, as far as the text has letters or numbers, their corners have the same columns
or rows with the same marks. -/
theorem text_eq_text_iff (ha : a.OnGrid limits) (hb : b.OnGrid limits) :
    a.text limits = b.text limits ↔ a.range = b.range ∧
      (a.ShowsCols limits → a.SameCols b) ∧ (a.ShowsRows limits → a.SameRows b) := by
  rw [showsCols_iff, showsRows_iff, text_eq_text_iff_parts]
  refine and_congr_left fun hsame => ⟨fun hwrites => ?_, fun hrange => ?_⟩
  · obtain ⟨hstartCol, hstopCol⟩ := cols_range_eq ha hb hwrites.1 hsame.1
    obtain ⟨hstartRow, hstopRow⟩ := rows_range_eq ha hb hwrites.2 hsame.2
    exact CellRange.ext (Cell.ext hstartRow hstartCol) (Cell.ext hstopRow hstopCol)
  · simp only [writesCols, writesRows, isWholeColumn, isWholeRow, hrange, and_self]

/-- Columns `D` to `B`, the first absolute: the rows of their corners stand in either order, with any
marks. -/
theorem text_eq_text_iff_columns :
    let a : AreaAddress := ⟨⟨0, 3, true, false⟩, ⟨65535, 1, true, true⟩⟩
    let b : AreaAddress := ⟨⟨65535, 3, false, false⟩, ⟨0, 1, true, true⟩⟩
    a.OnGrid {} ∧ b.OnGrid {} ∧ a.text {} = "$D:B".toList ∧ b.text {} = "$D:B".toList ∧
      a.range = b.range ∧ a.SameCols b ∧ ¬ a.SameRows b := by
  intro a b
  have ha : a.OnGrid {} := by decide
  have hb : b.OnGrid {} := by decide
  have hatext : a.text {} = "$D:B".toList := by decide +kernel
  have hbtext : b.text {} = "$D:B".toList := by decide +kernel
  obtain ⟨hrange, hcols, -⟩ := (text_eq_text_iff ha hb).mp (hatext.trans hbtext.symm)
  have hshows : a.ShowsCols {} := showsCols_iff.mpr (by decide)
  exact ⟨ha, hb, hatext, hbtext, hrange, hcols hshows, fun h => absurd h.first.1 (by decide)⟩

end AreaAddress

end Spreadsheet
