import Spreadsheet.Proofs.EditTokens
import Spreadsheet.Proofs.MemberTokens
import Spreadsheet.Proofs.SmallestRange

/-!
Away from the edges of the grid, a formula is recorded with exactly what it reads.

The recorded area is built from what the first and the last member of a group see. As long as no
member's reference passes an edge, each of its corners moves along with the member. So the area
covers what all members in between see, and since it is the smallest one around two of them, it is
the smallest one around all. A formula of one cell or of a block is its only member.

Reading differs in two ways from what is recorded. Where an area takes in all rows or all columns it
is cut to the cells in use, and nothing can be read from a sheet behind the last one.
-/

namespace Spreadsheet

namespace Coordinate

/-- For a cell at `n` the coordinate is found without passing an edge of the grid. -/
def Stays (anchor n extent : Nat) : Coordinate → Prop
  | fixed _ => True
  | offset d => 0 ≤ n + d ∧ n + d < extent
  | anchored i => 0 ≤ i + (n - anchor : Int) ∧ i + (n - anchor : Int) < extent

variable {k : Coordinate} {anchor n lo hi extent : Nat}

lemma Stays.exists_at? (h : k.Stays anchor n extent) : ∃ j, k.at? anchor n extent = some j := by
  cases k with
  | fixed i => exact ⟨i, rfl⟩
  | offset d => exact ⟨_, rfl⟩
  | anchored i => exact ⟨_, if_pos h⟩

lemma Stays.not_wraps (h : k.Stays anchor lo extent) (h' : k.Stays anchor hi extent) :
    ¬k.Wraps lo hi extent := by
  cases k with
  | fixed i => exact id
  | anchored i => exact id
  | offset d =>
    have hlo : (lo + d) / (extent : Int) = 0 := Int.ediv_eq_zero_of_lt h.1 h.2
    have hhi : (hi + d) / (extent : Int) = 0 := Int.ediv_eq_zero_of_lt h'.1 h'.2
    exact not_not.mpr (hlo.trans hhi.symm)

end Coordinate

lemma Address.exists_shiftRelative? {a : Address} {anchor c : Cell} {limits : Limits}
    (h : ∀ x : Axis, (a.coordinate x).Stays (x.coordinate anchor) (x.coordinate c)
      (x.extent limits)) :
    ∃ b, a.shiftRelative? (c.row - anchor.row) (c.col - anchor.col) limits = some b := by
  obtain ⟨row, hrow⟩ := (h .rows).exists_at?
  obtain ⟨col, hcol⟩ := (h .cols).exists_at?
  have hrow' : (a.coordinate .rows).at? anchor.row c.row limits.maxRows = some row := hrow
  have hcol' : (a.coordinate .cols).at? anchor.col c.col limits.maxCols = some col := hcol
  rw [shiftRelative?_eq, hrow', hcol']
  exact ⟨_, rfl⟩

namespace Token

/-- The token refers to a cell or an area. -/
def refers : Token → Bool
  | ref .. | area .. | refN .. | areaN .. | ref3d .. | area3d .. => true
  | _ => false

/-- What the token refers to in a cell is found without passing an edge of the grid. -/
def Stays (anchor c : Cell) (limits : Limits) (t : Token) : Prop :=
  ∀ x k k', t.corners? x = some (k, k') →
    k.Stays (x.coordinate anchor) (x.coordinate c) (x.extent limits) ∧
      k'.Stays (x.coordinate anchor) (x.coordinate c) (x.extent limits)

variable {t : Token} {anchor c c' : Cell} {limits : Limits}

lemma Stays.exists_rangeIn? (h : t.Stays anchor c limits) (ht : t.refers) :
    ∃ range, t.rangeIn? anchor c limits = some range := by
  cases t with
  | ref cls a | area cls a | refN cls a | areaN cls a => exact ⟨_, rfl⟩
  | ref3d cls link a =>
    obtain ⟨b, hb⟩ := Address.exists_shiftRelative? fun x => (h x _ _ rfl).1
    exact ⟨.single b.cell, by simp only [rangeIn?, rangeIn?.dRow, rangeIn?.dCol, hb]; rfl⟩
  | area3d cls link a =>
    obtain ⟨first, hfirst⟩ := Address.exists_shiftRelative? fun x => (h x _ _ rfl).1
    obtain ⟨last, hlast⟩ := Address.exists_shiftRelative? fun x => (h x _ _ rfl).2
    have hshift : a.shiftRelative? (c.row - anchor.row) (c.col - anchor.col) limits =
        some ⟨first, last⟩ := by
      rw [AreaAddress.shiftRelative?, hfirst, hlast]
      rfl
    exact ⟨AreaAddress.range ⟨first, last⟩, by
      simp only [rangeIn?, rangeIn?.dRow, rangeIn?.dCol, hshift]; rfl⟩
  | _ => cases ht

lemma Stays.not_wrapsWithin {group : CellRange} (h : t.Stays anchor group.start limits)
    (h' : t.Stays anchor group.stop limits) (x : Axis) : ¬t.WrapsWithin x group limits := by
  rintro ⟨k, k', hk, hw | hw⟩
  · exact (h x k k' hk).1.not_wraps (h' x k k' hk).1 hw
  · exact (h x k k' hk).2.not_wraps (h' x k k' hk).2 hw

end Token

/-! ### What is read -/

namespace Surroundings

variable (s : Surroundings) (limits : Limits)

/-- An area without the rows or columns behind the cells in use, where it takes in all of them. One
row and one column are left. -/
def cut (a : Area) : Area where
  sheet := a.sheet
  range :=
    { start := a.range.start
      stop :=
        { row := if a.range.hasAllRows limits then
              max ((s.usedExtent a.sheet).elim 0 (·.stop.row)) a.range.start.row
            else a.range.stop.row
          col := if a.range.hasAllCols limits then
              max ((s.usedExtent a.sheet).elim 0 (·.stop.col)) a.range.start.col
            else a.range.stop.col }
      row_le := by have := a.range.row_le; dsimp only; split <;> omega
      col_le := by have := a.range.col_le; dsimp only; split <;> omega }

lemma areaOn_eq_cut (sheet : Nat) (a : AreaAddress) :
    s.areaOn sheet a limits = s.cut limits ⟨sheet, a.range⟩ := by
  have hrow : a.isWholeColumn limits = a.range.hasAllRows limits := rfl
  have hcol : a.isWholeRow limits = a.range.hasAllCols limits := rfl
  simp only [areaOn, cut, AreaAddress.isWhole, hrow, hcol, Area.mk.injEq, CellRange.mk.injEq,
    Cell.mk.injEq, true_and]
  constructor <;> split_ifs <;> simp_all

/-- What is read of the area that a token refers to. Only areas are cut, not single cells. A link
may lead past the last sheet. -/
def read (t : Token) (a : Area) : Operand :=
  if t.link?.isSome ∧ s.sheetCount ≤ a.sheet then .error .reference
  else match t with
    | .area .. | .areaN .. | .area3d .. => .reference (.ofArea (s.cut limits a))
    | _ => .reference (.ofArea a)

variable {s} {limits} {links : SheetLinks} {t : Token} {anchor c : Cell} {own sheet : Nat}
  {range : CellRange}

lemma onSheetsOf_of_single {link : UInt16} (hlink : s.link link = some (.span sheet sheet))
    (area : Nat → Area) : s.onSheetsOf link area =
      if s.sheetCount ≤ sheet then .error .reference else .ok (.ofArea (area sheet)) := by
  rw [onSheetsOf, sheetsOf_single hlink]
  split_ifs <;> rfl

/-- A member reads its token on the sheet, and but for the cut in the area, that it is recorded
with. -/
lemma resolve?_bindTo (hlinks : ∀ link, s.link link = links[link.toNat]?)
    (hone : ∀ link, t.link? = some link → ∃ k, links[link.toNat]? = some (.span k k))
    (hsheet : t.observedSheet? own links = some sheet)
    (hrange : t.rangeIn? anchor c limits = some range) :
    s.resolve? limits ⟨own, c⟩ (t.bindTo anchor c limits) =
      some (s.read limits t ⟨sheet, range⟩) := by
  have hsingle : ∀ link area, t.link? = some link → links.localSheet? link = some sheet →
      s.onSheetsOf link area =
        if s.sheetCount ≤ sheet then .error .reference else .ok (.ofArea (area sheet)) := by
    intro link area hlink hlocal
    obtain ⟨k, hspan⟩ := hone link hlink
    obtain rfl : k = sheet := by simpa [SheetLinks.localSheet?, SheetLink.localSheet?, hspan]
      using hlocal
    exact onSheetsOf_of_single ((hlinks link).trans hspan) area
  cases t with
  | ref cls a | refN cls a =>
    cases hsheet
    cases hrange
    rfl
  | area cls a | areaN cls a =>
    cases hsheet
    cases hrange
    simp only [Token.bindTo, resolve?, areaOn_eq_cut]
    rfl
  | ref3d cls link a =>
    obtain ⟨b, hb, rfl⟩ := Option.map_eq_some_iff.mp hrange
    rw [Token.bindTo_ref3d hb, resolve?, hsingle link _ rfl hsheet]
    simp only [read, Token.link?, Option.isSome_some, true_and]
    split_ifs <;> rfl
  | area3d cls link a =>
    obtain ⟨b, hb, rfl⟩ := Option.map_eq_some_iff.mp hrange
    rw [Token.bindTo_area3d hb, resolve?, hsingle link _ rfl hsheet, areaOn_eq_cut]
    simp only [read, Token.link?, Option.isSome_some, true_and]
    split_ifs <;> rfl
  | _ => cases hsheet

/-- In the cell that a formula counts from, its token is read as it stands. -/
lemma resolve?_bindTo_self (hrange : t.rangeIn? anchor anchor limits = some range) :
    s.resolve? limits ⟨own, anchor⟩ (t.bindTo anchor anchor limits) =
      s.resolve? limits ⟨own, anchor⟩ t := by
  cases t with
  | ref3d cls link a =>
    obtain ⟨b, hb, -⟩ := Option.map_eq_some_iff.mp hrange
    obtain rfl := (Address.apartBy_of_shiftRelative? hb).eq
    rw [Token.bindTo_ref3d hb]
  | area3d cls link a =>
    obtain ⟨b, hb, -⟩ := Option.map_eq_some_iff.mp hrange
    obtain ⟨first, hfirst, hb'⟩ := Option.bind_eq_some_iff.mp hb
    obtain ⟨last, hlast, hb'⟩ := Option.bind_eq_some_iff.mp hb'
    obtain rfl := (Address.apartBy_of_shiftRelative? hfirst).eq
    obtain rfl := (Address.apartBy_of_shiftRelative? hlast).eq
    cases hb'
    rw [Token.bindTo_area3d hb]
  | _ => rfl

end Surroundings

/-! ### What is recorded -/

namespace FormulaRecord

variable {r : FormulaRecord} {links : SheetLinks} {limits : Limits} {i : Nat} {t : Token}
  {s : Surroundings}

/-- The members of a record with its formula, as a group. -/
def group (r : FormulaRecord) : SharedFormula := ⟨r.position, r.body.members, r.tokens⟩

lemma members_of_not_shared (h : r.body.kind ≠ .shared) : r.body.members = .single r.position := by
  obtain ⟨sheet, body⟩ := r
  cases body with
  | shared f => exact absurd rfl h
  | _ => rfl

/-- A token that passes no edge for the first and the last member is recorded. -/
lemma exists_observed? (ht : r.tokens[i]? = some t) (hrefers : t.refers)
    (hone : ∀ link, t.link? = some link → ∃ k, links[link.toNat]? = some (.span k k))
    (hfirst : t.Stays r.position r.body.members.start limits)
    (hlast : t.Stays r.position r.body.members.stop limits) :
    ∃ key, r.observed? links limits i = some key := by
  obtain ⟨first, hfirst⟩ := hfirst.exists_rangeIn? hrefers
  obtain ⟨last, hlast⟩ := hlast.exists_rangeIn? hrefers
  have hsheet : ∃ sheet, t.observedSheet? r.sheet links = some sheet := by
    cases t with
    | ref cls a | area cls a | refN cls a | areaN cls a => exact ⟨r.sheet, rfl⟩
    | ref3d cls link a | area3d cls link a =>
      obtain ⟨k, hspan⟩ := hone link rfl
      refine ⟨k, ?_⟩
      simp [Token.observedSheet?, SheetLinks.localSheet?, SheetLink.localSheet?, hspan]
    | _ => cases hrefers
  obtain ⟨sheet, hsheet⟩ := hsheet
  refine ⟨⟨sheet, first.bounding last⟩, ?_⟩
  simp [observed?, ht, hsheet, hfirst, hlast]

/-- **Away from the edges a record observes exactly what its members read.** If no member's
reference passes an edge of the grid, and the link of a reference into another sheet stands for one
sheet, then the token is recorded with an area. It is on the sheet that each member reads, and is
the smallest range with everything that the members' tokens refer to. A member reads what its token
refers to, up to the cut of whole rows and columns, if the sheet exists. For a formula that is not
shared the recorded area is what its own token refers to. -/
theorem observed?_of_stays (hlinks : ∀ link, s.link link = links[link.toNat]?)
    (ht : r.tokens[i]? = some t) (hrefers : t.refers)
    (hstays : ∀ m ∈ r.body.members, t.Stays r.position m limits)
    (hone : ∀ link, t.link? = some link → ∃ k, links[link.toNat]? = some (.span k k)) :
    ∃ key, r.observed? links limits i = some key ∧
      (∀ m ∈ r.body.members, ∃ a, (t.bindTo r.position m limits).area? r.sheet links = some a ∧
        s.resolve? limits ⟨r.sheet, m⟩ (t.bindTo r.position m limits) =
          some (s.read limits t a) ∧
        a.sheet = key.sheet ∧ ∀ c ∈ a.range, c ∈ key.range) ∧
      (∀ range : CellRange, (∀ m ∈ r.body.members, ∀ a,
        (t.bindTo r.position m limits).area? r.sheet links = some a → ∀ c ∈ a.range, c ∈ range) →
          ∀ c ∈ key.range, c ∈ range) ∧
      (r.body.kind ≠ .shared →
        s.resolve? limits r.place t = some (s.read limits t key)) := by
  have hstart := r.body.members.start_mem
  have hstop := r.body.members.stop_mem
  obtain ⟨key, hkey⟩ := exists_observed? ht hrefers hone (hstays _ hstart) (hstays _ hstop)
  obtain ⟨u, first, last, hu, hsheet, hfirst, hlast, hbounding⟩ := observed?_eq_some hkey
  obtain rfl := Option.some.inj (ht.symm.trans hu)
  have harea : ∀ m range, t.rangeIn? r.position m limits = some range →
      (t.bindTo r.position m limits).area? r.sheet links = some ⟨key.sheet, range⟩ := by
    intro m range hrange
    rw [Token.area?_bindTo, hsheet, hrange]
    rfl
  have hread : ∀ m range, t.rangeIn? r.position m limits = some range →
      s.resolve? limits ⟨r.sheet, m⟩ (t.bindTo r.position m limits) =
        some (s.read limits t ⟨key.sheet, range⟩) :=
    fun m range hrange => Surroundings.resolve?_bindTo hlinks hone hsheet hrange
  refine ⟨key, hkey, fun m hm => ?_, fun range hrange => ?_, fun hkind => ?_⟩
  · obtain ⟨range, hrange⟩ := (hstays m hm).exists_rangeIn? hrefers
    refine ⟨_, harea m range hrange, hread m range hrange, rfl, ?_⟩
    refine CellRange.forall_mem_iff.mpr fun x => ?_
    have hnot := (hstays _ hstart).not_wrapsWithin (hstays _ hstop) x
    exact SharedFormula.coordinate_le_of_member (f := r.group) hm ht hkey hrange
      fun hc => absurd hc hnot
  · have hends : ∀ c ∈ first, c ∈ range := hrange _ hstart _ (harea _ _ hfirst)
    have hends' : ∀ c ∈ last, c ∈ range := hrange _ hstop _ (harea _ _ hlast)
    rw [hbounding]
    exact CellRange.forall_mem_bounding hends hends'
  · have hmembers := members_of_not_shared hkind
    rw [hmembers] at hfirst hlast
    obtain rfl : first = last := Option.some.inj (hfirst.symm.trans hlast)
    rw [CellRange.bounding_self] at hbounding
    have hself := hread r.position first hfirst
    rw [Surroundings.resolve?_bindTo_self hfirst, ← hbounding] at hself
    exact hself

namespace CrossingArea

/-- An area whose first corner moves with the member and whose last corner stays. The moving one
starts above the other one and ends below it. -/
def token : Token := .area3d .reference 0 ⟨⟨1, 1, true, true⟩, ⟨2, 0, false, false⟩⟩

def record : FormulaRecord := ⟨0, .shared ⟨⟨2, 2⟩, .ofCorners ⟨2, 2⟩ ⟨4, 3⟩, [token]⟩⟩

def table : SheetLinks := #[.span 1 1]

def book : Surroundings :=
  { (Workbook.empty {}).surroundings with sheetCount := 2, link := fun i => table[i.toNat]? }

theorem observed?_of_stays_crossing :
    (∀ m ∈ record.body.members, token.Stays record.position m {}) ∧
      ∃ key, record.observed? table {} 0 = some key ∧
        (∀ m ∈ record.body.members, ∃ a,
          (token.bindTo record.position m {}).area? 0 table = some a ∧
            book.resolve? {} ⟨0, m⟩ (token.bindTo record.position m {}) =
              some (book.read {} token a) ∧
            a.sheet = key.sheet ∧ ∀ c ∈ a.range, c ∈ key.range) ∧
        ∀ range : CellRange, (∀ m ∈ record.body.members, ∀ a,
          (token.bindTo record.position m {}).area? 0 table = some a → ∀ c ∈ a.range, c ∈ range) →
            ∀ c ∈ key.range, c ∈ range := by
  have hstays : ∀ m ∈ record.body.members, token.Stays record.position m {} := by
    intro m hm x k k' hk
    obtain ⟨hrow, hrow', hcol, hcol'⟩ : 2 ≤ m.row ∧ m.row ≤ 4 ∧ 2 ≤ m.col ∧ m.col ≤ 3 := hm
    cases hk
    cases x with
    | rows =>
      have hmoves : 0 ≤ 1 + (m.row - 2 : Int) ∧ 1 + (m.row - 2 : Int) < 65536 := by omega
      exact ⟨hmoves, trivial⟩
    | cols =>
      have hmoves : 0 ≤ 1 + (m.col - 2 : Int) ∧ 1 + (m.col - 2 : Int) < 256 := by omega
      exact ⟨hmoves, trivial⟩
  have hlinks : ∀ link, book.link link = table[link.toNat]? := fun link => rfl
  have htoken : record.tokens[0]? = some token := rfl
  have hone : ∀ link, token.link? = some link → ∃ k, table[link.toNat]? = some (.span k k) := by
    intro link hlink
    cases hlink
    exact ⟨1, rfl⟩
  obtain ⟨key, hkey, hmembers, hleast, -⟩ := observed?_of_stays hlinks htoken rfl hstays hone
  exact ⟨hstays, key, hkey, hmembers, hleast⟩

example : record.observed? table {} 0 = some ⟨1, .ofCorners ⟨1, 0⟩ ⟨3, 2⟩⟩ := by decide

end CrossingArea

end FormulaRecord

end Spreadsheet
