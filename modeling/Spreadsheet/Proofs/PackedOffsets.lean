import Mathlib.Data.Int.ModEq
import Spreadsheet.Proofs.MemberTokens
import Spreadsheet.Proofs.ReadBack

/-!
Distances in the packed fields of an offset.

A field keeps the low bits of a distance and is read as a signed number again, so that the distance
is known up to a multiple of the numbers that the field can tell apart. A grid closes on itself after
as many steps as it has rows or columns. So what the field has lost does not show if it is a multiple
of that, and it does show on every other grid.

Main statement: on a grid whose sides divide the sizes of the fields, an offset made of any distances
means the cell that they lead to. Absolute parts mean themselves, and the fields are read back.
-/

namespace Spreadsheet.OffsetAddress

variable {width extent : Nat} {row col : Int} {rowRelative colRelative : Bool} {limits : Limits}

/-! ### Around the edges -/

/-- A distance of which the low bits are kept leads to the same coordinate. -/
lemma wrap_bmod_modEq (hpos : 0 < extent) (h : extent ∣ width) (n : Nat) (d : Int) :
    (wrap n (Int.bmod d width) extent : Int) ≡ n + d [ZMOD extent] := by
  have hfield : Int.bmod d width ≡ d [ZMOD width] := Int.bmod_emod
  have hkept : Int.bmod d width ≡ d [ZMOD extent] :=
    hfield.of_dvd (Int.natCast_dvd_natCast.mpr h)
  rw [coe_wrap hpos]
  calc ((n + Int.bmod d width) % extent : Int)
      ≡ n + Int.bmod d width [ZMOD extent] := Int.mod_modEq _ _
    _ ≡ n + d [ZMOD extent] := hkept.add_left _

/-- **What a field loses does not show exactly if the grid divides it.** -/
theorem forall_wrap_bmod_iff (hwidth : 0 < width) :
    (∀ (n : Nat) (d : Int), wrap n (Int.bmod d width) extent < extent ∧
      (wrap n (Int.bmod d width) extent : Int) ≡ n + d [ZMOD extent]) ↔ extent ∣ width := by
  constructor
  · intro h
    obtain ⟨-, hcongr⟩ := h 0 width
    -- as many steps as the field can tell apart look like none
    have hzero : wrap 0 (Int.bmod width width) extent = 0 := by simp [wrap, Int.bmod_self]
    rw [hzero] at hcongr
    exact Int.natCast_dvd_natCast.mp (by simpa using Int.modEq_iff_dvd.mp hcongr)
  · intro h n d
    have hpos : 0 < extent := Nat.pos_of_dvd_of_pos h hwidth
    exact ⟨wrap_lt hpos n _, wrap_bmod_modEq hpos h n d⟩

/-! ### Fields -/

lemma coe_row_ofParts :
    ((ofParts row col rowRelative colRelative).row.toNat : Int) = row % 65536 := by
  simp only [ofParts, Nat.toUInt16_eq, UInt16.toNat_ofNat']
  omega

lemma coe_col_ofParts : ((ofParts row col rowRelative colRelative).col.toNat : Int) =
    col % if colRelative then 256 else 16384 := by
  simp only [ofParts, Nat.toUInt16_eq, UInt16.toNat_ofNat']
  split_ifs <;> omega

lemma canonical_ofParts : (ofParts row col rowRelative colRelative).Canonical := by
  have hcol := @coe_col_ofParts row col rowRelative colRelative
  unfold Canonical
  split_ifs at hcol <;> omega

/-- A relative row keeps 16 bits of a distance. -/
lemma rowOffset?_ofParts :
    (ofParts row col true colRelative).rowOffset? = some (Int.bmod row 65536) := by
  have hrow := @coe_row_ofParts row col true colRelative
  simp only [rowOffset?, hrow]
  exact congrArg some (Int.emod_bmod row 65536)

/-- A relative column keeps 8 bits. -/
lemma colOffset?_ofParts :
    (ofParts row col rowRelative true).colOffset? = some (Int.bmod col 256) := by
  have hcol := @coe_col_ofParts row col rowRelative true
  simp only [colOffset?, hcol]
  exact congrArg some (Int.emod_bmod col 256)

/-! ### Fixed widths -/

/-- The fields of two distances with 32 bits by conversions alone: a relative part goes through a
signed number of its own width, and an absolute one keeps the bits of its field. -/
def ofParts32 (row col : Int32) (rowRelative colRelative : Bool) : OffsetAddress where
  row := if rowRelative then row.toInt16.toUInt16 else row.toUInt32.toUInt16
  col := if colRelative then col.toInt8.toUInt8.toUInt16 else col.toUInt32.toUInt16 &&& 0x3FFF
  rowRelative := rowRelative
  colRelative := colRelative

/-- The low bits of a signed number are those of the number without a sign. -/
lemma toInt_emod (i : Int32) {m : Nat} (h : m ∣ 2 ^ 32) : i.toInt % m = i.toUInt32.toNat % m := by
  have hsign : i.toInt ≡ i.toUInt32.toNat [ZMOD (2 ^ 32 : Nat)] := by
    rw [Int32.toInt, BitVec.toInt_eq_toNat_bmod]
    exact Int.bmod_emod
  exact hsign.of_dvd (Int.natCast_dvd_natCast.mpr h)

lemma toNat_toInt16 (i : Int32) : i.toInt16.toUInt16.toNat = i.toUInt32.toNat % 65536 := by
  rw [← UInt16.toNat_toBitVec, Int16.toBitVec_toUInt16, Int32.toBitVec_toInt16,
    BitVec.signExtend_eq_setWidth_of_le _ (by decide), BitVec.toNat_setWidth]
  rfl

lemma toNat_toInt8 (i : Int32) : i.toInt8.toUInt8.toNat = i.toUInt32.toNat % 256 := by
  rw [← UInt8.toNat_toBitVec, Int8.toBitVec_toUInt8, Int32.toBitVec_toInt8,
    BitVec.signExtend_eq_setWidth_of_le _ (by decide), BitVec.toNat_setWidth]
  rfl

/-- **Conversions between fixed widths** find the same fields. -/
theorem ofParts_toInt (row col : Int32) (rowRelative colRelative : Bool) :
    ofParts row.toInt col.toInt rowRelative colRelative =
      ofParts32 row col rowRelative colRelative := by
  have hrow : (ofParts row.toInt col.toInt rowRelative colRelative).row =
      (ofParts32 row col rowRelative colRelative).row := by
    have hlow := toInt_emod row (show 65536 ∣ 2 ^ 32 by decide)
    have hfield := @coe_row_ofParts row.toInt col.toInt rowRelative colRelative
    refine UInt16.toNat_inj.mp ?_
    simp only [ofParts32]
    split_ifs
    · rw [toNat_toInt16]
      omega
    · rw [UInt32.toNat_toUInt16]
      omega
  have hcol : (ofParts row.toInt col.toInt rowRelative colRelative).col =
      (ofParts32 row col rowRelative colRelative).col := by
    have hlow := toInt_emod col (show 256 ∣ 2 ^ 32 by decide)
    have hlow' := toInt_emod col (show 16384 ∣ 2 ^ 32 by decide)
    have hfield := @coe_col_ofParts row.toInt col.toInt rowRelative colRelative
    refine UInt16.toNat_inj.mp ?_
    simp only [ofParts32]
    split_ifs at hfield ⊢
    · rw [UInt8.toNat_toUInt16, toNat_toInt8]
      omega
    · have hmask (n : Nat) : n &&& 0x3FFF = n % 0x4000 := Nat.and_two_pow_sub_one_eq_mod n 14
      rw [UInt16.toNat_and, UInt32.toNat_toUInt16]
      change _ = _ &&& 0x3FFF
      rw [hmask]
      omega
  rw [OffsetAddress.mk.injEq]
  exact ⟨hrow, hcol, rfl, rfl⟩

/-! ### Meaning -/

/-- The coordinate `i` is what a part of an offset means that was made of `d`: if it is relative, the
coordinate on the axis that is `d` steps from `n` around the edges, and else `d` itself, provided
that the field can hold it. -/
def IsMeant (relative : Bool) (d : Int) (n extent max i : Nat) : Prop :=
  if relative then i < extent ∧ (i : Int) ≡ n + d [ZMOD extent]
  else 0 ≤ d → d ≤ max → (i : Int) = d

lemma isMeant_relative {d : Int} {n max i : Nat} :
    IsMeant true d n extent max i ↔ i < extent ∧ (i : Int) ≡ n + d [ZMOD extent] := by
  simp [IsMeant]

lemma isMeant_absolute {d : Int} {n max i : Nat} :
    IsMeant false d n extent max i ↔ (0 ≤ d → d ≤ max → (i : Int) = d) := by
  simp [IsMeant]

/-- A relative part keeps the distance in a field that the grid divides, and an absolute part keeps
the coordinate in one that holds all up to `max`. -/
lemma isMeant_of_field {relative : Bool} {d : Int} {n max i : Nat} (hwidth : 0 < width)
    (h : extent ∣ width) (hrelative : relative = true → i = wrap n (Int.bmod d width) extent)
    (habsolute : relative = false → (i : Int) = d % (max + 1)) :
    IsMeant relative d n extent max i := by
  cases relative with
  | true =>
    rw [isMeant_relative, hrelative rfl]
    exact (forall_wrap_bmod_iff hwidth).mpr h n d
  | false =>
    refine isMeant_absolute.mpr fun hnonneg hmax => ?_
    rw [habsolute rfl]
    exact Int.emod_eq_of_lt hnonneg (by omega)

lemma isMeant_row (h : limits.maxRows ∣ 65536) (origin : Cell) :
    IsMeant rowRelative row origin.row limits.maxRows 0xFFFF
      ((ofParts row col rowRelative colRelative).resolve origin limits).row := by
  refine isMeant_of_field (by decide) h ?_ ?_
  · rintro rfl
    simp only [resolve, rowOffset?_ofParts]
  · rintro rfl
    exact @coe_row_ofParts row col false colRelative

lemma isMeant_col (h : limits.maxCols ∣ 256) (origin : Cell) :
    IsMeant colRelative col origin.col limits.maxCols 0x3FFF
      ((ofParts row col rowRelative colRelative).resolve origin limits).col := by
  refine isMeant_of_field (by decide) h ?_ ?_
  · rintro rfl
    simp only [resolve, colOffset?_ofParts]
  · rintro rfl
    exact @coe_col_ofParts row col rowRelative false

/-- **An offset means the cell that its distances lead to**, on every grid whose sides divide the
sizes of the fields. Each relative part lies on the grid and is as far from the cell as said, counted
around the edges; each absolute part that its field can hold means itself, from any cell. The fields
are read back as the same offset, and conversions between fixed widths find them too. -/
theorem resolve_ofParts (hrows : limits.maxRows ∣ 65536) (hcols : limits.maxCols ∣ 256) :
    (∀ (origin : Cell) (row col : Int) (rowRelative colRelative : Bool),
      let a := ofParts row col rowRelative colRelative
      let b := a.resolve origin limits
      let field := Encode.colField a.col.toNat a.rowRelative a.colRelative
      (b.rowRelative = rowRelative ∧ b.colRelative = colRelative) ∧
        IsMeant rowRelative row origin.row limits.maxRows 0xFFFF b.row ∧
        IsMeant colRelative col origin.col limits.maxCols 0x3FFF b.col ∧
        field < 65536 ∧ Decode.toOffset a.row.toNat field = a) ∧
    ∀ (row col : Int32) (rowRelative colRelative : Bool),
      ofParts row.toInt col.toInt rowRelative colRelative =
        ofParts32 row col rowRelative colRelative :=
  ⟨fun origin _ _ _ _ => ⟨⟨rfl, rfl⟩, isMeant_row hrows origin, isMeant_col hcols origin,
    toOffset_colField canonical_ofParts⟩, ofParts_toInt⟩

/-- On a grid of 1024 rows and 64 columns, far up and to the right from the cell BI4. -/
theorem resolve_ofParts_far :
    let limits : Limits := ⟨1024, 64⟩
    let b := (ofParts (-70000) 1000 true true).resolve ⟨3, 60⟩ limits
    (limits.maxRows ∣ 65536 ∧ limits.maxCols ∣ 256) ∧ b.cell = ⟨659, 36⟩ ∧ limits.Holds b.cell ∧
      (b.row : Int) ≡ 3 - 70000 [ZMOD 1024] ∧ (b.col : Int) ≡ 60 + 1000 [ZMOD 64] := by
  intro limits b
  have hrows : limits.maxRows ∣ 65536 := by decide
  have hcols : limits.maxCols ∣ 256 := by decide
  have hcell : b.cell = ⟨659, 36⟩ := by decide +kernel
  obtain ⟨-, hrow, hcol, -⟩ := (resolve_ofParts hrows hcols).1 ⟨3, 60⟩ (-70000) 1000 true true
  have hholds : limits.Holds b.cell := by
    rw [hcell]
    decide
  exact ⟨⟨hrows, hcols⟩, hcell, hholds, (isMeant_relative.mp hrow).2,
    (isMeant_relative.mp hcol).2⟩

end Spreadsheet.OffsetAddress
