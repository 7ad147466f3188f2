import Spreadsheet.Proofs.Storable
import Spreadsheet.Proofs.StoredForm

/-!
The parts of tokens are read back as they were written.

Some parts of tokens can be written but not told apart afterwards: a meaningless flag byte that has a
meaning after all, or a circular reference, which has the code of a wrong operand. `Canonical` leaves
these out, and nothing else. Each canonical part that can be written is read back, whatever follows.
-/

namespace Spreadsheet

/-! ### Canonical parts -/

/-- A code without a meaning is none of those with one. -/
def Spacing.Canonical : Spacing → Prop
  | other code => 7 ≤ code
  | _ => True

/-- The flags that say what an attribute is. -/
def Attribute.knownFlags : List UInt8 := [0x01, 0x02, 0x04, 0x08, 0x10, 0x20, 0x21, 0x40, 0x41]

def Attribute.Canonical : Attribute → Prop
  | choose offsets => 1 ≤ offsets.length ∧ offsets.length ≤ 65536
  | space spacing _ _ => spacing.Canonical
  | other flags _ => flags ∉ knownFlags
  | _ => True

def ArrayElement.Canonical : ArrayElement → Prop
  | error e _ => e ≠ .circular
  | _ => True

/-- A column field has 14 bits. -/
def OffsetAddress.Canonical (a : OffsetAddress) : Prop := a.col.toNat < 0x4000

/-- Nothing is kept that this kind of note does not store. -/
def Memory.Canonical (m : Memory) : Prop :=
  (m.kind ≠ .areas → m.areas = []) ∧ (m.kind.hasReserved = false → m.reserved = .replicate 4 0)

def Token.Canonical : Token → Prop
  | attr a => a.Canonical
  | error e => e ≠ .circular
  | array _ _ a => ∀ v ∈ a.values, v.Canonical
  | memory m => m.Canonical
  | refN _ a => a.Canonical
  | areaN _ a => a.first.Canonical ∧ a.last.Canonical
  | _ => True

section Decidable

instance : DecidablePred Spacing.Canonical
  | .other code => inferInstanceAs (Decidable (7 ≤ code))
  | .spaceBefore | .breakBefore | .spaceBeforeOpen | .breakBeforeOpen | .spaceBeforeClose
  | .breakBeforeClose | .spaceBeforeFormula => inferInstanceAs (Decidable True)

instance : DecidablePred Attribute.Canonical
  | .choose _ => inferInstanceAs (Decidable (_ ∧ _))
  | .space spacing _ _ => inferInstanceAs (Decidable spacing.Canonical)
  | .other flags _ => inferInstanceAs (Decidable (flags ∉ Attribute.knownFlags))
  | .volatile _ | .ifJump _ | .goto _ | .sum _ | .assignment _ _ => inferInstanceAs (Decidable True)

instance : DecidablePred ArrayElement.Canonical
  | .error e _ => inferInstanceAs (Decidable (e ≠ .circular))
  | .empty _ | .number _ | .text _ | .bool _ _ => inferInstanceAs (Decidable True)

instance (a : OffsetAddress) : Decidable a.Canonical := inferInstanceAs (Decidable (_ < _))

instance (m : Memory) : Decidable m.Canonical := inferInstanceAs (Decidable (_ ∧ _))

instance : DecidablePred Token.Canonical
  | .attr a => inferInstanceAs (Decidable a.Canonical)
  | .error e => inferInstanceAs (Decidable (e ≠ .circular))
  | .array _ _ a => inferInstanceAs (Decidable (∀ v ∈ a.values, v.Canonical))
  | .memory m => inferInstanceAs (Decidable m.Canonical)
  | .refN _ a => inferInstanceAs (Decidable a.Canonical)
  | .areaN _ a => inferInstanceAs (Decidable (a.first.Canonical ∧ a.last.Canonical))
  | .exp .. | .table .. | .binary _ | .unary _ | .paren | .missing | .text _ | .bool _ | .int _
  | .num _ | .func .. | .funcVar .. | .name .. | .nameX .. | .ref .. | .area .. | .refErr ..
  | .areaErr .. | .ref3d .. | .area3d .. | .refErr3d .. | .areaErr3d .. =>
    inferInstanceAs (Decidable True)

end Decidable

/-! ### Reading what was written -/

namespace Reader

variable {α ε : Type} {r : Reader α} {write : α → Except ε (List UInt8)}

/-- The bytes that are written for `a` are read as `a`, whatever follows them. -/
def Restores (r : Reader α) (write : α → Except ε (List UInt8)) (a : α) : Prop :=
  ∀ ⦃bs rest⦄, write a = .ok bs → r.Reads (bs ++ rest) a rest

lemma Restores.all {as : List α} (h : ∀ a ∈ as, r.Restores write a) {bss : List (List UInt8)}
    (hw : as.mapM write = .ok bss) (rest : List UInt8) :
    ReadsAll r (bss.flatten ++ rest) as rest := by
  rw [mapM_eq_ok_iff] at hw
  induction hw with
  | nil => exact .nil rest
  | cons ha _ ih =>
    rw [List.forall_mem_cons] at h
    rw [List.flatten_cons, List.append_assoc]
    exact .cons (h.1 ha) (ih h.2)

end Reader

/-! ### Texts -/

namespace Text

/-- No character is a surrogate. -/
lemma toNat_valid (c : Char) : c.toNat < 0xD800 ∨ 0xDFFF < c.toNat ∧ c.toNat < 0x110000 := c.valid

lemma ofUnits16?_charUnits (c : Char) (us : List UInt16) :
    ofUnits16? (charUnits c ++ us) = (ofUnits16? us).map (c :: ·) := by
  have hc := toNat_valid c
  unfold charUnits
  dsimp only
  split_ifs with hn
  · have hu : c.toNat.toUInt16.toNat = c.toNat := UInt16.toNat_ofNat_of_lt' hn
    have hlow : isLowSurrogate c.toNat.toUInt16 = false := by
      simp only [isLowSurrogate, hu, Bool.and_eq_false_iff, decide_eq_false_iff_not]
      omega
    have hhigh : isHighSurrogate c.toNat.toUInt16 = false := by
      simp only [isHighSurrogate, hu, Bool.and_eq_false_iff, decide_eq_false_iff_not]
      omega
    rw [List.singleton_append, ofUnits16?.eq_def]
    simp only [hlow, hhigh, hu, Char.ofNat_toNat, Bool.false_eq_true, if_false]
  · set high := 0xD800 + (c.toNat - 0x10000) / 0x400 with hhigh
    set low := 0xDC00 + (c.toNat - 0x10000) % 0x400 with hlow
    have hu : high.toUInt16.toNat = high := UInt16.toNat_ofNat_of_lt' (show high < 2 ^ 16 by omega)
    have hv : low.toUInt16.toNat = low := UInt16.toNat_ofNat_of_lt' (show low < 2 ^ 16 by omega)
    have hul : isLowSurrogate high.toUInt16 = false := by
      simp only [isLowSurrogate, hu, Bool.and_eq_false_iff, decide_eq_false_iff_not]
      omega
    have huh : isHighSurrogate high.toUInt16 = true := by
      simp only [isHighSurrogate, hu, Bool.and_eq_true, decide_eq_true_eq]
      omega
    have hvl : isLowSurrogate low.toUInt16 = true := by
      simp only [isLowSurrogate, hv, Bool.and_eq_true, decide_eq_true_eq]
      omega
    have hsum : 0x10000 + (high - 0xD800) * 0x400 + (low - 0xDC00) = c.toNat := by omega
    rw [List.cons_append, List.singleton_append, ofUnits16?.eq_def]
    simp only [hul, huh, hvl, hu, hv, hsum, Char.ofNat_toNat, Bool.false_eq_true, if_false, if_true]

theorem ofUnits16?_units16 (cs : List Char) : ofUnits16? (units16 cs) = some cs := by
  induction cs with
  | nil => rfl
  | cons c cs ih =>
    have hcons : units16 (c :: cs) = charUnits c ++ units16 cs := List.flatMap_cons
    rw [hcons, ofUnits16?_charUnits, ih, Option.map_some]

end Text

lemma Decode.text.units_flatMap (us : List UInt16) : units (us.flatMap Encode.u16) = us := by
  induction us with
  | nil => rfl
  | cons u us ih =>
    have hback : (ofLEBytes (leBytes 2 u.toNat)).toUInt16 = u := by
      rw [ofLEBytes_leBytes u.toNat_lt, Nat.toUInt16_eq, UInt16.ofNat_toNat]
    rw [List.flatMap_cons, Encode.u16]
    show (ofLEBytes (leBytes 2 u.toNat)).toUInt16 :: units (us.flatMap Encode.u16) = u :: us
    rw [hback, ih]

/-- Bytes as a vector of their number. -/
lemma Reader.reads_bytes_append {n : Nat} {bs : List UInt8} (h : bs.length = n)
    (rest : List UInt8) :
    (Reader.bytes n).Reads (bs ++ rest) ⟨bs.toArray, by simpa using h⟩ rest := by
  rw [Reader.reads_bytes]
  simp

theorem restores_text (width : Nat) (t : StoredText) :
    (Decode.text width).Restores (Encode.text width) t := by
  intro bs rest hw
  obtain ⟨⟨hlen, hnarrow⟩, rfl⟩ := Encode.text_eq_ok_iff.mp hw
  have hpos : 0 < 256 ^ width := Nat.pow_pos (by decide)
  have hlt : t.storedLength < 256 ^ width := by omega
  obtain ⟨s, wide⟩ := t
  simp only [Decode.text, Reader.reads_bind, Reader.reads_number, Reader.reads_u8,
    Reader.reads_ite]
  refine ⟨_, _, ⟨hlt, List.append_assoc _ _ _⟩, _, _, rfl, ?_⟩
  cases wide with
  | false =>
    have hraw : (Encode.rawChars ⟨s, false⟩).length = (⟨s, false⟩ : StoredText).storedLength := by
      simp [Encode.rawChars, StoredText.storedLength]
    have hback : (Encode.rawChars ⟨s, false⟩).map (fun b => Char.ofNat b.toNat) = s.toList := by
      simp only [Encode.rawChars, Bool.false_eq_true, if_false, List.map_map]
      refine (List.map_congr_left fun c hc => ?_).trans (List.map_id _)
      have hle := hnarrow rfl c hc
      have hb : c.toNat.toUInt8.toNat = c.toNat :=
        UInt8.toNat_ofNat_of_lt' (Nat.lt_of_le_of_lt hle (by decide))
      simp only [Function.comp_apply, hb, Char.ofNat_toNat, id_eq]
    simp only [Bool.false_eq_true, if_false, if_true]
    refine ⟨_, _, Reader.reads_bytes_append hraw rest, ?_⟩
    simp [hback]
  | true =>
    have hraw : (Encode.rawChars ⟨s, true⟩).length =
        2 * (⟨s, true⟩ : StoredText).storedLength := by
      simp [Encode.rawChars, StoredText.storedLength, List.length_flatMap, Encode.u16, Nat.mul_comm]
    have hback : Text.ofUnits16? (Decode.text.units (Encode.rawChars ⟨s, true⟩)) =
        some s.toList := by
      simp only [Encode.rawChars, if_true]
      rw [Decode.text.units_flatMap, Text.ofUnits16?_units16]
    simp only [if_true]
    rw [if_neg (by decide)]
    refine ⟨_, _, Reader.reads_bytes_append hraw rest, ?_⟩
    simp [hback]

/-! ### Errors and arrays -/

lemma CellError.ofCode?_code {e : CellError} (h : e ≠ .circular) : ofCode? e.code = some e := by
  cases e with
  | circular => exact absurd rfl h
  | null | divisionByZero | value | reference | name | number | notAvailable => rfl

lemma restores_cellError {e : CellError} (h : e ≠ .circular) : Decode.cellError.Restores
    (fun e => (.ok [e.code] : Except EncodeError (List UInt8))) e := by
  rintro _ rest ⟨⟩
  simp only [Decode.cellError, Reader.reads_bind, Reader.reads_u8]
  refine ⟨_, _, rfl, ?_⟩
  rw [CellError.ofCode?_code h]
  exact Reader.reads_pure.mpr ⟨rfl, rfl⟩

theorem restores_element {v : ArrayElement} (h : v.Canonical) :
    Decode.element.Restores Encode.element v := by
  intro bs rest hw
  simp only [Decode.element, Reader.reads_bind, Reader.reads_u8, Reader.reads_ite]
  cases v with
  | empty reserved =>
    cases hw
    refine ⟨_, _, rfl, ?_⟩
    simp
  | number bits =>
    cases hw
    refine ⟨_, _, rfl, ?_⟩
    rw [if_neg (by decide), if_pos rfl]
    exact ⟨bits, rest, Reader.reads_u64.mpr rfl, Reader.reads_pure.mpr ⟨rfl, rfl⟩⟩
  | text s =>
    simp only [Encode.element, bind_eq_ok, pure, Except.pure, Except.ok.injEq] at hw
    obtain ⟨bs, hbs, rfl⟩ := hw
    refine ⟨_, _, rfl, ?_⟩
    rw [if_neg (by decide), if_neg (by decide), if_pos rfl]
    exact ⟨s, rest, restores_text 2 s hbs, Reader.reads_pure.mpr ⟨rfl, rfl⟩⟩
  | bool raw reserved =>
    cases hw
    refine ⟨_, _, rfl, ?_⟩
    simp
  | error e reserved =>
    cases hw
    refine ⟨_, _, rfl, ?_⟩
    rw [if_neg (by decide), if_neg (by decide), if_neg (by decide), if_neg (by decide), if_pos rfl]
    have he : Decode.cellError.Reads ([e.code] ++ (reserved.toList ++ rest)) e
        (reserved.toList ++ rest) := restores_cellError h rfl
    exact ⟨e, _, he, reserved, rest, Reader.reads_bytes.mpr rfl, Reader.reads_pure.mpr ⟨rfl, rfl⟩⟩

theorem restores_array {a : ArrayConstant} (h : ∀ v ∈ a.values, v.Canonical) :
    Decode.array.Restores Encode.array a := by
  intro bs rest hw
  obtain ⟨⟨⟨hr0, hc0, hlen⟩, hc, hr⟩, bss, hbss, rfl⟩ := Encode.array_eq_ok_iff.mp hw
  obtain ⟨rows, cols, values⟩ := a
  dsimp only at hr0 hc0 hlen hc hr hbss h ⊢
  obtain ⟨c, rfl⟩ : ∃ c, cols = c + 1 := ⟨cols - 1, by omega⟩
  obtain ⟨r, rfl⟩ : ∃ r, rows = r + 1 := ⟨rows - 1, by omega⟩
  simp only [Decode.array, Reader.reads_bind, Reader.reads_number, Reader.reads_times,
    Reader.reads_pure, Nat.add_sub_cancel]
  refine ⟨c, leBytes 2 r ++ (bss.flatten ++ rest), ⟨by omega, ?_⟩, r, bss.flatten ++ rest,
    ⟨by omega, rfl⟩, values, rest, ⟨hlen, ?_⟩, rfl, rfl⟩
  · simp
  · exact Reader.Restores.all (fun v hv => restores_element (h v hv)) hbss rest

/-! ### Attributes -/

lemma restores_u16 (n : UInt16) : Reader.u16.Restores
    (fun n => (.ok (Encode.u16 n) : Except EncodeError (List UInt8))) n := by
  rintro _ rest ⟨⟩
  exact Reader.reads_u16.mpr rfl

lemma Spacing.ofCode_code {s : Spacing} (h : s.Canonical) : ofCode s.code = s := by
  cases s with
  | other code =>
    have hlt : ∀ s ∈ known, s.code < 7 := by decide
    have hnone : known.find? (·.code == code) = none := by
      rw [List.find?_eq_none]
      intro s hs he
      rw [beq_iff_eq] at he
      exact absurd (he ▸ hlt s hs) (UInt8.not_lt.mpr h)
    show (known.find? (·.code == code)).getD (.other code) = .other code
    rw [hnone]
    rfl
  | spaceBefore | breakBefore | spaceBeforeOpen | breakBeforeOpen | spaceBeforeClose
  | breakBeforeClose | spaceBeforeFormula => rfl

/-- The number of two bytes, the low one first. -/
lemma exists_u16 (lo hi : UInt8) :
    ∃ n : UInt16, leBytes 2 n.toNat = [lo, hi] ∧ n.toUInt8 = lo ∧ (n / 0x100).toUInt8 = hi := by
  have hlt : ofLEBytes [lo, hi] < 2 ^ 16 := by simpa using ofLEBytes_lt [lo, hi]
  have hn : leBytes 2 (ofLEBytes [lo, hi]).toUInt16.toNat = [lo, hi] := by
    rw [UInt16.toNat_ofNat_of_lt' hlt]
    exact leBytes_ofLEBytes [lo, hi]
  have hparts := (leBytes_two _).symm.trans hn
  simp only [List.cons.injEq, and_true] at hparts
  exact ⟨_, hn, hparts⟩

theorem restores_attr {a : Attribute} (h : a.Canonical) : Decode.attr.Restores
    (fun a => (.ok (Encode.attr a) : Except EncodeError (List UInt8))) a := by
  rintro _ rest ⟨⟩
  simp only [Decode.attr, Reader.reads_bind, Reader.reads_u8, Reader.reads_u16, Reader.reads_ite,
    Reader.reads_pure, Reader.reads_times]
  cases a with
  | volatile data | ifJump data | goto data | sum data =>
    exact ⟨_, _, rfl, data, rest, rfl, by simp [Attribute.flags]⟩
  | choose offsets =>
    obtain ⟨hpos, hle⟩ := h
    have hcount : (offsets.length - 1).toUInt16.toNat + 1 = offsets.length := by
      rw [UInt16.toNat_ofNat_of_lt' (show offsets.length - 1 < 2 ^ 16 by omega)]
      omega
    have hmap : offsets.mapM (fun n => (.ok (Encode.u16 n) : Except EncodeError (List UInt8))) =
        .ok (offsets.map Encode.u16) := List.mapM_pure
    have hall := Reader.Restores.all (fun n _ => restores_u16 n) hmap rest
    refine ⟨_, _, rfl, (offsets.length - 1).toUInt16, _, List.append_assoc _ _ _, ?_⟩
    have hflags : (Attribute.choose offsets).flags = 0x04 := rfl
    rw [if_neg (by simp [hflags]), if_neg (by simp [hflags]), if_pos hflags]
    refine ⟨offsets, rest, ⟨hcount.symm, ?_⟩, rfl, rfl⟩
    rwa [List.flatMap_def]
  | assignment volatile data =>
    refine ⟨_, _, rfl, data, rest, rfl, ?_⟩
    cases volatile <;> simp [Attribute.flags]
  | space spacing count volatile =>
    obtain ⟨n, hn, hlow, hhigh⟩ := exists_u16 spacing.code count
    refine ⟨_, _, rfl, n, rest, by rw [hn]; rfl, ?_⟩
    rw [hlow, hhigh, Spacing.ofCode_code h]
    cases volatile <;> simp [Attribute.flags]
  | other flags data =>
    refine ⟨_, _, rfl, data, rest, rfl, ?_⟩
    simp only [Attribute.Canonical, Attribute.knownFlags, List.mem_cons, List.not_mem_nil, or_false,
      not_or] at h
    simp [Attribute.flags, h]

/-! ### Addresses -/

/-- A column field falls into its parts. -/
lemma splitColField_colField {col : Nat} (h : col ≤ 0x3FFF) (rowRelative colRelative : Bool) :
    Encode.colField col rowRelative colRelative < 256 ^ 2 ∧
      Decode.splitColField (Encode.colField col rowRelative colRelative) =
        (col, rowRelative, colRelative) := by
  simp only [Encode.colField, Decode.splitColField, Prod.mk.injEq]
  cases rowRelative <;> cases colRelative <;>
    simp only [Bool.false_eq_true, if_false, if_true, decide_eq_true_eq, decide_eq_false_iff_not] <;>
    omega

lemma toAddress_colField {a : Address} (h : a.Fits) :
    a.row < 256 ^ 2 ∧ Encode.colField a.col a.rowRelative a.colRelative < 256 ^ 2 ∧
      Decode.toAddress a.row (Encode.colField a.col a.rowRelative a.colRelative) = a := by
  obtain ⟨hlt, hsplit⟩ := splitColField_colField h.2 a.rowRelative a.colRelative
  refine ⟨Nat.lt_of_le_of_lt h.1 (by decide), hlt, ?_⟩
  simp only [Decode.toAddress, hsplit]

lemma toOffset_colField {a : OffsetAddress} (h : a.Canonical) :
    Encode.colField a.col.toNat a.rowRelative a.colRelative < 256 ^ 2 ∧
      Decode.toOffset a.row.toNat (Encode.colField a.col.toNat a.rowRelative a.colRelative) =
        a := by
  obtain ⟨hlt, hsplit⟩ :=
    splitColField_colField (Nat.le_of_lt_succ h) a.rowRelative a.colRelative
  refine ⟨hlt, ?_⟩
  simp [Decode.toOffset, hsplit]

theorem restores_address (a : Address) : Decode.address.Restores Encode.address a := by
  intro bs rest hw
  obtain ⟨hfits, rfl⟩ := Encode.address_eq_ok_iff.mp hw
  obtain ⟨hr, hc, hback⟩ := toAddress_colField hfits
  exact reads_cornerFields.mpr ⟨_, _, hr, hc, rfl, hback.symm⟩

theorem restores_areaAddress (a : AreaAddress) :
    Decode.areaAddress.Restores Encode.areaAddress a := by
  intro bs rest hw
  obtain ⟨⟨hfirst, hlast⟩, rfl⟩ := Encode.areaAddress_eq_ok_iff.mp hw
  obtain ⟨hr₁, hc₁, hback₁⟩ := toAddress_colField hfirst
  obtain ⟨hr₂, hc₂, hback₂⟩ := toAddress_colField hlast
  simp only [Decode.areaAddress, Reader.reads_bind]
  refine ⟨(a.first, a.last), rest, reads_areaFields.mpr ?_, Reader.reads_pure.mpr ⟨rfl, rfl⟩⟩
  exact ⟨_, _, _, _, hr₁, hr₂, hc₁, hc₂, rfl, by rw [hback₁, hback₂]⟩

theorem restores_storedArea (a : StoredArea) : Decode.storedArea.Restores Encode.storedArea a := by
  intro bs rest hw
  obtain ⟨⟨⟨hr₁, hr₂⟩, hc₁, hc₂⟩, rfl⟩ := Encode.storedArea_eq_ok_iff.mp hw
  simp only [Decode.storedArea, Reader.reads_bind]
  refine ⟨(a.first, a.last), rest, reads_areaFields.mpr ?_, Reader.reads_pure.mpr ⟨rfl, rfl⟩⟩
  exact ⟨_, _, _, _, by omega, by omega, by omega, by omega, rfl, rfl⟩

end Spreadsheet
