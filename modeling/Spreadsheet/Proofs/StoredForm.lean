import Spreadsheet.Proofs.StoredText

/-!
The stored form of formulas is kept byte by byte.

Each part of a token is written as the bytes from which it was read, those without a meaning
included. So a formula that could be read is stored as the bytes it came from, and its data block as
the part that was read.
-/

namespace Spreadsheet

/-! ### Parts of tokens -/

lemma CellError.code_of_ofCode? {b : UInt8} {e : CellError} (h : CellError.ofCode? b = some e) :
    e.code = b := by
  simpa using List.find?_some h

lemma Spacing.code_ofCode (b : UInt8) : (Spacing.ofCode b).code = b := by
  unfold ofCode
  rcases h : known.find? (·.code == b) with _ | s
  · rw [h]
    rfl
  · rw [h]
    simpa using List.find?_some h

lemma writtenBy_cellError : Decode.cellError.WrittenBy
    fun e => (.ok [e.code] : Except EncodeError (List UInt8)) := by
  intro s e rest h
  simp only [Decode.cellError, Reader.reads_bind, Reader.reads_u8] at h
  obtain ⟨b, mid, rfl, h⟩ := h
  split at h
  · rename_i e' he
    obtain ⟨rfl, rfl⟩ := Reader.reads_pure.mp h
    exact ⟨_, rfl, by rw [CellError.code_of_ofCode? he]; rfl⟩
  · exact absurd h Reader.not_reads_fail

theorem writtenBy_element : Decode.element.WrittenBy Encode.element := by
  intro s x rest h
  simp only [Decode.element, Reader.reads_bind, Reader.reads_u8] at h
  obtain ⟨kind, mid, rfl, h⟩ := h
  simp only [Reader.reads_ite] at h
  split_ifs at h with h0 h1 h2 h4 h16
  · simp only [Reader.reads_bind, Reader.reads_bytes, Reader.reads_pure] at h
    obtain ⟨reserved, _, rfl, rfl, rfl⟩ := h
    exact ⟨_, rfl, by simp [h0]⟩
  · simp only [Reader.reads_bind, Reader.reads_u64, Reader.reads_pure] at h
    obtain ⟨bits, _, rfl, rfl, rfl⟩ := h
    exact ⟨_, rfl, by simp [h1, Encode.u64]⟩
  · simp only [Reader.reads_bind, Reader.reads_pure] at h
    obtain ⟨t, _, ht, rfl, rfl⟩ := h
    obtain ⟨bs, hbs, rfl⟩ := writtenBy_text 2 ht
    have hwritten : Encode.element (.text t) = .ok (0x02 :: bs) := by
      simp [Encode.element, hbs, bind, Except.bind, pure, Except.pure]
    exact ⟨0x02 :: bs, hwritten, by simp [h2]⟩
  · simp only [Reader.reads_bind, Reader.reads_u8, Reader.reads_bytes, Reader.reads_pure] at h
    obtain ⟨raw, _, rfl, reserved, _, rfl, rfl, rfl⟩ := h
    exact ⟨_, rfl, by simp [h4]⟩
  · simp only [Reader.reads_bind, Reader.reads_bytes, Reader.reads_pure] at h
    obtain ⟨e, _, he, reserved, _, rfl, rfl, rfl⟩ := h
    obtain ⟨bs, hbs, rfl⟩ := writtenBy_cellError he
    cases hbs
    exact ⟨_, rfl, by simp [h16]⟩
  · exact absurd h Reader.not_reads_fail

theorem writtenBy_array : Decode.array.WrittenBy Encode.array := by
  intro s a rest h
  simp only [Decode.array, Reader.reads_bind, Reader.reads_number, Reader.reads_times,
    Reader.reads_pure] at h
  obtain ⟨c, _, ⟨hc, rfl⟩, r, _, ⟨hr, rfl⟩, values, _, ⟨hlen, hvalues⟩, rfl, rfl⟩ := h
  obtain ⟨bss, hbss, rfl⟩ := writtenBy_element.all hvalues
  have hshape : (⟨r + 1, c + 1, values⟩ : ArrayConstant).WellShaped :=
    ⟨Nat.succ_pos r, Nat.succ_pos c, hlen⟩
  refine ⟨leBytes 1 c ++ leBytes 2 r ++ bss.flatten, ?_, by simp⟩
  unfold Encode.array
  rw [if_neg]
  · simp [hbss, bind, Except.bind, pure, Except.pure]
  · simp only [hshape, not_true_eq_false, false_or, not_or]
    omega

/-! ### Attributes -/

lemma writtenBy_u16 : Reader.u16.WrittenBy
    fun n => (.ok (Encode.u16 n) : Except EncodeError (List UInt8)) := by
  intro s n rest h
  exact ⟨_, rfl, Reader.reads_u16.mp h⟩

lemma leBytes_two (n : UInt16) : leBytes 2 n.toNat = [n.toUInt8, (n / 0x100).toUInt8] := by
  have hlow : n.toNat.toUInt8 = n.toUInt8 := by
    refine UInt8.toNat_inj.mp ?_
    rw [Nat.toUInt8_eq, UInt8.toNat_ofNat', UInt16.toNat_toUInt8]
  have hhigh : (n.toNat / 256).toUInt8 = (n / 0x100).toUInt8 := by
    refine UInt8.toNat_inj.mp ?_
    rw [Nat.toUInt8_eq, UInt8.toNat_ofNat', UInt16.toNat_toUInt8, UInt16.toNat_div]
    rfl
  rw [leBytes, leBytes, leBytes, hlow, hhigh]

theorem writtenBy_attr : Decode.attr.WrittenBy
    fun a => (.ok (Encode.attr a) : Except EncodeError (List UInt8)) := by
  intro s a rest h
  refine ⟨_, rfl, ?_⟩
  simp only [Decode.attr, Reader.reads_bind, Reader.reads_u8, Reader.reads_u16] at h
  obtain ⟨flags, _, rfl, data, _, rfl, h⟩ := h
  simp only [Reader.reads_ite, Reader.reads_bind, Reader.reads_pure, Reader.reads_times] at h
  split_ifs at h with h1 h2 h4 h8 h10 h20 h40
  · obtain ⟨rfl, rfl⟩ := h
    simp [Encode.attr, Attribute.flags, Encode.u16, h1]
  · obtain ⟨rfl, rfl⟩ := h
    simp [Encode.attr, Attribute.flags, Encode.u16, h2]
  · obtain ⟨offsets, _, ⟨hlen, hall⟩, rfl, rfl⟩ := h
    obtain ⟨bss, hbss, rfl⟩ := writtenBy_u16.all hall
    have hmap := List.mapM_pure (m := Except EncodeError) (l := offsets) (f := Encode.u16)
    obtain rfl : offsets.map Encode.u16 = bss := Except.ok.inj (hmap.symm.trans hbss)
    have hcount : (offsets.length - 1).toUInt16 = data := by
      rw [hlen, Nat.add_sub_cancel, Nat.toUInt16_eq, UInt16.ofNat_toNat]
    simp [Encode.attr, Attribute.flags, hcount, Encode.u16, h4, List.flatMap_def]
  · obtain ⟨rfl, rfl⟩ := h
    simp [Encode.attr, Attribute.flags, Encode.u16, h8]
  · obtain ⟨rfl, rfl⟩ := h
    simp [Encode.attr, Attribute.flags, Encode.u16, h10]
  · obtain ⟨rfl, rfl⟩ := h
    rcases h20 with rfl | rfl <;> simp [Encode.attr, Attribute.flags, Encode.u16]
  · obtain ⟨rfl, rfl⟩ := h
    rw [leBytes_two]
    rcases h40 with rfl | rfl <;> simp [Encode.attr, Attribute.flags, Spacing.code_ofCode]
  · obtain ⟨rfl, rfl⟩ := h
    simp [Encode.attr, Attribute.flags, Encode.u16]

/-! ### Addresses -/

/-- A column field is put together from its parts. -/
lemma colField_split {field : Nat} (h : field < 256 ^ 2) :
    Encode.colField (field % 0x4000) (field / 0x4000 % 2 = 1) (field / 0x8000 % 2 = 1) = field := by
  simp only [Encode.colField, decide_eq_true_eq]
  split_ifs <;> omega

lemma addressFields_toAddress {row field : Nat} (hr : row < 256 ^ 2) (hf : field < 256 ^ 2) :
    Encode.addressFields (Decode.toAddress row field) = .ok (leBytes 2 row, leBytes 2 field) := by
  simp only [Encode.addressFields, Decode.toAddress, Decode.splitColField, colField_split hf]
  rw [if_neg]
  omega

lemma offset_toOffset {row field : Nat} (hr : row < 256 ^ 2) (hf : field < 256 ^ 2) :
    Encode.u16 (Decode.toOffset row field).row = leBytes 2 row ∧
      Encode.offsetCol (Decode.toOffset row field) = leBytes 2 field := by
  have hrow : row.toUInt16.toNat = row := UInt16.toNat_ofNat_of_lt' hr
  have hcol : (field % 0x4000).toUInt16.toNat = field % 0x4000 :=
    UInt16.toNat_ofNat_of_lt' (Nat.lt_of_le_of_lt (Nat.mod_le field _) hf)
  simp only [Encode.u16, Encode.offsetCol, Decode.toOffset, Decode.splitColField, hrow, hcol,
    colField_split hf, and_self]

lemma reads_cornerFields {α : Type} {make : Nat → Nat → α} {s rest : List UInt8} {a : α} :
    (Decode.cornerFields make).Reads s a rest ↔ ∃ row col, row < 256 ^ 2 ∧ col < 256 ^ 2 ∧
      s = leBytes 2 row ++ leBytes 2 col ++ rest ∧ a = make row col := by
  simp only [Decode.cornerFields, Reader.reads_bind, Reader.reads_number, Reader.reads_pure]
  constructor
  · rintro ⟨row, _, ⟨hr, rfl⟩, col, _, ⟨hc, rfl⟩, rfl, rfl⟩
    exact ⟨row, col, hr, hc, by simp, rfl⟩
  · rintro ⟨row, col, hr, hc, rfl, rfl⟩
    exact ⟨row, _, ⟨hr, List.append_assoc _ _ _⟩, col, rest, ⟨hc, rfl⟩, rfl, rfl⟩

lemma reads_areaFields {α : Type} {make : Nat → Nat → α} {s rest : List UInt8} {a : α × α} :
    (Decode.areaFields make).Reads s a rest ↔ ∃ row₁ row₂ col₁ col₂, row₁ < 256 ^ 2 ∧
      row₂ < 256 ^ 2 ∧ col₁ < 256 ^ 2 ∧ col₂ < 256 ^ 2 ∧
      s = leBytes 2 row₁ ++ leBytes 2 row₂ ++ leBytes 2 col₁ ++ leBytes 2 col₂ ++ rest ∧
      a = (make row₁ col₁, make row₂ col₂) := by
  simp only [Decode.areaFields, Reader.reads_bind, Reader.reads_number, Reader.reads_pure]
  constructor
  · rintro ⟨r₁, _, ⟨h₁, rfl⟩, r₂, _, ⟨h₂, rfl⟩, c₁, _, ⟨h₃, rfl⟩, c₂, _, ⟨h₄, rfl⟩, rfl, rfl⟩
    exact ⟨r₁, r₂, c₁, c₂, h₁, h₂, h₃, h₄, by simp, rfl⟩
  · rintro ⟨r₁, r₂, c₁, c₂, h₁, h₂, h₃, h₄, rfl, rfl⟩
    exact ⟨r₁, _, ⟨h₁, by simp⟩, r₂, _, ⟨h₂, rfl⟩, c₁, _, ⟨h₃, rfl⟩, c₂, rest, ⟨h₄, rfl⟩, rfl, rfl⟩

theorem writtenBy_address : Decode.address.WrittenBy Encode.address := by
  intro s a rest h
  obtain ⟨row, col, hr, hc, rfl, rfl⟩ := reads_cornerFields.mp h
  refine ⟨leBytes 2 row ++ leBytes 2 col, ?_, rfl⟩
  unfold Encode.address
  rw [addressFields_toAddress hr hc]
  rfl

theorem writtenBy_areaAddress : Decode.areaAddress.WrittenBy Encode.areaAddress := by
  intro s a rest h
  simp only [Decode.areaAddress, Reader.reads_bind, Reader.reads_pure] at h
  obtain ⟨_, _, h, rfl, rfl⟩ := h
  obtain ⟨r₁, r₂, c₁, c₂, h₁, h₂, h₃, h₄, rfl, rfl⟩ := reads_areaFields.mp h
  refine ⟨leBytes 2 r₁ ++ leBytes 2 r₂ ++ leBytes 2 c₁ ++ leBytes 2 c₂, ?_, rfl⟩
  unfold Encode.areaAddress
  rw [addressFields_toAddress h₁ h₃, addressFields_toAddress h₂ h₄]
  rfl

theorem writtenBy_storedArea : Decode.storedArea.WrittenBy Encode.storedArea := by
  intro s a rest h
  simp only [Decode.storedArea, Reader.reads_bind, Reader.reads_pure] at h
  obtain ⟨_, _, h, rfl, rfl⟩ := h
  obtain ⟨r₁, r₂, c₁, c₂, h₁, h₂, h₃, h₄, rfl, rfl⟩ := reads_areaFields.mp h
  refine ⟨leBytes 2 r₁ ++ leBytes 2 r₂ ++ leBytes 2 c₁ ++ leBytes 2 c₂, ?_, rfl⟩
  unfold Encode.storedArea
  rw [if_neg]
  · simp
  · simp only [List.any_cons, List.any_nil, Bool.or_eq_true, decide_eq_true_eq, Bool.or_false]
    omega

end Spreadsheet
