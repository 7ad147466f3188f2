import Spreadsheet.Proofs.StoredForm

/-!
A formula that was read is stored as the bytes it came from.

A token is read in two steps, so the law of its payload speaks of a token that may still want its
part of the data block. The law of a whole formula follows by induction on its tokens.
-/

namespace Spreadsheet

namespace Decode

/-- However a token is completed, it is written behind the given opcode as the given bytes, and its
part of the data block as the bytes that were read there. -/
def Pending.WrittenAs (p : Pending) (opcode : UInt8) (bs : List UInt8) : Prop :=
  ∀ {data t rest}, p.complete.Reads data t rest → t.opcode = opcode ∧
    Encode.payload t = .ok bs ∧ ∃ used, Encode.data t = .ok used ∧ data = used ++ rest

lemma writtenAs_done {t : Token} {opcode : UInt8} {bs : List UInt8} (ho : t.opcode = opcode)
    (hp : Encode.payload t = .ok bs) (hd : Encode.data t = .ok []) :
    (Pending.done t).WrittenAs opcode bs := by
  intro data t' rest h
  obtain ⟨rfl, rfl⟩ := Reader.reads_pure.mp h
  exact ⟨ho, hp, [], hd, rfl⟩

lemma writtenAs_array {cls : TokenClass} (reserved : Vector UInt8 7) :
    (Pending.array cls reserved).WrittenAs (TokenKind.array.opcode (some cls))
      reserved.toList := by
  intro data t rest h
  simp only [Pending.complete, Reader.reads_bind, Reader.reads_pure] at h
  obtain ⟨value, _, hv, rfl, rfl⟩ := h
  obtain ⟨bs, hbs, rfl⟩ := writtenBy_array hv
  exact ⟨rfl, rfl, bs, hbs, rfl⟩

lemma writtenAs_areas {cls : TokenClass} (reserved : Vector UInt8 4) (length : UInt16) :
    (Pending.areas cls reserved length).WrittenAs (TokenKind.memArea.opcode (some cls))
      (reserved.toList ++ Encode.u16 length) := by
  intro data t rest h
  simp only [Pending.complete, Reader.reads_bind, Reader.reads_number, Reader.reads_times,
    Reader.reads_pure] at h
  obtain ⟨count, _, ⟨hlt, rfl⟩, areas, _, ⟨rfl, hall⟩, rfl, rfl⟩ := h
  obtain ⟨bss, hbss, rfl⟩ := writtenBy_storedArea.all hall
  refine ⟨rfl, rfl, leBytes 2 areas.length ++ bss.flatten, ?_, by simp⟩
  simp only [Encode.data, Encode.memoryData]
  rw [if_neg (by simp), if_neg (by omega)]
  simp [hbss, bind, Except.bind, pure, Except.pure]

/-- The law of the payloads of one kind and class. -/
abbrev PayloadWritten (kind : TokenKind) (cls : TokenClass) (r : Reader Pending) : Prop :=
  ∀ {s p rest}, r.Reads s p rest → ∃ bs, s = bs ++ rest ∧ p.WrittenAs (kind.opcode (some cls)) bs

lemma written_memory (kind : MemoryKind) (cls : TokenClass) :
    PayloadWritten kind.kind cls (memory kind cls) := by
  intro s p rest h
  cases kind with
  | areas =>
    simp only [memory, MemoryKind.hasReserved, if_true, Reader.reads_bind, Reader.reads_bytes,
      Reader.reads_u16, Reader.reads_pure] at h
    obtain ⟨reserved, _, rfl, length, _, rfl, rfl, rfl⟩ := h
    exact ⟨_, (List.append_assoc _ _ _).symm, writtenAs_areas reserved length⟩
  | error | notStored =>
    simp only [memory, MemoryKind.hasReserved, if_true, reduceCtorEq, if_false, Reader.reads_bind,
      Reader.reads_bytes, Reader.reads_u16, Reader.reads_pure] at h
    obtain ⟨reserved, _, rfl, length, _, rfl, rfl, rfl⟩ := h
    exact ⟨_, (List.append_assoc _ _ _).symm, writtenAs_done rfl rfl rfl⟩
  | function | areasRelative | notStoredRelative =>
    simp only [memory, MemoryKind.hasReserved, Bool.false_eq_true, reduceCtorEq, if_false,
      Reader.reads_bind, Reader.reads_u16, Reader.reads_pure] at h
    obtain ⟨_, _, ⟨rfl, rfl⟩, length, _, rfl, rfl, rfl⟩ := h
    exact ⟨_, rfl, writtenAs_done rfl rfl rfl⟩

/-- A payload without a part in the data block. -/
abbrev alone (r : Reader Token) : Reader Pending := do return .done (← r)

/-- A payload that is one part of the token. -/
lemma written_part {α : Type} {part : Reader α} {write : α → Except EncodeError (List UInt8)}
    {f : α → Token} {kind : TokenKind} {cls : TokenClass} (hw : part.WrittenBy write)
    (ho : ∀ a, (f a).opcode = kind.opcode (some cls)) (hp : ∀ a, Encode.payload (f a) = write a)
    (hd : ∀ a, Encode.data (f a) = .ok []) :
    PayloadWritten kind cls (alone do return f (← part)) := by
  intro s p rest h
  simp only [alone, Reader.reads_bind, Reader.reads_pure] at h
  obtain ⟨_, _, ⟨a, _, ha, rfl, rfl⟩, rfl, rfl⟩ := h
  obtain ⟨bs, hbs, rfl⟩ := hw ha
  exact ⟨bs, rfl, writtenAs_done (ho a) ((hp a).trans hbs) (hd a)⟩

/-- A payload that is a link and one part of the token. -/
lemma written_linked {α : Type} {part : Reader α} {write : α → Except EncodeError (List UInt8)}
    {f : UInt16 → α → Token} {kind : TokenKind} {cls : TokenClass} (hw : part.WrittenBy write)
    (ho : ∀ link a, (f link a).opcode = kind.opcode (some cls))
    (hp : ∀ link a, Encode.payload (f link a) = do return Encode.u16 link ++ (← write a))
    (hd : ∀ link a, Encode.data (f link a) = .ok []) :
    PayloadWritten kind cls (alone do
      let link ← Reader.u16
      return f link (← part)) := by
  intro s p rest h
  simp only [alone, Reader.reads_bind, Reader.reads_u16, Reader.reads_pure] at h
  obtain ⟨_, _, ⟨link, _, rfl, a, _, ha, rfl, rfl⟩, rfl, rfl⟩ := h
  obtain ⟨bs, hbs, rfl⟩ := hw ha
  refine ⟨Encode.u16 link ++ bs, (List.append_assoc _ _ _).symm, ?_⟩
  refine writtenAs_done (ho link a) ?_ (hd link a)
  rw [hp, hbs]
  rfl

/-- The argument count and the function number share their fields with a flag each. -/
lemma funcVar_fields (argc : UInt8) (id : UInt16) :
    ((argc % 0x80) + if 0x80 ≤ argc then 0x80 else 0) = argc ∧
      ((id % 0x8000) + if 0x8000 ≤ id then 0x8000 else 0) = id ∧
      ¬0x7F < argc % 0x80 ∧ ¬0x7FFF < id % 0x8000 := by
  refine ⟨?_, ?_, ?_, ?_⟩
  · refine UInt8.toNat_inj.mp ?_
    have := argc.toNat_lt
    split_ifs with h <;> simp [UInt8.le_iff_toNat_le] at h ⊢ <;> omega
  · refine UInt16.toNat_inj.mp ?_
    have := id.toNat_lt
    split_ifs with h <;> simp [UInt16.le_iff_toNat_le] at h ⊢ <;> omega
  · simp [UInt8.lt_iff_toNat_lt]
    omega
  · simp [UInt16.lt_iff_toNat_lt]
    omega

/-- **The payload of a token is kept.** -/
theorem written_payload (kind : TokenKind) (cls : TokenClass) :
    PayloadWritten kind cls (payload kind cls) := by
  intro s p rest h
  cases kind with
  | add | sub | mul | div | power | concat | lt | le | eq | ge | gt | ne | intersection | union
  | range | plus | minus | percent | paren | missing =>
    simp only [payload, Reader.reads_pure] at h
    obtain ⟨rfl, rfl⟩ := h
    exact ⟨[], rfl, writtenAs_done rfl rfl rfl⟩
  | memArea => exact written_memory .areas cls h
  | memErr => exact written_memory .error cls h
  | memNoMem => exact written_memory .notStored cls h
  | memFunc => exact written_memory .function cls h
  | memAreaN => exact written_memory .areasRelative cls h
  | memNoMemN => exact written_memory .notStoredRelative cls h
  | array =>
    simp only [payload, Reader.reads_bind, Reader.reads_bytes, Reader.reads_pure] at h
    obtain ⟨reserved, _, rfl, rfl, rfl⟩ := h
    exact ⟨_, rfl, writtenAs_array reserved⟩
  | int | func =>
    simp only [payload, Reader.reads_bind, Reader.reads_u16, Reader.reads_pure] at h
    obtain ⟨_, _, ⟨n, _, rfl, rfl, rfl⟩, rfl, rfl⟩ := h
    exact ⟨_, rfl, writtenAs_done rfl rfl rfl⟩
  | exp | table | name =>
    simp only [payload, Reader.reads_bind, Reader.reads_u16, Reader.reads_pure] at h
    obtain ⟨_, _, ⟨m, _, rfl, n, _, rfl, rfl, rfl⟩, rfl, rfl⟩ := h
    exact ⟨_, (List.append_assoc _ _ _).symm, writtenAs_done rfl rfl rfl⟩
  | nameX =>
    simp only [payload, Reader.reads_bind, Reader.reads_u16, Reader.reads_pure] at h
    obtain ⟨_, _, ⟨link, _, rfl, index, _, rfl, reserved, _, rfl, rfl, rfl⟩, rfl, rfl⟩ := h
    exact ⟨Encode.u16 link ++ Encode.u16 index ++ Encode.u16 reserved, by simp [Encode.u16],
      writtenAs_done rfl rfl rfl⟩
  | bool =>
    simp only [payload, Reader.reads_bind, Reader.reads_u8, Reader.reads_pure] at h
    obtain ⟨_, _, ⟨raw, _, rfl, rfl, rfl⟩, rfl, rfl⟩ := h
    exact ⟨[raw], rfl, writtenAs_done rfl rfl rfl⟩
  | num =>
    simp only [payload, Reader.reads_bind, Reader.reads_u64, Reader.reads_pure] at h
    obtain ⟨_, _, ⟨bits, _, rfl, rfl, rfl⟩, rfl, rfl⟩ := h
    exact ⟨_, rfl, writtenAs_done rfl rfl rfl⟩
  | text => exact written_part (writtenBy_text 1) (fun _ => rfl) (fun _ => rfl) (fun _ => rfl) h
  | attr => exact written_part writtenBy_attr (fun _ => rfl) (fun _ => rfl) (fun _ => rfl) h
  | error => exact written_part writtenBy_cellError (fun _ => rfl) (fun _ => rfl) (fun _ => rfl) h
  | funcVar =>
    simp only [payload, Reader.reads_bind, Reader.reads_u8, Reader.reads_u16,
      Reader.reads_pure] at h
    obtain ⟨_, _, ⟨argc, _, rfl, id, _, rfl, rfl, rfl⟩, rfl, rfl⟩ := h
    obtain ⟨hargc, hid, hle, hle'⟩ := funcVar_fields argc id
    refine ⟨argc :: Encode.u16 id, rfl, writtenAs_done rfl ?_ rfl⟩
    simp only [Encode.payload, if_neg hle, if_neg hle', decide_eq_true_eq, hargc, hid]
    rfl
  | refErr | areaErr =>
    simp only [payload, Reader.reads_bind, Reader.reads_bytes, Reader.reads_pure] at h
    obtain ⟨_, _, ⟨reserved, _, rfl, rfl, rfl⟩, rfl, rfl⟩ := h
    exact ⟨_, rfl, writtenAs_done rfl rfl rfl⟩
  | refErr3d | areaErr3d =>
    simp only [payload, Reader.reads_bind, Reader.reads_u16, Reader.reads_bytes,
      Reader.reads_pure] at h
    obtain ⟨_, _, ⟨link, _, rfl, reserved, _, rfl, rfl, rfl⟩, rfl, rfl⟩ := h
    exact ⟨_, (List.append_assoc _ _ _).symm, writtenAs_done rfl rfl rfl⟩
  | ref => exact written_part writtenBy_address (fun _ => rfl) (fun _ => rfl) (fun _ => rfl) h
  | area => exact written_part writtenBy_areaAddress (fun _ => rfl) (fun _ => rfl) (fun _ => rfl) h
  | refN =>
    simp only [payload, Reader.reads_bind, Reader.reads_pure] at h
    obtain ⟨_, _, ⟨a, _, ha, rfl, rfl⟩, rfl, rfl⟩ := h
    obtain ⟨row, col, hr, hc, rfl, rfl⟩ := reads_cornerFields.mp ha
    obtain ⟨hrow, hcol⟩ := offset_toOffset hr hc
    exact ⟨_, rfl, writtenAs_done rfl (by simp only [Encode.payload, hrow, hcol]) rfl⟩
  | areaN =>
    simp only [payload, offsetArea, Reader.reads_bind, Reader.reads_pure] at h
    obtain ⟨_, _, ⟨_, _, ⟨_, _, ha, rfl, rfl⟩, rfl, rfl⟩, rfl, rfl⟩ := h
    obtain ⟨r₁, r₂, c₁, c₂, h₁, h₂, h₃, h₄, rfl, rfl⟩ := reads_areaFields.mp ha
    obtain ⟨hr₁, hc₁⟩ := offset_toOffset h₁ h₃
    obtain ⟨hr₂, hc₂⟩ := offset_toOffset h₂ h₄
    exact ⟨_, rfl, writtenAs_done rfl (by simp only [Encode.payload, hr₁, hr₂, hc₁, hc₂]) rfl⟩
  | ref3d =>
    exact written_linked writtenBy_address (fun _ _ => rfl) (fun _ _ => rfl) (fun _ _ => rfl) h
  | area3d =>
    exact written_linked writtenBy_areaAddress (fun _ _ => rfl) (fun _ _ => rfl) (fun _ _ => rfl) h

end Decode

/-- An opcode is put together from its kind and its class. -/
lemma TokenKind.opcode_of_split? {b : UInt8} {kind : TokenKind} {cls : Option TokenClass}
    (h : TokenKind.split? b = some (kind, cls)) :
    kind.opcode (some (cls.getD .reference)) = b := by
  have hall : ∀ n : Fin 256, (TokenKind.split? (UInt8.ofNat n)).all fun x =>
      x.1.opcode (some (x.2.getD .reference)) == UInt8.ofNat n := by decide +kernel
  have := hall ⟨b.toNat, b.toNat_lt⟩
  simpa [h] using this

namespace Decode

theorem token_written {opcode : UInt8} {code data data' : List UInt8} {t : Token}
    {rest : { rest : List UInt8 // rest.length ≤ code.length }}
    (h : token opcode code data = .ok (t, rest, data')) : ∃ bs used,
      Encode.token t = .ok ⟨opcode :: bs, used⟩ ∧ code = bs ++ rest ∧ data = used ++ data' := by
  unfold token at h
  rcases hk : TokenKind.split? opcode with _ | ⟨kind, cls⟩
  · simp [hk] at h
  simp only [hk] at h
  rcases hp : payload kind (cls.getD .reference) code with _ | ⟨pending, mid, hmid⟩
  · simp [hp] at h
  simp only [hp] at h
  rcases hc : pending.complete data with _ | ⟨t', data'', hdata⟩
  · simp [hc] at h
  simp only [hc] at h
  cases h
  obtain ⟨bs, hcode, hwritten⟩ := written_payload kind (cls.getD .reference) ⟨hmid, hp⟩
  obtain ⟨hopcode, hbs, used, hused, hdata'⟩ := hwritten ⟨hdata, hc⟩
  rw [TokenKind.opcode_of_split? hk] at hopcode
  refine ⟨bs, used, ?_, hcode, hdata'⟩
  simp only [Encode.token, hbs, hused, hopcode]
  rfl

theorem tokens_written {total : Nat} {code data rest : List UInt8} {ts : List Token}
    (h : tokens total code data = .ok (ts, rest)) :
    ∃ used, data = used ++ rest ∧ encode ts = .ok ⟨code, used⟩ := by
  fun_induction tokens total code data generalizing ts rest with
  | case1 =>
    cases h
    exact ⟨[], rfl, rfl⟩
  | case2 => cases h
  | case3 _ opcode code t mid hmid data' htoken ih =>
    rcases hrest : tokens total mid data' with _ | ⟨ts', rest'⟩
    · rw [hrest] at h
      cases h
    rw [hrest] at h
    cases h
    obtain ⟨bs, first, hfirst, hcode, rfl⟩ := token_written htoken
    obtain ⟨used, rfl, hused⟩ := ih hrest
    refine ⟨first ++ used, by simp, ?_⟩
    simp only [encode, hfirst, hused, hcode]
    rfl

end Decode

/-- **Nothing is lost by storing a formula again.** A formula that can be read can be stored, as the
bytes that were read and with the part of the data block that was read. -/
theorem encode_of_decode {code data : List UInt8} {ts : List Token}
    (h : decode code data = .ok ts) : ∃ used rest, data = used ++ rest ∧
      decodeWithRest code data = .ok (ts, rest) ∧ encode ts = .ok ⟨code, used⟩ := by
  unfold decode at h
  rcases hd : decodeWithRest code data with _ | ⟨ts', rest⟩
  · rw [hd] at h
    cases h
  · rw [hd] at h
    cases h
    obtain ⟨used, hused, hcode⟩ := Decode.tokens_written hd
    exact ⟨used, rest, hused, rfl, hcode⟩

/-- An array constant and a note whose flags have no meaning, with a byte behind the array that is
not read. -/
theorem encode_of_decode_array :
    let code := [0x60, 1, 2, 3, 4, 5, 6, 7, 0x19, 0x80, 0x34, 0x12]
    let data := [0, 0, 0, 0x04, 2, 9, 8, 7, 6, 5, 4, 3, 0xEE]
    let ts := [.array .array ⟨#[1, 2, 3, 4, 5, 6, 7], rfl⟩
      ⟨1, 1, [.bool 2 ⟨#[9, 8, 7, 6, 5, 4, 3], rfl⟩]⟩, .attr (.other 0x80 0x1234)]
    decode code data = .ok ts ∧ ∃ used rest, data = used ++ rest ∧
      decodeWithRest code data = .ok (ts, rest) ∧ encode ts = .ok ⟨code, used⟩ := by
  intro code data ts
  have h : decode code data = .ok ts := by cbv
  exact ⟨h, encode_of_decode h⟩

end Spreadsheet
