import Spreadsheet.Proofs.ReadBack
import Spreadsheet.Proofs.Reencoding

/-!
A formula is read back from its stored form.

The stored form of a formula is the bytes of its tokens in a row, and of their data in a row behind.
Each token is read from the front of both and leaves what follows it there, so the law of a formula
comes by induction from the law of a token. Main statement: a formula of canonical tokens is refused
exactly if one of them does not fit, and is otherwise read back as it was.
-/

namespace Spreadsheet

/-! ### Opcodes -/

lemma TokenKind.mem_all (k : TokenKind) : k ∈ all := by cases k <;> decide

lemma TokenKind.split?_opcode {k : TokenKind} {cls : Option TokenClass}
    (h : k.isClassed = cls.isSome) : split? (k.opcode cls) = some (k, cls) := by
  have hall : ∀ k ∈ all, ∀ cls ∈ none :: TokenClass.all.map some,
      k.isClassed = cls.isSome → split? (k.opcode cls) = some (k, cls) := by decide +kernel
  refine hall k (mem_all k) cls ?_ h
  rcases cls with _ | _ | _ | _ <;> decide

lemma Token.isClassed_kind (t : Token) : t.kind.isClassed = t.class?.isSome := by
  cases t with
  | binary op => cases op <;> rfl
  | unary op => cases op <;> rfl
  | memory m =>
    obtain ⟨kind, _⟩ := m
    cases kind <;> rfl
  | _ => rfl

/-! ### Payloads -/

namespace Decode

/-- Both parts of the stored form of a token are read as the token, whatever follows them. -/
def Restored (t : Token) : Prop :=
  ∀ {bs used}, Encode.payload t = .ok bs → Encode.data t = .ok used → ∀ rest more,
    ∃ p, (payload t.kind (t.class?.getD .reference)).Reads (bs ++ rest) p rest ∧
      p.complete.Reads (used ++ more) t more

/-- A token without a part in the data block. -/
lemma restored_alone {t : Token} {r : Reader Token}
    (hk : payload t.kind (t.class?.getD .reference) = alone r) (hd : Encode.data t = .ok [])
    (hr : r.Restores Encode.payload t) : Restored t := by
  intro bs used hbs hused rest more
  rw [hd] at hused
  cases hused
  refine ⟨.done t, ?_, Reader.reads_pure.mpr ⟨rfl, rfl⟩⟩
  rw [hk, alone, Reader.reads_bind]
  exact ⟨t, rest, hr hbs, Reader.reads_pure.mpr ⟨rfl, rfl⟩⟩

/-- A token whose payload is empty. -/
lemma restored_of_empty {t : Token}
    (hk : payload t.kind (t.class?.getD .reference) = pure (.done t))
    (hp : Encode.payload t = .ok []) (hd : Encode.data t = .ok []) : Restored t := by
  intro bs used hbs hused rest more
  rw [hp] at hbs
  rw [hd] at hused
  cases hbs
  cases hused
  exact ⟨.done t, by rw [hk]; exact Reader.reads_pure.mpr ⟨rfl, rfl⟩,
    Reader.reads_pure.mpr ⟨rfl, rfl⟩⟩

section Parts
variable {α : Type} {part : Reader α} {write : α → Except EncodeError (List UInt8)} {a : α}

/-- A payload that is one part of the token. -/
lemma restores_part {f : α → Token} (h : part.Restores write a)
    (hp : Encode.payload (f a) = write a) :
    Reader.Restores (do return f (← part)) Encode.payload (f a) := by
  intro bs rest hbs
  rw [hp] at hbs
  rw [Reader.reads_bind]
  exact ⟨a, rest, h hbs, Reader.reads_pure.mpr ⟨rfl, rfl⟩⟩

/-- A payload that is a link and one part of the token. -/
lemma restores_linked {f : UInt16 → α → Token} {link : UInt16} (h : part.Restores write a)
    (hp : Encode.payload (f link a) = do return Encode.u16 link ++ (← write a)) :
    Reader.Restores (do
      let link ← Reader.u16
      return f link (← part)) Encode.payload (f link a) := by
  intro bs rest hbs
  simp only [hp, bind_eq_ok, pure, Except.pure, Except.ok.injEq] at hbs
  obtain ⟨raw, hraw, rfl⟩ := hbs
  simp only [Reader.reads_bind, Reader.reads_u16]
  exact ⟨link, _, List.append_assoc _ _ _, a, rest, h hraw, Reader.reads_pure.mpr ⟨rfl, rfl⟩⟩

end Parts

lemma restores_bytes {n : Nat} (v : Vector UInt8 n) : (Reader.bytes n).Restores
    (fun v => (.ok v.toList : Except EncodeError (List UInt8))) v := by
  rintro _ rest ⟨⟩
  exact Reader.reads_bytes.mpr rfl

/-- The argument count and the function number leave the bit of their flag alone. -/
lemma funcVar_parts {argc : UInt8} {id : UInt16} (ha : argc ≤ 0x7F) (hi : id ≤ 0x7FFF)
    (prompt command : Bool) :
    ((argc + if prompt then 0x80 else 0) % 0x80 = argc ∧
      decide (0x80 ≤ argc + if prompt then 0x80 else 0) = prompt) ∧
    ((id + if command then 0x8000 else 0) % 0x8000 = id ∧
      decide (0x8000 ≤ id + if command then 0x8000 else 0) = command) := by
  have ha' : argc.toNat ≤ 127 := UInt8.le_iff_toNat_le.mp ha
  have hi' : id.toNat ≤ 32767 := UInt16.le_iff_toNat_le.mp hi
  refine ⟨⟨UInt8.toNat_inj.mp ?_, ?_⟩, UInt16.toNat_inj.mp ?_, ?_⟩
  · cases prompt <;> simp <;> omega
  · cases prompt <;> simp [UInt8.le_iff_toNat_le] <;> omega
  · cases command <;> simp <;> omega
  · cases command <;> simp [UInt16.le_iff_toNat_le] <;> omega

lemma restored_funcVar (cls : TokenClass) (argc : UInt8) (prompt : Bool) (id : UInt16)
    (command : Bool) : Restored (.funcVar cls argc prompt id command) := by
  refine restored_alone rfl rfl ?_
  intro bs rest hbs
  obtain ⟨⟨ha, hi⟩, rfl⟩ := Encode.funcVar_eq_ok_iff.mp hbs
  obtain ⟨⟨hargc, hprompt⟩, hid, hcommand⟩ := funcVar_parts ha hi prompt command
  simp only [Reader.reads_bind, Reader.reads_u8, Reader.reads_u16, Reader.reads_pure]
  refine ⟨_, _, rfl, _, rest, rfl, ?_, rfl⟩
  rw [hargc, hprompt, hid, hcommand]
  rfl

lemma restored_memory {m : Memory} (h : m.Canonical) : Restored (.memory m) := by
  obtain ⟨hareas, hreserved⟩ := h
  obtain ⟨kind, cls, reserved, length, areas⟩ := m
  intro bs used hbs hused rest more
  cases kind with
  | areas =>
    cases hbs
    obtain ⟨hlen, bss, hbss, rfl⟩ := (Encode.memoryData_eq_ok_iff.trans (by rw [if_pos rfl])).mp hused
    refine ⟨.areas cls reserved length, ?_, ?_⟩
    · simp only [payload, memory, MemoryKind.hasReserved, Token.kind, MemoryKind.kind, if_true,
        Reader.reads_bind, Reader.reads_bytes, Reader.reads_u16, Reader.reads_pure]
      exact ⟨reserved, _, List.append_assoc _ _ _, length, rest, rfl, rfl, rfl⟩
    · simp only [Pending.complete, Reader.reads_bind, Reader.reads_number, Reader.reads_times,
        Reader.reads_pure]
      refine ⟨areas.length, _, ⟨Nat.lt_of_le_of_lt hlen (by decide), List.append_assoc _ _ _⟩, areas,
        more, ⟨rfl, ?_⟩, rfl, rfl⟩
      exact Reader.Restores.all (fun a _ => restores_storedArea a) hbss more
  | error | notStored =>
    obtain rfl : areas = [] := hareas (by simp)
    cases hbs
    cases hused
    refine ⟨.done _, ?_, Reader.reads_pure.mpr ⟨rfl, rfl⟩⟩
    simp only [payload, memory, MemoryKind.hasReserved, Token.kind, MemoryKind.kind, if_true,
      reduceCtorEq, if_false, Reader.reads_bind, Reader.reads_bytes, Reader.reads_u16,
      Reader.reads_pure]
    exact ⟨reserved, _, List.append_assoc _ _ _, length, rest, rfl, rfl, rfl⟩
  | function | areasRelative | notStoredRelative =>
    obtain rfl : areas = [] := hareas (by simp)
    obtain rfl : reserved = .replicate 4 0 := hreserved rfl
    cases hbs
    cases hused
    refine ⟨.done _, ?_, Reader.reads_pure.mpr ⟨rfl, rfl⟩⟩
    simp only [payload, memory, MemoryKind.hasReserved, Token.kind, MemoryKind.kind,
      Bool.false_eq_true, reduceCtorEq, if_false, Reader.reads_bind, Reader.reads_u16,
      Reader.reads_pure]
    exact ⟨_, _, ⟨rfl, rfl⟩, length, rest, rfl, rfl, rfl⟩

/-- **A canonical token is read from its stored form.** -/
theorem restored_of_canonical {t : Token} (h : t.Canonical) : Restored t := by
  cases t with
  | binary op => cases op <;> exact restored_of_empty rfl rfl rfl
  | unary op => cases op <;> exact restored_of_empty rfl rfl rfl
  | paren | missing => exact restored_of_empty rfl rfl rfl
  | exp row col | table row col =>
    refine restored_alone rfl rfl ?_
    rintro _ rest ⟨⟩
    simp only [Reader.reads_bind, Reader.reads_u16, Reader.reads_pure]
    exact ⟨row, _, List.append_assoc _ _ _, col, rest, rfl, rfl, rfl⟩
  | name cls index reserved =>
    refine restored_alone rfl rfl ?_
    rintro _ rest ⟨⟩
    simp only [Reader.reads_bind, Reader.reads_u16, Reader.reads_pure]
    exact ⟨index, _, List.append_assoc _ _ _, reserved, rest, rfl, rfl, rfl⟩
  | nameX cls link index reserved =>
    refine restored_alone rfl rfl ?_
    rintro _ rest ⟨⟩
    simp only [Reader.reads_bind, Reader.reads_u16, Reader.reads_pure]
    refine ⟨link, Encode.u16 index ++ (Encode.u16 reserved ++ rest), ?_, index, _, rfl, reserved,
      rest, rfl, rfl, rfl⟩
    simp [Encode.u16]
  | text s => exact restored_alone rfl rfl (restores_part (restores_text 1 s) rfl)
  | attr a => exact restored_alone rfl rfl (restores_part (restores_attr h) rfl)
  | error e => exact restored_alone rfl rfl (restores_part (restores_cellError h) rfl)
  | bool raw =>
    refine restored_alone rfl rfl ?_
    rintro _ rest ⟨⟩
    simp only [Reader.reads_bind, Reader.reads_u8, Reader.reads_pure]
    exact ⟨raw, rest, rfl, rfl, rfl⟩
  | int n => exact restored_alone rfl rfl (restores_part (restores_u16 n) rfl)
  | func cls id => exact restored_alone rfl rfl (restores_part (restores_u16 id) rfl)
  | num bits =>
    refine restored_alone rfl rfl ?_
    rintro _ rest ⟨⟩
    simp only [Reader.reads_bind, Reader.reads_u64, Reader.reads_pure]
    exact ⟨bits, rest, rfl, rfl, rfl⟩
  | array cls reserved a =>
    intro bs used hbs hused rest more
    cases hbs
    refine ⟨.array cls reserved, ?_, ?_⟩
    · exact Reader.reads_bind.mpr
        ⟨reserved, rest, Reader.reads_bytes.mpr rfl, Reader.reads_pure.mpr ⟨rfl, rfl⟩⟩
    · exact Reader.reads_bind.mpr
        ⟨a, more, restores_array h hused, Reader.reads_pure.mpr ⟨rfl, rfl⟩⟩
  | funcVar cls argc prompt id command => exact restored_funcVar cls argc prompt id command
  | memory m => exact restored_memory h
  | ref cls a => exact restored_alone rfl rfl (restores_part (restores_address a) rfl)
  | area cls a => exact restored_alone rfl rfl (restores_part (restores_areaAddress a) rfl)
  | refErr cls reserved | areaErr cls reserved =>
    exact restored_alone rfl rfl (restores_part (restores_bytes reserved) rfl)
  | refN cls a =>
    refine restored_alone rfl rfl ?_
    rintro _ rest ⟨⟩
    obtain ⟨hc, hback⟩ := toOffset_colField h
    refine Reader.reads_bind.mpr ⟨a, rest, ?_, Reader.reads_pure.mpr ⟨rfl, rfl⟩⟩
    exact reads_cornerFields.mpr ⟨_, _, a.row.toNat_lt, hc, rfl, hback.symm⟩
  | areaN cls a =>
    refine restored_alone rfl rfl ?_
    rintro _ rest ⟨⟩
    obtain ⟨hc₁, hback₁⟩ := toOffset_colField h.1
    obtain ⟨hc₂, hback₂⟩ := toOffset_colField h.2
    refine Reader.reads_bind.mpr ⟨a, rest, ?_, Reader.reads_pure.mpr ⟨rfl, rfl⟩⟩
    refine Reader.reads_bind.mpr ⟨(a.first, a.last), rest, ?_, Reader.reads_pure.mpr ⟨rfl, rfl⟩⟩
    exact reads_areaFields.mpr ⟨_, _, _, _, a.first.row.toNat_lt, a.last.row.toNat_lt, hc₁, hc₂, rfl,
      by rw [hback₁, hback₂]⟩
  | ref3d cls link a => exact restored_alone rfl rfl (restores_linked (restores_address a) rfl)
  | area3d cls link a => exact restored_alone rfl rfl (restores_linked (restores_areaAddress a) rfl)
  | refErr3d cls link reserved | areaErr3d cls link reserved =>
    exact restored_alone rfl rfl (restores_linked (restores_bytes reserved) rfl)

/-! ### Formulas -/

theorem token_of_written {t : Token} (h : t.Canonical) {s : Stored} (hs : Encode.token t = .ok s)
    (code data : List UInt8) : ∃ bs, s.code = t.opcode :: bs ∧ ∃ hle,
      token t.opcode (bs ++ code) (s.data ++ data) = .ok (t, ⟨code, hle⟩, data) := by
  obtain ⟨bs, used, hbs, hused, rfl⟩ := Encode.token_eq_ok_iff.mp hs
  obtain ⟨p, ⟨hsuffix, hp⟩, hsuffix', hc⟩ := restored_of_canonical h hbs hused code data
  refine ⟨bs, rfl, hsuffix.length_le, ?_⟩
  unfold token
  rw [Token.opcode, TokenKind.split?_opcode t.isClassed_kind]
  simp only [hp, hc]

theorem tokens_of_encode {ts : List Token} (h : ∀ t ∈ ts, t.Canonical) {s : Stored}
    (hs : encode ts = .ok s) (total : Nat) (rest : List UInt8) :
    tokens total s.code (s.data ++ rest) = .ok (ts, rest) := by
  induction ts generalizing s with
  | nil =>
    cases hs
    simp [tokens]
  | cons t ts ih =>
    rw [List.forall_mem_cons] at h
    obtain ⟨first, others, hfirst, hothers, rfl⟩ := encode_cons_eq_ok_iff.mp hs
    obtain ⟨bs, hcode, hle, htoken⟩ :=
      token_of_written h.1 hfirst others.code (others.data ++ rest)
    simp only [hcode, List.cons_append, List.append_assoc]
    rw [tokens]
    simp only [htoken, ih h.2 hothers]
    rfl

end Decode

/-- **A formula of canonical tokens is refused exactly if one of them does not fit, and is otherwise
read back as it was.** -/
theorem decode_of_encode {ts : List Token} (h : ∀ t ∈ ts, t.Canonical) :
    ((∃ e, encode ts = .error e) ↔ ∃ t ∈ ts, ¬t.Fits) ∧
      ∀ s, encode ts = .ok s → decode s.code s.data = .ok ts := by
  refine ⟨?_, fun s hs => ?_⟩
  · rw [error_iff_not_ok, encode_ok_iff]
    simp
  · have hback := Decode.tokens_of_encode h hs s.code.length []
    rw [List.append_nil] at hback
    simp only [decode, decodeWithRest, hback]
    rfl

/-- A text of units, an array constant with a text of its own, a selection and a list of areas in
one formula, all of which fit. -/
theorem decode_of_encode_mixed :
    let ts : List Token := [.text ⟨"a😀", true⟩, .array .array (.replicate 7 0xFF)
        ⟨1, 2, [.text ⟨"é", false⟩, .error .notAvailable (.replicate 7 3)]⟩,
      .attr (.choose [1, 2]), .memory ⟨.areas, .value, .replicate 4 9, 5, [⟨⟨3, 2⟩, ⟨1, 0⟩⟩]⟩,
      .funcVar .value 2 true 100 false]
    (∀ t ∈ ts, t.Canonical) ∧ (∀ t ∈ ts, t.Fits) ∧
      ∃ s, encode ts = .ok s ∧ decode s.code s.data = .ok ts := by
  intro ts
  have harray : ∀ v ∈ [ArrayElement.text ⟨"é", false⟩, .error .notAvailable (.replicate 7 3)],
      v.Canonical := by decide
  have hchoose : (Attribute.choose [1, 2]).Canonical := ⟨by simp, by simp⟩
  have hmemory : Memory.Canonical
      ⟨.areas, .value, .replicate 4 9, 5, [⟨⟨3, 2⟩, ⟨1, 0⟩⟩]⟩ := ⟨by simp, nofun⟩
  have hcanonical : ∀ t ∈ ts, t.Canonical := by
    simp only [ts, List.forall_mem_cons]
    exact ⟨trivial, harray, hchoose, hmemory, trivial, List.forall_mem_nil _⟩
  have htextFits : Token.Fits (.text ⟨"a😀", true⟩) := by decide
  have hlength : StoredText.storedLength ⟨"é", false⟩ = 1 := by decide
  have helement : StoredText.Fits ⟨"é", false⟩ 65535 := ⟨by simp [hlength], by simp⟩
  have harrayFits : ArrayConstant.Fits
      ⟨1, 2, [.text ⟨"é", false⟩, .error .notAvailable (.replicate 7 3)]⟩ := by
    simp only [ArrayConstant.Fits, List.forall_mem_cons]
    exact ⟨by decide, by simp, by simp, helement, trivial, List.forall_mem_nil _⟩
  have hareasFits : Memory.Fits
      ⟨.areas, .value, .replicate 4 9, 5, [⟨⟨3, 2⟩, ⟨1, 0⟩⟩]⟩ := by
    simp [Memory.Fits, StoredArea.Fits]
  have hfits : ∀ t ∈ ts, t.Fits := by
    simp only [ts, List.forall_mem_cons]
    exact ⟨htextFits, harrayFits, trivial, hareasFits, by simp [Token.Fits], List.forall_mem_nil _⟩
  obtain ⟨s, hs⟩ := encode_ok_iff.mpr hfits
  exact ⟨hcanonical, hfits, s, hs, (decode_of_encode hcanonical).2 s hs⟩

end Spreadsheet
