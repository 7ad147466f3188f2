import Mathlib.Algebra.Group.Nat.Defs
import Mathlib.Data.List.Forall2
import Mathlib.Tactic.Common
import Spreadsheet.Token.Encode

/-!
What fits the stored form of formulas.

A field of the stored form has a width, and a part of a token fits if its fields can hold it.
`Fits` says so for each kind of part, without the encoder. Main statement: a formula can be stored
exactly if each of its tokens fits.
-/

namespace Spreadsheet

/-! ### Parts that fit -/

/-- The stored length is at most `max`, and the form has room for each character. -/
def StoredText.Fits (s : StoredText) (max : Nat) : Prop :=
  s.storedLength ≤ max ∧ (s.wide = false → ∀ c ∈ s.text.toList, c.toNat ≤ 0xFF)

def ArrayElement.Fits : ArrayElement → Prop
  | text s => s.Fits 65535
  | _ => True

def ArrayConstant.Fits (a : ArrayConstant) : Prop :=
  a.WellShaped ∧ a.cols ≤ 256 ∧ a.rows ≤ 65536 ∧ ∀ v ∈ a.values, v.Fits

def Address.Fits (a : Address) : Prop := a.row ≤ 0xFFFF ∧ a.col ≤ 0x3FFF

def AreaAddress.Fits (a : AreaAddress) : Prop := a.first.Fits ∧ a.last.Fits

def StoredArea.Fits (a : StoredArea) : Prop :=
  (a.first.row ≤ 0xFFFF ∧ a.last.row ≤ 0xFFFF) ∧ a.first.col ≤ 0xFFFF ∧ a.last.col ≤ 0xFFFF

/-- Only a note with a list of areas has one that must fit. -/
def Memory.Fits (m : Memory) : Prop :=
  m.kind = .areas → m.areas.length ≤ 0xFFFF ∧ ∀ a ∈ m.areas, a.Fits

def Token.Fits : Token → Prop
  | text s => s.Fits 255
  | array _ _ a => a.Fits
  | funcVar _ argc _ id _ => argc ≤ 0x7F ∧ id ≤ 0x7FFF
  | ref _ a | ref3d _ _ a => a.Fits
  | area _ a | area3d _ _ a => a.Fits
  | memory m => m.Fits
  | _ => True

section Decidable

instance (s : StoredText) (max : Nat) : Decidable (s.Fits max) := inferInstanceAs (Decidable (_ ∧ _))

instance : DecidablePred ArrayElement.Fits
  | .text s => inferInstanceAs (Decidable (s.Fits 65535))
  | .empty _ | .number _ | .bool _ _ | .error _ _ => inferInstanceAs (Decidable True)

instance (a : ArrayConstant) : Decidable a.Fits := inferInstanceAs (Decidable (_ ∧ _))

instance (a : Address) : Decidable a.Fits := inferInstanceAs (Decidable (_ ∧ _))

instance (a : AreaAddress) : Decidable a.Fits := inferInstanceAs (Decidable (_ ∧ _))

instance (a : StoredArea) : Decidable a.Fits := inferInstanceAs (Decidable (_ ∧ _))

instance (m : Memory) : Decidable m.Fits := inferInstanceAs (Decidable (_ → _))

instance : DecidablePred Token.Fits
  | .text s => inferInstanceAs (Decidable (s.Fits 255))
  | .array _ _ a => inferInstanceAs (Decidable a.Fits)
  | .funcVar _ _ _ _ _ => inferInstanceAs (Decidable (_ ∧ _))
  | .ref _ a | .ref3d _ _ a => inferInstanceAs (Decidable a.Fits)
  | .area _ a | .area3d _ _ a => inferInstanceAs (Decidable a.Fits)
  | .memory m => inferInstanceAs (Decidable m.Fits)
  | .exp .. | .table .. | .binary _ | .unary _ | .paren | .missing | .attr _ | .error _ | .bool _
  | .int _ | .num _ | .func .. | .name .. | .nameX .. | .refErr .. | .areaErr .. | .refN ..
  | .areaN .. | .refErr3d .. | .areaErr3d .. => inferInstanceAs (Decidable True)

end Decidable

/-! ### Results in sequence -/

section Sequence
variable {ε α β : Type}

lemma bind_eq_ok {x : Except ε α} {f : α → Except ε β} {b : β} :
    x >>= f = .ok b ↔ ∃ a, x = .ok a ∧ f a = .ok b := by
  cases x with
  | error e => simp [bind, Except.bind]
  | ok a => simp [bind, Except.bind]

lemma mapM_eq_ok_iff {f : α → Except ε β} {as : List α} {bs : List β} :
    as.mapM f = .ok bs ↔ List.Forall₂ (fun a b => f a = .ok b) as bs := by
  induction as generalizing bs with
  | nil => cases bs <;> simp [pure, Except.pure]
  | cons a as ih =>
    simp only [List.mapM_cons, bind_eq_ok, ih, pure, Except.pure, Except.ok.injEq,
      List.forall₂_cons_left_iff]
    constructor
    · rintro ⟨b, hb, bs, hbs, rfl⟩
      exact ⟨b, bs, hb, hbs, rfl⟩
    · rintro ⟨b, bs, hb, hbs, rfl⟩
      exact ⟨b, hb, bs, hbs, rfl⟩

lemma mapM_ok_iff {f : α → Except ε β} {as : List α} :
    (∃ bs, as.mapM f = .ok bs) ↔ ∀ a ∈ as, ∃ b, f a = .ok b := by
  simp only [mapM_eq_ok_iff]
  induction as with
  | nil => simp
  | cons a as ih =>
    simp only [List.forall₂_cons_left_iff, List.forall_mem_cons, ← ih]
    constructor
    · rintro ⟨_, b, bs, hb, hbs, -⟩
      exact ⟨⟨b, hb⟩, bs, hbs⟩
    · rintro ⟨⟨b, hb⟩, bs, hbs⟩
      exact ⟨_, b, bs, hb, hbs, rfl⟩

/-- An error, or a result. -/
lemma error_iff_not_ok {x : Except ε α} : (∃ e, x = .error e) ↔ ¬∃ a, x = .ok a := by
  cases x with
  | error e => simp
  | ok a => simp

end Sequence

/-! ### What is written for a part -/

namespace Encode

/-- The characters of a text in its form. -/
def rawChars (s : StoredText) : List UInt8 :=
  if s.wide then (Text.units16 s.text.toList).flatMap u16
  else s.text.toList.map fun c => c.toNat.toUInt8

lemma narrowChars_eq_ok_iff {cs : List Char} {bs : List UInt8} :
    (cs.mapM fun c => if c.toNat ≤ 0xFF then .ok c.toNat.toUInt8 else .error (.notCompressible c)) =
      (.ok bs : Except EncodeError (List UInt8)) ↔
    (∀ c ∈ cs, c.toNat ≤ 0xFF) ∧ cs.map (fun c => c.toNat.toUInt8) = bs := by
  induction cs generalizing bs with
  | nil => simp [pure, Except.pure]
  | cons c cs ih =>
    simp only [mapM_eq_ok_iff, List.forall₂_cons_left_iff] at ih ⊢
    by_cases hc : c.toNat ≤ 0xFF
    · simp [ih, hc, and_assoc, eq_comm (a := bs)]
    · simp [hc]

lemma chars_eq_ok_iff {s : StoredText} {bs : List UInt8} : chars s = .ok bs ↔
    (s.wide = false → ∀ c ∈ s.text.toList, c.toNat ≤ 0xFF) ∧ rawChars s = bs := by
  unfold chars rawChars
  cases s.wide with
  | true => simp
  | false => simp [narrowChars_eq_ok_iff]

lemma text_eq_ok_iff {width : Nat} {s : StoredText} {bs : List UInt8} : text width s = .ok bs ↔
    s.Fits (256 ^ width - 1) ∧
      leBytes width s.storedLength ++ (if s.wide then 1 else 0) :: rawChars s = bs := by
  unfold text StoredText.Fits
  by_cases h : 256 ^ width - 1 < s.storedLength
  · simp [h, Nat.not_le.mpr h, throw, throwThe, MonadExceptOf.throw, bind, Except.bind]
  · simp [h, bind_eq_ok, chars_eq_ok_iff, Nat.not_lt.mp h, pure, Except.pure, and_assoc]

lemma element_ok_iff {v : ArrayElement} : (∃ bs, element v = .ok bs) ↔ v.Fits := by
  cases v with
  | text s => simp [element, bind_eq_ok, text_eq_ok_iff, pure, Except.pure, ArrayElement.Fits]
  | empty _ | number _ | bool _ _ | error _ _ => simp [element, ArrayElement.Fits]

lemma array_eq_ok_iff {a : ArrayConstant} {bs : List UInt8} : array a = .ok bs ↔
    (a.WellShaped ∧ a.cols ≤ 256 ∧ a.rows ≤ 65536) ∧ ∃ bss, a.values.mapM element = .ok bss ∧
      leBytes 1 (a.cols - 1) ++ leBytes 2 (a.rows - 1) ++ bss.flatten = bs := by
  unfold array
  by_cases h : ¬a.WellShaped ∨ 256 < a.cols ∨ 65536 < a.rows
  · have hn : ¬(a.WellShaped ∧ a.cols ≤ 256 ∧ a.rows ≤ 65536) := by
      rintro ⟨hs, hc, hr⟩
      rcases h with h | h | h
      · exact h hs
      · omega
      · omega
    simp [h, hn, throw, throwThe, MonadExceptOf.throw, bind, Except.bind]
  · have hp : a.WellShaped ∧ a.cols ≤ 256 ∧ a.rows ≤ 65536 := by
      simpa [not_or] using h
    rw [if_neg h]
    simp [hp, bind_eq_ok, pure, Except.pure]

lemma array_ok_iff {a : ArrayConstant} : (∃ bs, array a = .ok bs) ↔ a.Fits := by
  simp only [array_eq_ok_iff, ArrayConstant.Fits, ← element_ok_iff, ← mapM_ok_iff]
  constructor
  · rintro ⟨_, ⟨hs, hc, hr⟩, bss, hbss, -⟩
    exact ⟨hs, hc, hr, bss, hbss⟩
  · rintro ⟨hs, hc, hr, bss, hbss⟩
    exact ⟨_, ⟨hs, hc, hr⟩, bss, hbss, rfl⟩

lemma addressFields_eq_ok_iff {a : Address} {fields : List UInt8 × List UInt8} :
    addressFields a = .ok fields ↔ a.Fits ∧
      (leBytes 2 a.row, leBytes 2 (colField a.col a.rowRelative a.colRelative)) = fields := by
  unfold addressFields Address.Fits
  split_ifs with h
  · have hn : ¬(a.row ≤ 0xFFFF ∧ a.col ≤ 0x3FFF) := by omega
    simp [hn]
  · have hp : a.row ≤ 0xFFFF ∧ a.col ≤ 0x3FFF := by omega
    simp [hp]

lemma address_eq_ok_iff {a : Address} {bs : List UInt8} : address a = .ok bs ↔ a.Fits ∧
    leBytes 2 a.row ++ leBytes 2 (colField a.col a.rowRelative a.colRelative) = bs := by
  simp [address, bind_eq_ok, addressFields_eq_ok_iff, pure, Except.pure]

lemma areaAddress_eq_ok_iff {a : AreaAddress} {bs : List UInt8} :
    areaAddress a = .ok bs ↔ a.Fits ∧ leBytes 2 a.first.row ++ leBytes 2 a.last.row ++
      leBytes 2 (colField a.first.col a.first.rowRelative a.first.colRelative) ++
      leBytes 2 (colField a.last.col a.last.rowRelative a.last.colRelative) = bs := by
  simp [areaAddress, AreaAddress.Fits, bind_eq_ok, addressFields_eq_ok_iff, pure, Except.pure,
    and_assoc]

lemma storedArea_eq_ok_iff {a : StoredArea} {bs : List UInt8} :
    storedArea a = .ok bs ↔ a.Fits ∧ leBytes 2 a.first.row ++ leBytes 2 a.last.row ++
      leBytes 2 a.first.col ++ leBytes 2 a.last.col = bs := by
  unfold storedArea StoredArea.Fits
  dsimp only
  split_ifs with h
  · simp only [List.any_cons, List.any_nil, Bool.or_false, Bool.or_eq_true, decide_eq_true_eq] at h
    simp only [false_iff]
    omega
  · simp only [List.any_cons, List.any_nil, Bool.or_false, Bool.or_eq_true, decide_eq_true_eq] at h
    have hp : (a.first.row ≤ 0xFFFF ∧ a.last.row ≤ 0xFFFF) ∧ a.first.col ≤ 0xFFFF ∧
        a.last.col ≤ 0xFFFF := by omega
    simp [hp]

lemma memoryData_eq_ok_iff {m : Memory} {bs : List UInt8} : memoryData m = .ok bs ↔
    if m.kind = .areas then m.areas.length ≤ 0xFFFF ∧ ∃ bss, m.areas.mapM storedArea = .ok bss ∧
      leBytes 2 m.areas.length ++ bss.flatten = bs else [] = bs := by
  unfold memoryData
  by_cases hk : m.kind = .areas
  · by_cases hl : 0xFFFF < m.areas.length
    · simp [hk, hl, Nat.not_le.mpr hl, throw, throwThe, MonadExceptOf.throw, bind, Except.bind]
    · simp [hk, hl, bind_eq_ok, pure, Except.pure, Nat.not_lt.mp hl]
  · simp [hk, pure, Except.pure]

lemma memoryData_ok_iff {m : Memory} : (∃ bs, memoryData m = .ok bs) ↔ m.Fits := by
  have hareas : (∃ bss, m.areas.mapM storedArea = .ok bss) ↔ ∀ a ∈ m.areas, a.Fits := by
    simp [mapM_ok_iff, storedArea_eq_ok_iff]
  simp only [memoryData_eq_ok_iff, Memory.Fits]
  by_cases hk : m.kind = .areas
  · simp [hk, ← hareas]
  · simp [hk]

/-- The argument count and the function number must leave the bit of their flag alone. -/
lemma funcVar_eq_ok_iff {cls : TokenClass} {argc : UInt8} {prompt : Bool} {id : UInt16}
    {command : Bool} {bs : List UInt8} :
    payload (.funcVar cls argc prompt id command) = .ok bs ↔ (argc ≤ 0x7F ∧ id ≤ 0x7FFF) ∧
      (argc + if prompt then 0x80 else 0) :: u16 (id + if command then 0x8000 else 0) = bs := by
  unfold payload
  by_cases ha : 0x7F < argc
  · simp [ha, UInt8.not_le.mpr ha, throw, throwThe, MonadExceptOf.throw, bind, Except.bind]
  · by_cases hi : 0x7FFF < id
    · simp [ha, hi, UInt16.not_le.mpr hi, throw, throwThe, MonadExceptOf.throw, bind, Except.bind]
    · simp [ha, hi, UInt8.not_lt.mp ha, UInt16.not_lt.mp hi, pure, Except.pure]

end Encode

/-! ### Formulas that can be stored -/

lemma Encode.token_eq_ok_iff {t : Token} {s : Stored} : Encode.token t = .ok s ↔
    ∃ bs used, Encode.payload t = .ok bs ∧ Encode.data t = .ok used ∧
      s = ⟨t.opcode :: bs, used⟩ := by
  simp only [Encode.token, bind_eq_ok, pure, Except.pure, Except.ok.injEq]
  constructor
  · rintro ⟨bs, hbs, used, hused, rfl⟩
    exact ⟨bs, used, hbs, hused, rfl⟩
  · rintro ⟨bs, used, hbs, hused, rfl⟩
    exact ⟨bs, hbs, used, hused, rfl⟩

lemma Encode.token_ok_iff {t : Token} : (∃ s, Encode.token t = .ok s) ↔ t.Fits := by
  have hparts : (∃ s, Encode.token t = .ok s) ↔
      (∃ bs, Encode.payload t = .ok bs) ∧ ∃ used, Encode.data t = .ok used := by
    simp only [Encode.token_eq_ok_iff]
    constructor
    · rintro ⟨_, bs, used, hbs, hused, -⟩
      exact ⟨⟨bs, hbs⟩, used, hused⟩
    · rintro ⟨⟨bs, hbs⟩, used, hused⟩
      exact ⟨_, bs, used, hbs, hused, rfl⟩
  rw [hparts]
  cases t with
  | text s => simp [Encode.payload, Encode.data, Encode.text_eq_ok_iff, Token.Fits]
  | array cls reserved a => simp [Encode.payload, Encode.data, Encode.array_ok_iff, Token.Fits]
  | funcVar cls argc prompt id command =>
    simp [Encode.funcVar_eq_ok_iff, Encode.data, Token.Fits]
  | ref cls a => simp [Encode.payload, Encode.data, Encode.address_eq_ok_iff, Token.Fits]
  | area cls a => simp [Encode.payload, Encode.data, Encode.areaAddress_eq_ok_iff, Token.Fits]
  | ref3d cls link a =>
    simp [Encode.payload, Encode.data, bind_eq_ok, Encode.address_eq_ok_iff, Token.Fits, pure,
      Except.pure]
  | area3d cls link a =>
    simp [Encode.payload, Encode.data, bind_eq_ok, Encode.areaAddress_eq_ok_iff, Token.Fits, pure,
      Except.pure]
  | memory m => simp [Encode.payload, Encode.data, Encode.memoryData_ok_iff, Token.Fits]
  | exp | table | binary | unary | paren | missing | attr | error | bool | int | num | func | name
  | nameX | refErr | areaErr | refN | areaN | refErr3d | areaErr3d =>
    simp [Encode.payload, Encode.data, Token.Fits]

lemma encode_cons_eq_ok_iff {t : Token} {ts : List Token} {s : Stored} :
    encode (t :: ts) = .ok s ↔ ∃ first rest, Encode.token t = .ok first ∧ encode ts = .ok rest ∧
      s = ⟨first.code ++ rest.code, first.data ++ rest.data⟩ := by
  simp only [encode, bind_eq_ok, pure, Except.pure, Except.ok.injEq]
  constructor
  · rintro ⟨first, hfirst, rest, hrest, rfl⟩
    exact ⟨first, rest, hfirst, hrest, rfl⟩
  · rintro ⟨first, rest, hfirst, hrest, rfl⟩
    exact ⟨first, hfirst, rest, hrest, rfl⟩

/-- **A formula can be stored exactly if each of its tokens fits.** -/
theorem encode_ok_iff {ts : List Token} : (∃ s, encode ts = .ok s) ↔ ∀ t ∈ ts, t.Fits := by
  induction ts with
  | nil => simp [encode]
  | cons t ts ih =>
    rw [List.forall_mem_cons, ← ih, ← Encode.token_ok_iff]
    simp only [encode_cons_eq_ok_iff]
    constructor
    · rintro ⟨_, first, rest, hfirst, hrest, -⟩
      exact ⟨⟨first, hfirst⟩, rest, hrest⟩
    · rintro ⟨⟨first, hfirst⟩, rest, hrest⟩
      exact ⟨_, first, rest, hfirst, hrest, rfl⟩

/-- Units count, not characters. -/
example : ¬StoredText.Fits ⟨"😀", true⟩ 1 := by decide

end Spreadsheet
