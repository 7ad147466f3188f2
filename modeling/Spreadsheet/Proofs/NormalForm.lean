import Mathlib.Data.List.Infix
import Spreadsheet.Proofs.Decoding

/-!
Formulas that are stored so that they can be read again.

The parts that cannot be told apart once they are stored have a normal form: the part that is read
in their place. It is stored as the same bytes and it is canonical, so that a stored formula is read
as its normal form. Two attributes have none. The count in front of the offsets of a selection is
one less than their number, which says too much if there are none and too little if there are more
than 65536; and flags that only look like those of a selection announce offsets that do not follow.

Main statement: these attributes, and no other tokens, spoil a formula that has them.
-/

namespace Spreadsheet

/-! ### Normal forms -/

def Spacing.normal (s : Spacing) : Spacing := ofCode s.code

/-- What an attribute of these flags is read as, unless they are those of a selection. -/
def Attribute.ofFlags (flags : UInt8) (data : UInt16) : Attribute :=
  if flags = 0x01 then volatile data
  else if flags = 0x02 then ifJump data
  else if flags = 0x08 then goto data
  else if flags = 0x10 then sum data
  else if flags = 0x20 ∨ flags = 0x21 then assignment (flags = 0x21) data
  else if flags = 0x40 ∨ flags = 0x41 then
    space (Spacing.ofCode data.toUInt8) (data / 0x100).toUInt8 (flags = 0x41)
  else other flags data

def Attribute.normal : Attribute → Attribute
  | space spacing count v => space spacing.normal count v
  | other flags data => ofFlags flags data
  | a => a

def CellError.normal (e : CellError) : CellError := if e = circular then value else e

def ArrayElement.normal : ArrayElement → ArrayElement
  | error e reserved => error e.normal reserved
  | v => v

def ArrayConstant.normal (a : ArrayConstant) : ArrayConstant :=
  { a with values := a.values.map ArrayElement.normal }

def OffsetAddress.normal (a : OffsetAddress) : OffsetAddress := { a with col := a.col % 0x4000 }

def Memory.normal (m : Memory) : Memory :=
  { m with
    areas := if m.kind = .areas then m.areas else []
    reserved := if m.kind.hasReserved then m.reserved else .replicate 4 0 }

/-- The token that is read where this one was stored. -/
def Token.normal : Token → Token
  | attr a => attr a.normal
  | error e => error e.normal
  | array cls reserved a => array cls reserved a.normal
  | memory m => memory m.normal
  | refN cls a => refN cls a.normal
  | areaN cls a => areaN cls ⟨a.first.normal, a.last.normal⟩
  | t => t

/-! ### The same bytes -/

lemma CellError.code_normal (e : CellError) : e.normal.code = e.code := by cases e <;> rfl

lemma Encode.attr_ofFlags (flags : UInt8) (data : UInt16) :
    attr (.ofFlags flags data) = flags :: u16 data := by
  unfold Attribute.ofFlags
  split_ifs with h1 h2 h8 h10 h20 h40
  · rw [h1]
    rfl
  · rw [h2]
    rfl
  · rw [h8]
    rfl
  · rw [h10]
    rfl
  · rcases h20 with rfl | rfl <;> rfl
  · rw [u16, leBytes_two]
    rcases h40 with rfl | rfl <;> simp [attr, Attribute.flags, Spacing.code_ofCode]
  · rfl

lemma Encode.attr_normal (a : Attribute) : attr a.normal = attr a := by
  cases a with
  | space spacing count v =>
    simp [attr, Attribute.normal, Attribute.flags, Spacing.normal, Spacing.code_ofCode]
  | other flags data => exact attr_ofFlags flags data
  | volatile | ifJump | choose | goto | sum | assignment => rfl

lemma Encode.element_normal (v : ArrayElement) : element v.normal = element v := by
  cases v with
  | error e reserved => simp only [ArrayElement.normal, element, CellError.code_normal]
  | empty | number | text | bool => rfl

lemma Encode.array_normal (a : ArrayConstant) : array a.normal = array a := by
  have hshape : a.normal.WellShaped ↔ a.WellShaped := by
    simp [ArrayConstant.WellShaped, ArrayConstant.normal]
  have hvalues : a.normal.values.mapM element = a.values.mapM element := by
    rw [ArrayConstant.normal, List.mapM_map]
    exact congrArg a.values.mapM (funext element_normal)
  simp only [array, hshape, hvalues]
  rfl

lemma Encode.offsetCol_normal (a : OffsetAddress) : offsetCol a.normal = offsetCol a := by
  have hcol : (a.col % 0x4000).toNat % 0x4000 = a.col.toNat % 0x4000 := by
    rw [UInt16.toNat_mod]
    exact Nat.mod_mod _ _
  simp only [offsetCol, colField, OffsetAddress.normal, hcol]
  rfl

lemma Encode.memoryData_normal (m : Memory) : memoryData m.normal = memoryData m := by
  unfold memoryData Memory.normal
  by_cases hk : m.kind = .areas <;> simp [hk]

/-- **A token is stored as its normal form is.** -/
theorem Encode.token_normal (t : Token) : token t.normal = token t := by
  cases t with
  | attr a => simp only [token, Token.normal, payload, attr_normal]; rfl
  | error e => simp only [token, Token.normal, payload, CellError.code_normal]; rfl
  | array cls reserved a => simp only [token, Token.normal, data, array_normal]; rfl
  | memory m =>
    have hreserved : (if m.kind.hasReserved then m.normal.reserved.toList else []) =
        if m.kind.hasReserved then m.reserved.toList else [] := by
      cases h : m.kind.hasReserved <;> simp [Memory.normal, h]
    simp only [token, Token.normal, payload, data, memoryData_normal]
    rw [show m.normal.kind = m.kind from rfl, hreserved]
    rfl
  | refN cls a => simp only [token, Token.normal, payload, offsetCol_normal]; rfl
  | areaN cls a => simp only [token, Token.normal, payload, offsetCol_normal]; rfl
  | exp | table | binary | unary | paren | missing | text | bool | int | num | func | funcVar | name
  | nameX | ref | area | refErr | areaErr | ref3d | area3d | refErr3d | areaErr3d => rfl

lemma encode_map_normal (ts : List Token) : encode (ts.map Token.normal) = encode ts := by
  induction ts with
  | nil => rfl
  | cons t ts ih => simp only [List.map_cons, encode, Encode.token_normal, ih]

/-! ### Canonical parts -/

lemma Spacing.canonical_ofCode (b : UInt8) : (ofCode b).Canonical := by
  unfold ofCode
  rcases h : known.find? (·.code == b) with _ | k
  · rw [h]
    refine UInt8.not_lt.mp fun hlt => ?_
    have hcodes : ∀ n < 7, (known.map Spacing.code).contains (UInt8.ofNat n) := by decide
    have hb := hcodes b.toNat (UInt8.lt_iff_toNat_lt.mp hlt)
    rw [UInt8.ofNat_toNat, List.contains_iff_mem, List.mem_map] at hb
    obtain ⟨k, hk, hcode⟩ := hb
    exact List.find?_eq_none.mp h k hk (beq_iff_eq.mpr hcode)
  · rw [h]
    have hknown : ∀ k ∈ known, k.Canonical := by decide
    exact hknown k (List.mem_of_find?_eq_some h)

lemma Attribute.canonical_ofFlags {flags : UInt8} (h : flags ≠ 0x04) (data : UInt16) :
    (ofFlags flags data).Canonical := by
  unfold ofFlags
  split_ifs with h1 h2 h8 h10 h20 h40
  · trivial
  · trivial
  · trivial
  · trivial
  · trivial
  · exact Spacing.canonical_ofCode data.toUInt8
  · rw [not_or] at h20 h40
    simp [Canonical, knownFlags, h, h1, h2, h8, h10, h20, h40]

lemma CellError.normal_ne_circular (e : CellError) : e.normal ≠ circular := by
  cases e <;> decide

lemma ArrayElement.canonical_normal (v : ArrayElement) : v.normal.Canonical := by
  cases v with
  | error e reserved => exact e.normal_ne_circular
  | empty | number | text | bool => trivial

lemma OffsetAddress.canonical_normal (a : OffsetAddress) : a.normal.Canonical := by
  unfold Canonical normal
  simp only [UInt16.toNat_mod]
  exact Nat.mod_lt _ (by decide)

lemma Memory.canonical_normal (m : Memory) : m.normal.Canonical := by
  refine ⟨fun hk => ?_, fun hr => ?_⟩
  · exact if_neg hk
  · exact if_neg (by rw [show m.kind.hasReserved = false from hr]; decide)

/-! ### Reading normal forms -/

/-- The count in front of a selection is the one of its offsets, and nothing else looks like a
selection. -/
def Token.LaidOut : Token → Prop
  | attr (.choose offsets) => 1 ≤ offsets.length ∧ offsets.length ≤ 65536
  | attr (.other flags _) => flags ≠ 0x04
  | _ => True

theorem Token.canonical_normal {t : Token} (h : t.LaidOut) : t.normal.Canonical := by
  cases t with
  | attr a =>
    cases a with
    | choose offsets => exact h
    | space spacing count v => exact Spacing.canonical_ofCode spacing.code
    | other flags data => exact Attribute.canonical_ofFlags h data
    | volatile | ifJump | goto | sum | assignment => trivial
  | error e => exact e.normal_ne_circular
  | array cls reserved a => exact List.forall_mem_map.mpr fun v _ => v.canonical_normal
  | memory m => exact m.canonical_normal
  | refN cls a => exact a.canonical_normal
  | areaN cls a => exact ⟨a.first.canonical_normal, a.last.canonical_normal⟩
  | exp | table | binary | unary | paren | missing | text | bool | int | num | func | funcVar | name
  | nameX | ref | area | refErr | areaErr | ref3d | area3d | refErr3d | areaErr3d => trivial

/-- **A formula is read as its normal form.** -/
theorem decode_encode_normal {ts : List Token} (h : ∀ t ∈ ts, t.LaidOut) {s : Stored}
    (hs : encode ts = .ok s) : decode s.code s.data = .ok (ts.map Token.normal) := by
  have hcanonical : ∀ t ∈ ts.map Token.normal, t.Canonical :=
    List.forall_mem_map.mpr fun t ht => Token.canonical_normal (h t ht)
  have hback := Decode.tokens_of_encode hcanonical ((encode_map_normal ts).trans hs)
    s.code.length []
  rw [List.append_nil] at hback
  simp only [decode, decodeWithRest, hback]
  rfl

/-! ### Attributes that are not read -/

/-- A formula of one token takes up all its bytes. -/
lemma Decode.reads_of_tokens_singleton {total : Nat} {opcode : UInt8} {code data rest : List UInt8}
    {t : Token} (h : tokens total (opcode :: code) data = .ok ([t], rest)) {kind : TokenKind}
    {cls : Option TokenClass} (hk : TokenKind.split? opcode = some (kind, cls)) :
    ∃ p, (payload kind (cls.getD .reference)).Reads code p [] := by
  rw [tokens] at h
  rcases htoken : token opcode code data with _ | ⟨t', ⟨mid, hmid⟩, data'⟩
  · simp [htoken] at h
  rcases hmore : tokens total mid data' with _ | ⟨ts, rest'⟩
  · simp [htoken, hmore, bind, Except.bind] at h
  simp only [htoken, hmore, bind, Except.bind, pure, Except.pure, Except.ok.injEq, Prod.mk.injEq,
    List.cons.injEq] at h
  obtain ⟨⟨-, rfl⟩, -⟩ := h
  obtain ⟨used, -, hused⟩ := tokens_written hmore
  cases hused
  simp only [token, hk] at htoken
  rcases hp : payload kind (cls.getD .reference) code with _ | ⟨p, left, hleft⟩
  · simp [hp] at htoken
  rcases hc : p.complete data with _ | ⟨t'', data'', hdata⟩
  · simp [hp, hc] at htoken
  simp only [hp, hc, Except.ok.injEq, Prod.mk.injEq, Subtype.mk.injEq] at htoken
  obtain ⟨-, rfl, -⟩ := htoken
  exact ⟨p, hleft, hp⟩

lemma length_flatMap_u16 (ns : List UInt16) : (ns.flatMap Encode.u16).length = 2 * ns.length := by
  simp [List.length_flatMap, Encode.u16, Nat.mul_comm]

/-- As many offsets as the count says fill the bytes behind it. -/
lemma Decode.length_of_reads_choose {n : UInt16} {bs : List UInt8} {a : Attribute}
    (h : attr.Reads (0x04 :: (Encode.u16 n ++ bs)) a []) : bs.length = 2 * (n.toNat + 1) := by
  simp only [attr, Reader.reads_bind, Reader.reads_u8, Reader.reads_u16] at h
  obtain ⟨flags, mid, hflags, data, mid', hdata, h⟩ := h
  cases hflags
  obtain ⟨hn, rfl⟩ := List.append_inj hdata (by simp [Encode.u16])
  obtain rfl : n = data := by
    have hnumber := congrArg ofLEBytes hn
    rw [Encode.u16, ofLEBytes_leBytes n.toNat_lt, ofLEBytes_leBytes data.toNat_lt] at hnumber
    exact UInt16.toNat_inj.mp hnumber
  rw [if_neg (by decide), if_neg (by decide), if_pos rfl] at h
  simp only [Reader.reads_bind, Reader.reads_times, Reader.reads_pure] at h
  obtain ⟨offsets, _, ⟨hcount, hall⟩, -, rfl⟩ := h
  obtain ⟨bss, hbss, rfl⟩ := writtenBy_u16.all hall
  have hmap := List.mapM_pure (m := Except EncodeError) (l := offsets) (f := Encode.u16)
  obtain rfl : offsets.map Encode.u16 = bss := Except.ok.inj (hmap.symm.trans hbss)
  rw [List.append_nil, ← List.flatMap_def, length_flatMap_u16, hcount]

/-- What is stored for the formula, if it is not refused, is read as a formula of as many tokens,
and that one is stored in the same way. -/
def Legible (ts : List Token) : Prop :=
  ∀ s, encode ts = .ok s → ∃ ts', decode s.code s.data = .ok ts' ∧ ts'.length = ts.length ∧
    encode ts' = .ok s

lemma legible_of_laidOut {ts : List Token} (h : ∀ t ∈ ts, t.LaidOut) : Legible ts := by
  intro s hs
  exact ⟨_, decode_encode_normal h hs, List.length_map _, (encode_map_normal ts).trans hs⟩

/-- An attribute that looks like a selection, alone in a formula, is read only if as many offsets
follow its count as it says. -/
lemma length_of_legible_choose {a : Attribute} {n : UInt16} {bs : List UInt8}
    (ha : Encode.attr a = 0x04 :: (Encode.u16 n ++ bs)) (h : Legible [.attr a]) :
    bs.length = 2 * (n.toNat + 1) := by
  have hs : encode [.attr a] = .ok ⟨0x19 :: Encode.attr a ++ [], []⟩ := rfl
  obtain ⟨ts, hts, hlen, -⟩ := h _ hs
  obtain ⟨t, rfl⟩ := List.length_eq_one_iff.mp hlen
  rw [List.append_nil, decode, decodeWithRest] at hts
  rcases hd : Decode.tokens (0x19 :: Encode.attr a).length (0x19 :: Encode.attr a) [] with
    _ | ⟨ts, rest⟩
  · rw [hd] at hts
    cases hts
  rw [hd] at hts
  cases hts
  have hopcode : TokenKind.split? 0x19 = some (.attr, none) := by decide
  obtain ⟨p, hp⟩ := Decode.reads_of_tokens_singleton hd hopcode
  simp only [Decode.payload, Reader.reads_bind, Reader.reads_pure] at hp
  obtain ⟨_, _, ⟨a', _, ha', -, rfl⟩, -, rfl⟩ := hp
  rw [ha] at ha'
  exact Decode.length_of_reads_choose ha'

lemma laidOut_of_legible {t : Token} (h : Legible [t]) : t.LaidOut := by
  cases t with
  | attr a =>
    cases a with
    | choose offsets =>
      have hlen := length_of_legible_choose rfl h
      rw [length_flatMap_u16, Nat.toUInt16_eq, UInt16.toNat_ofNat'] at hlen
      have hmod := Nat.mod_lt (offsets.length - 1) (show 0 < 2 ^ 16 by decide)
      show 1 ≤ offsets.length ∧ offsets.length ≤ 65536
      omega
    | other flags data =>
      rintro rfl
      have hlen := length_of_legible_choose (List.append_nil _).symm h
      cases hlen
    | volatile | ifJump | goto | sum | assignment | space => trivial
  | exp | table | binary | unary | paren | missing | text | error | bool | int | num | array | func
  | funcVar | name | nameX | ref | area | memory | refErr | areaErr | refN | areaN | ref3d | area3d
  | refErr3d | areaErr3d => trivial

/-- **Only attributes that look like a selection without being one spoil a formula.** All stretches
of a formula are stored so that they can be read again, exactly if the count of each selection is
the one of its offsets and no other flags look like those of a selection. -/
theorem legible_iff_laidOut (ts : List Token) :
    (∀ us, us <:+: ts → Legible us) ↔ ∀ t ∈ ts, t.LaidOut := by
  constructor
  · intro h t ht
    exact laidOut_of_legible (h [t] ((List.singleton_infix_iff t ts).mpr ht))
  · intro h us hus
    exact legible_of_laidOut fun t ht => h t (hus.subset ht)

/-- A selection without offsets is not refused, and cannot be read. -/
theorem not_legible_choose_nil : ¬Legible [.attr (.choose [])] := by
  intro h
  obtain ⟨ts, hts, -⟩ := h ⟨[0x19, 0x04, 0, 0], []⟩ rfl
  have hend : decode [0x19, 0x04, 0, 0] [] = .error ⟨0, .unexpectedEnd 0x19 2 0⟩ := by cbv
  rw [hend] at hts
  cases hts

end Spreadsheet
