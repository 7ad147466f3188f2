import Mathlib
import Spreadsheet.Proofs.Decoding
import Spreadsheet.Proofs.OffendingToken

/-!
How much can be read from so many bytes.

What is read is stored as the bytes that it was read from, so that each token takes up a byte of the
formula, and each element of an array constant and each known area some bytes of the data block,
whatever counts are announced there. Before the elements of an array constant are read, room is made
for as many as are announced, but for no more than the rest of the block can hold. Where the reading
does not fail, that is room for all.
-/

namespace Spreadsheet

/-! ### Sizes -/

/-- The elements of the array constant, if the token is one. -/
def Token.elementCount : Token → Nat
  | array _ _ a => a.values.length
  | _ => 0

/-- The known areas behind the formula, if the token has a list of them. -/
def Token.areaCount : Token → Nat
  | memory m => if m.kind = .areas then m.areas.length else 0
  | _ => 0

/-- The least size of an element: its kind and, if it is an empty text, the length and the form. -/
def ArrayElement.minSize : Nat := 4

def StoredArea.size : Nat := 8

namespace Encode

variable {bs : List UInt8}

lemma minSize_le_length {v : ArrayElement} (h : element v = .ok bs) :
    ArrayElement.minSize ≤ bs.length := by
  cases v with
  | text s =>
    simp only [element, bind_eq_ok, text_eq_ok_iff, pure, Except.pure, Except.ok.injEq] at h
    obtain ⟨_, ⟨-, rfl⟩, rfl⟩ := h
    simp only [List.length_cons, List.length_append, length_leBytes, ArrayElement.minSize]
    omega
  | empty | number | bool | error =>
    cases h
    simp [ArrayElement.minSize, u64]

/-- No element is smaller than an empty text. -/
example : element (.text ⟨"", false⟩) = .ok [0x02, 0, 0, 0] := by decide

lemma length_storedArea {a : StoredArea} (h : storedArea a = .ok bs) :
    bs.length = StoredArea.size := by
  obtain ⟨-, rfl⟩ := storedArea_eq_ok_iff.mp h
  simp [StoredArea.size]

/-- Parts that are written one behind the other, none in less than `k` bytes. -/
lemma mul_length_le {ε α : Type} {write : α → Except ε (List UInt8)} {k : Nat} {as : List α}
    {bss : List (List UInt8)} (hk : ∀ a bs, write a = .ok bs → k ≤ bs.length)
    (h : as.mapM write = .ok bss) : k * as.length ≤ bss.flatten.length := by
  rw [mapM_eq_ok_iff] at h
  induction h with
  | nil => simp
  | cons ha _ ih =>
    have hfirst := hk _ _ ha
    rw [List.length_cons, List.flatten_cons, List.length_append, Nat.mul_succ]
    omega

/-- What a token adds to the data block has the size of its elements and areas at least. -/
lemma size_le_data {t : Token} (h : data t = .ok bs) :
    ArrayElement.minSize * t.elementCount + StoredArea.size * t.areaCount ≤ bs.length := by
  cases t with
  | array cls reserved a =>
    obtain ⟨-, bss, hbss, rfl⟩ := array_eq_ok_iff.mp h
    have hvalues := mul_length_le (fun _ _ => minSize_le_length) hbss
    simp only [Token.elementCount, Token.areaCount, List.length_append]
    omega
  | memory m =>
    simp only [data, memoryData_eq_ok_iff] at h
    simp only [Token.elementCount, Token.areaCount]
    split_ifs at h ⊢
    · obtain ⟨-, bss, hbss, rfl⟩ := h
      have hareas := mul_length_le (fun _ _ h => Nat.le_of_eq (length_storedArea h).symm) hbss
      rw [List.length_append]
      omega
    · omega
  | _ => exact Nat.zero_le _

end Encode

/-- The sizes of all elements of array constants and of all known areas. -/
def Token.dataSize (ts : List Token) : Nat :=
  ArrayElement.minSize * (ts.map elementCount).sum + StoredArea.size * (ts.map areaCount).sum

/-- **The stored form has room for what it stores.** -/
theorem size_le_of_encode {ts : List Token} {s : Stored} (h : encode ts = .ok s) :
    ts.length ≤ s.code.length ∧ Token.dataSize ts ≤ s.data.length := by
  induction ts generalizing s with
  | nil =>
    cases h
    exact ⟨Nat.le_refl _, Nat.le_refl _⟩
  | cons t ts ih =>
    obtain ⟨first, rest, hfirst, hrest, rfl⟩ := encode_cons_eq_ok_iff.mp h
    obtain ⟨bs, used, -, hused, rfl⟩ := Encode.token_eq_ok_iff.mp hfirst
    have htoken := Encode.size_le_data hused
    obtain ⟨hcode, hdata⟩ := ih hrest
    simp only [Token.dataSize, List.map_cons, List.sum_cons, List.length_cons, List.length_append,
      Nat.mul_add] at hdata ⊢
    omega

/-! ### Room for elements -/

namespace Reader

/-- How many bytes are left. -/
def remaining : Reader Nat := fun s => .ok ⟨s.length, s, List.suffix_refl s⟩

@[simp] lemma reads_remaining {s rest : List UInt8} {n : Nat} :
    Reads remaining s n rest ↔ n = s.length ∧ rest = s := by
  constructor
  · rintro ⟨_, he⟩
    cases he
    exact ⟨rfl, rfl⟩
  · rintro ⟨rfl, rfl⟩
    exact ⟨List.suffix_refl _, rfl⟩

end Reader

namespace Decode

open Reader

/-- Reads an array constant, and tells for how many elements room is made before the first of them is
read: for as many as are announced, but for no more than the bytes that are left can hold. -/
def arrayWithRoom : Reader (ArrayConstant × Nat) := do
  let cols := (← Reader.number 1) + 1
  let rows := (← Reader.number 2) + 1
  let room := min (rows * cols) ((← Reader.remaining) / ArrayElement.minSize)
  return (⟨rows, cols, ← Reader.times (rows * cols) element⟩, room)

/-- Apart from the room, this is how array constants are read. -/
lemma fst_arrayWithRoom : (do return (← arrayWithRoom).1) = array := by
  funext s
  simp only [arrayWithRoom, array, bind, pure, Reader.remaining]
  rcases Reader.number 1 s with e | ⟨cols, s₁, h₁⟩
  · rfl
  dsimp only
  rcases Reader.number 2 s₁ with e | ⟨rows, s₂, h₂⟩
  · rfl
  dsimp only
  rcases Reader.times _ element s₂ with e | ⟨values, s₃, h₃⟩ <;> rfl

variable {opcode : UInt8} {code rest data data' unread : List UInt8} {t : Token}
  {before after ts : List Token} {a : ArrayConstant} {room : Nat}

/-- **There is room for all elements that are read.** -/
lemma length_le_room (h : arrayWithRoom.Reads data (a, room) rest) : a.values.length ≤ room := by
  simp only [arrayWithRoom, reads_bind, reads_number, reads_remaining, reads_times, reads_pure,
    Prod.mk.injEq] at h
  obtain ⟨cols, _, -, rows, body, -, _, _, ⟨rfl, rfl⟩, values, _, ⟨hlength, hall⟩, ⟨rfl, rfl⟩,
    rfl⟩ := h
  obtain ⟨bss, hbss, rfl⟩ := writtenBy_element.all hall
  have hsize := Encode.mul_length_le (fun _ _ => Encode.minSize_le_length) hbss
  have hbody : values.length * ArrayElement.minSize ≤ (bss.flatten ++ rest).length := by
    rw [List.length_append, Nat.mul_comm]
    omega
  exact Nat.le_min.mpr
    ⟨Nat.le_of_eq hlength, (Nat.le_div_iff_mul_le (by decide)).mpr hbody⟩

/-! ### Where a token is read -/

lemma exists_tokens_of_decode (h : decode code data = .ok ts) :
    ∃ unread, tokens code.length code data = .ok (ts, unread) := by
  unfold decode decodeWithRest at h
  rcases hts : tokens code.length code data with _ | ⟨ts', unread⟩
  · rw [hts] at h
    cases h
  · rw [hts] at h
    cases h
    exact ⟨unread, rfl⟩

lemma allTokens_of_tokens {total : Nat} (h : tokens total code data = .ok (ts, unread)) :
    AllTokens code data ts unread := by
  fun_induction tokens total code data generalizing ts unread with
  | case1 =>
    cases h
    exact .nil _
  | case2 => cases h
  | case3 data opcode code t mid hmid data' ht ih =>
    rcases hs : tokens total mid data' with _ | ⟨ts', unread'⟩
    · rw [hs] at h
      cases h
    rw [hs] at h
    cases h
    exact .cons ⟨hmid, ht⟩ (ih hs)

/-- A token is found behind those before it, in what they leave of the data block. -/
lemma AllTokens.exists_findsToken (h : AllTokens code data (before ++ t :: after) unread) :
    ∃ front opcode rest mid left data', code = front ++ opcode :: rest ∧
      AllTokens front data before mid ∧ FindsToken opcode rest mid t left data' := by
  induction before generalizing code data with
  | nil =>
    cases h with
    | cons ht hs => exact ⟨[], _, _, data, _, _, rfl, .nil data, ht⟩
  | cons b before ih =>
    cases h with
    | cons hb hs =>
      obtain ⟨front', opcode, rest, mid, left, data', rfl, hbefore, ht⟩ := ih hs
      obtain ⟨front, rfl, -⟩ := hb.append
      exact ⟨_ :: (front ++ front'), opcode, rest, mid, left, data', by simp,
        .cons_append hb hbefore, ht⟩

/-- What a token for an array constant keeps in the data block is that constant. -/
lemma FindsToken.reads_array {cls : TokenClass} {reserved : Vector UInt8 7}
    (h : FindsToken opcode code data (.array cls reserved a) rest data') :
    array.Reads data a data' := by
  obtain ⟨hrest, ht⟩ := h
  obtain ⟨bs, used, hwritten, -, -⟩ := token_written ht
  obtain ⟨_, _, -, -, hstored⟩ := Encode.token_eq_ok_iff.mp hwritten
  obtain ⟨kind, cls', pending, hkind, hp, hc⟩ := findsToken_iff.mp ⟨hrest, ht⟩
  -- the opcode that is written for the token is the one it was read from
  obtain rfl : opcode = Token.opcode (.array cls reserved a) := by
    injection hstored with hcode
    exact (List.cons.inj hcode).1
  rw [Token.opcode, TokenKind.split?_opcode (Token.isClassed_kind _)] at hkind
  cases hkind
  simp only [payload, Token.kind, reads_bind, reads_bytes, reads_pure] at hp
  obtain ⟨_, _, -, rfl, -⟩ := hp
  simp only [Pending.complete, reads_bind, reads_pure, Token.array.injEq] at hc
  obtain ⟨a', _, ha, ⟨-, -, rfl⟩, rfl⟩ := hc
  exact ha

lemma exists_room (h : array.Reads data a rest) :
    ∃ room, arrayWithRoom.Reads data (a, room) rest := by
  rw [← fst_arrayWithRoom] at h
  obtain ⟨⟨_, room⟩, _, hroom, ha⟩ := reads_bind.mp h
  obtain ⟨rfl, rfl⟩ := reads_pure.mp ha
  exact ⟨room, hroom⟩

end Decode

/-- **What is read is bounded by the bytes that it is read from**, whatever counts they announce. A
formula has no more tokens than bytes; each array constant fills its rectangle; and the elements of
array constants and the known areas fit into the data block. Each array constant is read from what the
tokens before it leave of that block, and room was made for all its elements. -/
theorem bounds_of_decode {code data : List UInt8} {ts : List Token}
    (h : decode code data = .ok ts) :
    ts.length ≤ code.length ∧
    (∀ cls reserved a, .array cls reserved a ∈ ts →
      1 ≤ a.rows ∧ 1 ≤ a.cols ∧ a.values.length = a.rows * a.cols) ∧
    4 * (ts.map Token.elementCount).sum + 8 * (ts.map Token.areaCount).sum ≤ data.length ∧
    ∀ before cls reserved a after, ts = before ++ .array cls reserved a :: after →
      ∃ front unread room rest, front <+: code ∧
        decodeWithRest front data = .ok (before, unread) ∧
        Decode.arrayWithRoom.Reads unread (a, room) rest ∧ a.values.length ≤ room := by
  obtain ⟨rest, hts⟩ := Decode.exists_tokens_of_decode h
  obtain ⟨used, rfl, hstored⟩ := Decode.tokens_written hts
  obtain ⟨hcode, hdata⟩ := size_le_of_encode hstored
  refine ⟨hcode, fun cls reserved a ha => ?_, ?_, ?_⟩
  · have hfits : ArrayConstant.Fits a := encode_ok_iff.mp ⟨_, hstored⟩ _ ha
    exact hfits.1
  · rw [List.length_append]
    exact Nat.le_trans hdata (Nat.le_add_right _ _)
  · rintro before cls reserved a after rfl
    obtain ⟨front, opcode, _, unread, _, _, hfront, hbefore, ht⟩ :=
      (Decode.allTokens_of_tokens hts).exists_findsToken
    obtain ⟨room, hroom⟩ := Decode.exists_room ht.reads_array
    exact ⟨front, unread, room, _, ⟨_, hfront.symm⟩, hbefore.tokens_eq _, hroom,
      Decode.length_le_room hroom⟩

/-- Two empty texts and one area, behind which the data block goes on. -/
theorem bounds_of_decode_mixed :
    let code := [0x66, 1, 2, 3, 4, 0, 0, 0x60, 1, 2, 3, 4, 5, 6, 7]
    let data := [1, 0, 9, 0, 9, 0, 8, 0, 8, 0, 1, 0, 0, 2, 0, 0, 0, 2, 0, 0, 0, 0xEE]
    let area := .memory ⟨.areas, .array, ⟨#[1, 2, 3, 4], rfl⟩, 0, [⟨⟨9, 8⟩, ⟨9, 8⟩⟩]⟩
    let a : ArrayConstant := ⟨1, 2, [.text ⟨"", false⟩, .text ⟨"", false⟩]⟩
    let ts : List Token := [area, .array .array ⟨#[1, 2, 3, 4, 5, 6, 7], rfl⟩ a]
    decode code data = .ok ts ∧ ts.length ≤ code.length ∧ 4 * 2 + 8 * 1 ≤ data.length ∧
      ∃ front unread room rest, front <+: code ∧
        decodeWithRest front data = .ok ([area], unread) ∧
        Decode.arrayWithRoom.Reads unread (a, room) rest ∧ 2 ≤ room := by
  intro code data area a ts
  have h : decode code data = .ok ts := by cbv
  obtain ⟨hlength, -, hdata, hroom⟩ := bounds_of_decode h
  exact ⟨h, hlength, hdata, hroom [area] _ _ a [] rfl⟩

end Spreadsheet
