import Spreadsheet.Proofs.Reading
import Spreadsheet.Token.Decode
import Spreadsheet.Token.Encode

/-!
Texts inside stored formulas are written as they were read, in either form: one byte a character, or
16-bit units.
-/

namespace Spreadsheet

namespace Text

lemma toNat_ofNat {n : Nat} (h : n.isValidChar) : (Char.ofNat n).toNat = n := by
  unfold Char.ofNat
  rw [dif_pos h]
  rfl

/-- Units below the surrogates and above them are characters of their own. -/
lemma charUnits_single {u : UInt16} (hl : isLowSurrogate u = false)
    (hh : isHighSurrogate u = false) : charUnits (Char.ofNat u.toNat) = [u] := by
  have hlt := u.toNat_lt
  simp only [isLowSurrogate, isHighSurrogate, Bool.and_eq_false_iff,
    decide_eq_false_iff_not] at hl hh
  have hvalid : u.toNat.isValidChar := by
    unfold Nat.isValidChar
    omega
  unfold charUnits
  rw [toNat_ofNat hvalid, if_pos (by omega)]
  simp

lemma charUnits_pair {u v : UInt16} (hu : isHighSurrogate u = true)
    (hv : isLowSurrogate v = true) :
    charUnits (Char.ofNat (0x10000 + (u.toNat - 0xD800) * 0x400 + (v.toNat - 0xDC00))) =
      [u, v] := by
  simp only [isLowSurrogate, isHighSurrogate, Bool.and_eq_true, decide_eq_true_eq] at hu hv
  have hvalid : (0x10000 + (u.toNat - 0xD800) * 0x400 + (v.toNat - 0xDC00)).isValidChar := by
    unfold Nat.isValidChar
    omega
  have hfirst : 0xD800 + (0x10000 + (u.toNat - 0xD800) * 0x400 + (v.toNat - 0xDC00) - 0x10000) /
      0x400 = u.toNat := by omega
  have hsecond : 0xDC00 + (0x10000 + (u.toNat - 0xD800) * 0x400 + (v.toNat - 0xDC00) - 0x10000) %
      0x400 = v.toNat := by omega
  unfold charUnits
  rw [toNat_ofNat hvalid]
  dsimp only
  rw [if_neg (by omega), hfirst, hsecond]
  simp

/-- Characters have the units from which they were read. -/
theorem units16_of_ofUnits16? {us : List UInt16} {cs : List Char} (h : ofUnits16? us = some cs) :
    units16 cs = us := by
  fun_induction ofUnits16? us generalizing cs with
  | case1 => cases h; rfl
  | case2 => cases h
  | case3 u _ hu v rest hv ih =>
    obtain ⟨cs, hcs, rfl⟩ := Option.map_eq_some_iff.mp h
    rw [units16, List.flatMap_cons, charUnits_pair hu hv, ← units16, ih hcs]
    rfl
  | case4 => cases h
  | case5 => cases h
  | case6 u rest hl hh ih =>
    obtain ⟨cs, hcs, rfl⟩ := Option.map_eq_some_iff.mp h
    rw [units16, List.flatMap_cons,
      charUnits_single (by simpa using hl) (by simpa using hh),
      ← units16, ih hcs]
    rfl

end Text

namespace Decode.text

/-- Units hold the bytes from which they were taken, if there is an even number of them. -/
lemma units_spec : ∀ (bs : List UInt8) (n : Nat), bs.length = 2 * n →
    (units bs).length = n ∧ (units bs).flatMap Encode.u16 = bs
  | [], 0, _ => ⟨rfl, rfl⟩
  | [_], n, h => by simp at h; omega
  | lo :: hi :: rest, 0, h => by simp at h
  | lo :: hi :: rest, n + 1, h => by
    obtain ⟨hlen, hrest⟩ := units_spec rest n (by simp at h; omega)
    have hlt : ofLEBytes [lo, hi] < 2 ^ 16 := by
      have hlo := lo.toNat_lt
      have hhi := hi.toNat_lt
      simp only [ofLEBytes]
      omega
    have hpair : Encode.u16 (ofLEBytes [lo, hi]).toUInt16 = [lo, hi] := by
      unfold Encode.u16
      rw [UInt16.toNat_ofNat_of_lt' hlt]
      exact leBytes_ofLEBytes [lo, hi]
    refine ⟨by simp [units, hlen], ?_⟩
    rw [units, List.flatMap_cons, hpair, hrest]
    rfl

end Decode.text

namespace Encode

/-- Characters that were read from one byte each are written as one byte each. -/
lemma mapM_narrow (bs : List UInt8) :
    (bs.map fun b => Char.ofNat b.toNat).mapM (fun c =>
      if c.toNat ≤ 0xFF then .ok c.toNat.toUInt8 else .error (.notCompressible c)) =
      (.ok bs : Except EncodeError (List UInt8)) := by
  induction bs with
  | nil => rfl
  | cons b bs ih =>
    have hb := b.toNat_lt
    have hchar : (Char.ofNat b.toNat).toNat = b.toNat :=
      Text.toNat_ofNat (by unfold Nat.isValidChar; omega)
    rw [List.map_cons, List.mapM_cons, ih, hchar, if_pos (by omega)]
    simp [bind, Except.bind, pure, Except.pure]

lemma text_eq_ok {width : Nat} {t : StoredText} {raw : List UInt8}
    (hlen : t.storedLength < 256 ^ width) (hraw : chars t = .ok raw) : text width t =
      .ok (leBytes width t.storedLength ++ (if t.wide then 1 else 0) :: raw) := by
  unfold text
  simp [hraw, bind, Except.bind, pure, Except.pure, Nat.not_lt.mpr (Nat.le_sub_one_of_lt hlen)]

end Encode

/-- A text is written as it was read. -/
theorem writtenBy_text (width : Nat) : (Decode.text width).WrittenBy (Encode.text width) := by
  intro s t rest h
  simp only [Decode.text, Reader.reads_bind, Reader.reads_number, Reader.reads_u8] at h
  obtain ⟨length, mid, ⟨hlt, rfl⟩, flags, mid', rfl, h⟩ := h
  simp only [Reader.reads_ite] at h
  split_ifs at h with h0 h1
  · simp only [Reader.reads_bind, Reader.reads_bytes, Reader.reads_pure] at h
    obtain ⟨raw, mid, rfl, rfl, rfl⟩ := h
    set t : StoredText := ⟨String.ofList (raw.toList.map fun b => Char.ofNat b.toNat), false⟩
    have hlen : t.storedLength = length := by simp [t, StoredText.storedLength]
    have hraw : Encode.chars t = .ok raw.toList := by
      simp only [Encode.chars, t, String.toList_ofList]
      exact Encode.mapM_narrow raw.toList
    refine ⟨_, Encode.text_eq_ok (by rwa [hlen]) hraw, ?_⟩
    simp [hlen, h0, t]
  · simp only [Reader.reads_bind, Reader.reads_bytes] at h
    obtain ⟨raw, mid, rfl, h⟩ := h
    split at h
    · rename_i cs hcs
      obtain ⟨rfl, rfl⟩ := Reader.reads_pure.mp h
      obtain ⟨hunits, hbytes⟩ := Decode.text.units_spec raw.toList length (by simp)
      have hback := Text.units16_of_ofUnits16? hcs
      have hlen : (⟨String.ofList cs, true⟩ : StoredText).storedLength = length := by
        simp [StoredText.storedLength, hback, hunits]
      have hraw : Encode.chars ⟨String.ofList cs, true⟩ = .ok raw.toList := by
        simp [Encode.chars, hback, hbytes]
      refine ⟨_, Encode.text_eq_ok (by rwa [hlen]) hraw, ?_⟩
      simp [hlen, h1]
    · exact absurd h Reader.not_reads_fail
  · exact absurd h Reader.not_reads_fail

end Spreadsheet
