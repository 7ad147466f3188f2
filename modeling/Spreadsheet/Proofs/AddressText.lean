import Mathlib
import Spreadsheet.Grid.Address
import Spreadsheet.Proofs.ColumnLetters
import Spreadsheet.Proofs.Trimming
import Spreadsheet.Text.Case

/-!
Addresses as text.

An address is spelled by letters and digits, each behind a dollar sign or not. Which texts are read
is told by this grammar and the size of the grid alone. Each address on the grid has one text of its
own, the one in capitals and without leading zeros, and every other text that is read as this
address differs from it in nothing else.
-/

namespace Spreadsheet

/-! ### Digits -/

section
variable {ds : List Char}

lemma isAlpha_eq_false_of_isDigit {c : Char} (h : c.isDigit) : c.isAlpha = false := by
  have := Text.digit_bounds h
  refine Bool.eq_false_iff.mpr fun halpha => ?_
  have := letter_bounds halpha
  omega

lemma digitChar_toNat_sub {c : Char} (h : c.isDigit) : Nat.digitChar (c.toNat - 48) = c := by
  have := Text.digit_bounds h
  apply Char.toNat_inj.mp
  rw [Nat.toNat_digitChar_of_lt_ten (by omega)]
  omega

lemma toUpper_of_isDigit {c : Char} (h : c.isDigit) : c.toUpper = c := by
  have := Text.digit_bounds h
  refine Char.toUpper_eq_of_not_isLower fun hlower => ?_
  simp only [Char.isLower, ge_iff_le, UInt32.le_iff_toNat_le, Bool.and_eq_true,
    decide_eq_true_eq] at hlower
  have : 97 ≤ c.toNat := hlower.1
  omega

namespace Number

lemma ofDigits_toDigits (n : Nat) : ofDigits (Nat.toDigits 10 n) = n :=
  Nat.ofDigitChars_ten_toDigits

lemma toDigits_ofDigits_cons {c : Char} (hc : c.isDigit) (hzero : c ≠ '0')
    (h : ∀ d ∈ ds, d.isDigit) : Nat.toDigits 10 (ofDigits (c :: ds)) = c :: ds := by
  induction ds using List.reverseRecOn with
  | nil =>
    have := Text.digit_bounds hc
    rw [show ofDigits [c] = c.toNat - 48 by simp [ofDigits], Nat.toDigits_of_lt_base (by omega),
      digitChar_toNat_sub hc]
  | append_singleton ds d ih =>
    have hd : d.isDigit := h d (by simp)
    have := Text.digit_bounds hd
    have ih := ih fun e he => h e (by simp [he])
    have hpos : 0 < ofDigits (c :: ds) := by
      refine Nat.pos_of_ne_zero fun hsum => hzero ?_
      rw [hsum] at ih
      exact (List.cons.inj ih).1.symm
    have hvalue : ofDigits (c :: ds ++ [d]) = 10 * ofDigits (c :: ds) + (d.toNat - 48) := by
      rw [ofDigits, List.foldl_append]
      rfl
    rw [← List.cons_append, hvalue,
      ← Nat.toDigits_append_toDigits (by decide) hpos (by omega), ih,
      Nat.toDigits_of_lt_base (by omega), digitChar_toNat_sub hd]

/-- Digits are those of the number that they spell, up to zeros in front. -/
lemma toDigits_ofDigits (h : ∀ d ∈ ds, d.isDigit) (hpos : 0 < ofDigits ds) :
    Nat.toDigits 10 (ofDigits ds) = ds.dropWhile (· = '0') := by
  induction ds with
  | nil => exact absurd hpos (Nat.lt_irrefl 0)
  | cons c ds ih =>
    by_cases hc : c = '0'
    · subst hc
      exact ih (fun d hd => h d (by simp [hd])) hpos
    · rw [List.dropWhile_cons_of_neg (by simpa using hc),
        toDigits_ofDigits_cons (h c (by simp)) hc fun d hd => h d (by simp [hd])]

end Number

end

/-! ### Spellings -/

/-- An address as it is spelled. -/
structure AddressSpelling where
  /-- A dollar sign stands in front of the letters. -/
  colSign : Bool
  letters : List Char
  /-- A dollar sign stands in front of the digits. -/
  rowSign : Bool
  digits : List Char
  letters_ne_nil : letters ≠ []
  isAlpha : ∀ c ∈ letters, c.isAlpha
  digits_ne_nil : digits ≠ []
  isDigit : ∀ c ∈ digits, c.isDigit

namespace AddressSpelling

variable {p : AddressSpelling} {s : List Char} {limits : Limits} {a : Address}

def sign (present : Bool) : List Char := if present then ['$'] else []

def text (p : AddressSpelling) : List Char :=
  sign p.colSign ++ (p.letters ++ (sign p.rowSign ++ p.digits))

/-- The number of the column, the first being 1. -/
def col (p : AddressSpelling) : Nat := letterValue p.letters

/-- The number of the row, the first being 1. -/
def row (p : AddressSpelling) : Nat := Number.ofDigits p.digits

/-- Column and row are on the grid. -/
structure OnGrid (p : AddressSpelling) (limits : Limits) : Prop where
  one_le_col : 1 ≤ p.col
  col_le : p.col ≤ limits.maxCols
  one_le_row : 1 ≤ p.row
  row_le : p.row ≤ limits.maxRows

/-- The address that is spelled. A coordinate without a dollar sign is relative. -/
def address (p : AddressSpelling) : Address where
  row := p.row - 1
  col := p.col - 1
  rowRelative := !p.rowSign
  colRelative := !p.colSign

/-! #### Their characters -/

lemma eq_of_mem_sign {c : Char} {present : Bool} (h : c ∈ sign present) : c = '$' := by
  cases present
  · cases h
  · exact List.mem_singleton.mp h

lemma toNat_bounds_of_mem_text {c : Char} (h : c ∈ p.text) : 0x20 < c.toNat ∧ c.toNat < 0x80 := by
  simp only [text, List.mem_append] at h
  rcases h with h | h | h | h
  · rw [eq_of_mem_sign h]
    decide
  · have := letter_bounds (p.isAlpha c h)
    omega
  · rw [eq_of_mem_sign h]
    decide
  · have := Text.digit_bounds (p.isDigit c h)
    omega

/-- A spelling has no blanks. -/
lemma trim_text (p : AddressSpelling) : Text.trim p.text = p.text :=
  Text.trim_eq_self fun _ hc =>
    Text.isBlank_of_ascii (toNat_bounds_of_mem_text hc).1 (toNat_bounds_of_mem_text hc).2

/-! #### Reading them -/

lemma splitDollar_sign (present : Bool) {cs : List Char} (h : cs.head? ≠ some '$') :
    splitDollar (sign present ++ cs) = (!present, cs) := by
  cases present
  · rcases cs with _ | ⟨c, cs⟩
    · rfl
    · exact splitDollar.eq_2 (c :: cs) fun rest hrest => h (by rw [hrest, List.head?_cons])
  · rfl

lemma sign_splitDollar (cs : List Char) :
    sign (!(splitDollar cs).1) ++ (splitDollar cs).2 = cs := by
  unfold splitDollar
  split <;> rfl

lemma head?_letters_append (p : AddressSpelling) (cs : List Char) :
    (p.letters ++ cs).head? ≠ some '$' := by
  obtain ⟨c, letters, hletters⟩ := List.exists_cons_of_ne_nil p.letters_ne_nil
  have hc : c.isAlpha := p.isAlpha c (by simp [hletters])
  rintro h
  rw [hletters] at h
  cases h
  cases hc

lemma head?_digits (p : AddressSpelling) : p.digits.head? ≠ some '$' := by
  intro h
  have hc := p.isDigit _ (List.mem_of_mem_head? h)
  cases hc

/-- The letters end where the sign of the row or its digits begin. -/
lemma isAlpha_head?_row (p : AddressSpelling) :
    ∀ c ∈ (sign p.rowSign ++ p.digits).head?, c.isAlpha = false := by
  intro c hc
  rcases hrow : p.rowSign
  · rw [hrow] at hc
    exact isAlpha_eq_false_of_isDigit (p.isDigit c (List.mem_of_mem_head? hc))
  · rw [hrow] at hc
    cases hc
    rfl

/-- A text of this shape is judged by the numbers that it spells. -/
lemma read_eq (h : Text.trim s = p.text) : Address.read s limits =
    match columnOfName? p.letters with
    | none => .error .invalidColumn
    | some col =>
      if limits.maxCols ≤ col then .error .invalidColumn
      else if p.row = 0 ∨ limits.maxRows < p.row then .error .invalidRow
      else .ok ⟨p.row - 1, col, !p.rowSign, !p.colSign⟩ := by
  have hcol : splitDollar p.text = (!p.colSign, p.letters ++ (sign p.rowSign ++ p.digits)) :=
    splitDollar_sign p.colSign (p.head?_letters_append _)
  have hletters := Text.takeWhile_run p.isAlpha p.isAlpha_head?_row
  have hafter := Text.dropWhile_run p.isAlpha p.isAlpha_head?_row
  have hrow : splitDollar (sign p.rowSign ++ p.digits) = (!p.rowSign, p.digits) :=
    splitDollar_sign p.rowSign p.head?_digits
  have hdigits : p.digits.takeWhile Char.isDigit = p.digits :=
    List.takeWhile_eq_self_iff.mpr p.isDigit
  have hend : p.digits.dropWhile Char.isDigit = [] := List.dropWhile_eq_nil_iff.mpr p.isDigit
  have hne : p.text.isEmpty = false := by
    simp [text, p.letters_ne_nil]
  unfold Address.read
  simp only [h, hne, hcol, hletters, hafter, hrow, hdigits, hend, List.isEmpty_iff,
    p.letters_ne_nil, p.digits_ne_nil, List.isEmpty_nil, Bool.not_true, Bool.false_eq_true,
    if_false, bind, Except.bind, pure, Except.pure]
  rcases columnOfName? p.letters with _ | col
  · rfl
  · rfl

/-- What is read as an address has its shape. -/
lemma exists_text_eq_of_read (h : Address.read s limits = .ok a) :
    ∃ p : AddressSpelling, Text.trim s = p.text := by
  unfold Address.read at h
  simp only [bind, Except.bind, pure, Except.pure, throw, throwThe, MonadExceptOf.throw] at h
  generalize Text.trim s = cs at h ⊢
  split at h
  · cases h
  split at h
  · cases h
  rename_i hletters
  split at h
  · cases h
  rename_i hdigits
  split at h
  · cases h
  rename_i hend
  -- the shape is right; the numbers do not matter any more
  clear h
  simp only [List.isEmpty_iff, Bool.not_eq_true', Bool.not_eq_false] at hletters hdigits hend
  refine ⟨⟨!(splitDollar cs).1, _, !(splitDollar ((splitDollar cs).2.dropWhile Char.isAlpha)).1, _,
    hletters, fun c => List.mem_takeWhile_imp, hdigits, fun c => List.mem_takeWhile_imp⟩, ?_⟩
  set part := (splitDollar cs).2
  set rowPart := splitDollar (part.dropWhile Char.isAlpha)
  calc cs = sign (!(splitDollar cs).1) ++ part := (sign_splitDollar cs).symm
    _ = sign (!(splitDollar cs).1) ++
        (part.takeWhile Char.isAlpha ++ part.dropWhile Char.isAlpha) := by
      rw [List.takeWhile_append_dropWhile]
    _ = sign (!(splitDollar cs).1) ++
        (part.takeWhile Char.isAlpha ++ (sign (!rowPart.1) ++ rowPart.2)) := by
      rw [sign_splitDollar]
    _ = sign (!(splitDollar cs).1) ++ (part.takeWhile Char.isAlpha ++
        (sign (!rowPart.1) ++ rowPart.2.takeWhile Char.isDigit)) := by
      rw [List.takeWhile_eq_self_iff.mpr (List.dropWhile_eq_nil_iff.mp hend)]

/-- Of a text of this shape the numbers decide. -/
lemma read_eq_ok_iff (hcols : limits.maxCols < UInt32.size) (h : Text.trim s = p.text) :
    Address.read s limits = .ok a ↔ p.OnGrid limits ∧ p.address = a := by
  rw [read_eq h]
  constructor
  · intro hread
    rcases hcol : columnOfName? p.letters with _ | col
    · simp only [hcol] at hread
      cases hread
    simp only [hcol] at hread
    split_ifs at hread with hbeyond hrow
    obtain ⟨-, -, hvalue, -⟩ := columnOfName?_eq_some_iff.mp hcol
    have hvalue : p.col = col + 1 := hvalue
    refine ⟨⟨by omega, by omega, by omega, by omega⟩, ?_⟩
    rw [← Except.ok.inj hread, address, hvalue, Nat.add_sub_cancel]
  · rintro ⟨⟨hcol, hcolLe, hrow, hrowLe⟩, rfl⟩
    have hname : columnOfName? p.letters = some (p.col - 1) :=
      columnOfName?_eq_some_iff.mpr ⟨p.letters_ne_nil, p.isAlpha, by rw [← col]; omega, by omega⟩
    simp only [hname]
    rw [if_neg (by omega), if_neg (by omega), address]

/-! #### Writing them -/

/-- The spelling that an address is written in. -/
def ofAddress (a : Address) : AddressSpelling where
  colSign := !a.colRelative
  letters := columnName a.col
  rowSign := !a.rowRelative
  digits := Nat.toDigits 10 (a.row + 1)
  letters_ne_nil := columnName_ne_nil a.col
  isAlpha _ hc := isAlpha_of_mem_columnName hc
  digits_ne_nil := Nat.toDigits_ne_nil
  isDigit _ hc := Nat.isDigit_of_mem_toDigits (by decide) (by decide) hc

lemma text_eq (a : Address) : a.text = sign (!a.colRelative) ++
    (columnName a.col ++ (sign (!a.rowRelative) ++ Nat.toDigits 10 (a.row + 1))) := by
  have hsign (relative : Bool) : (if relative then [] else ['$']) = sign (!relative) := by
    cases relative <;> rfl
  rw [Address.text, Address.colText, Address.rowText, hsign, hsign, List.append_assoc]

lemma text_ofAddress (a : Address) : (ofAddress a).text = a.text := (text_eq a).symm

lemma col_ofAddress (a : Address) : (ofAddress a).col = a.col + 1 := letterValue_columnName a.col

lemma row_ofAddress (a : Address) : (ofAddress a).row = a.row + 1 :=
  Number.ofDigits_toDigits (a.row + 1)

lemma address_ofAddress (a : Address) : (ofAddress a).address = a := by
  rw [address, col_ofAddress, row_ofAddress]
  simp [ofAddress]

lemma text_address (h : p.OnGrid limits) : p.address.text =
    sign p.colSign ++ (p.letters.map Char.toUpper ++
      (sign p.rowSign ++ p.digits.dropWhile (· = '0'))) := by
  have hcol : columnName (p.col - 1) = p.letters.map Char.toUpper :=
    columnName_letterValue p.letters_ne_nil p.isAlpha
  have hrow : Nat.toDigits 10 (p.row - 1 + 1) = p.digits.dropWhile (· = '0') := by
    rw [Nat.sub_add_cancel h.one_le_row]
    exact Number.toDigits_ofDigits p.isDigit h.one_le_row
  rw [text_eq]
  simp only [address, hcol, hrow, Bool.not_not]

end AddressSpelling

/-! ### The two directions -/

lemma Text.upperChars_of_ascii {cs : List Char} (h : ∀ c ∈ cs, c.toNat < 0x80) :
    Text.upperChars cs = cs.map Char.toUpper := by
  induction cs with
  | nil => rfl
  | cons c cs ih =>
    rw [Text.upperChars, List.flatMap_cons, ← Text.upperChars, ih fun d hd => h d (by simp [hd]),
      Text.upperChar, if_pos (h c (by simp))]
    rfl

/-- Text without the zeros in front of its first number. -/
def withoutLeadingZeros (cs : List Char) : List Char :=
  cs.takeWhile (fun c => !c.isDigit) ++ (cs.dropWhile fun c => !c.isDigit).dropWhile (· = '0')

namespace AddressSpelling

/-- The text of a spelled address is the spelling in capitals without leading zeros. -/
lemma text_address_eq {p : AddressSpelling} {limits : Limits} (h : p.OnGrid limits) :
    p.address.text = withoutLeadingZeros (Text.upperChars p.text) := by
  have hupper : Text.upperChars p.text =
      (sign p.colSign ++ (p.letters.map Char.toUpper ++ sign p.rowSign)) ++ p.digits := by
    have hsign (present : Bool) : (sign present).map Char.toUpper = sign present := by
      cases present <;> rfl
    rw [Text.upperChars_of_ascii fun c hc => (toNat_bounds_of_mem_text hc).2, text,
      List.map_append, List.map_append, List.map_append, hsign, hsign,
      List.map_congr_left fun c hc => toUpper_of_isDigit (p.isDigit c hc), List.map_id',
      List.append_assoc, List.append_assoc]
  have hfront : ∀ c ∈ sign p.colSign ++ (p.letters.map Char.toUpper ++ sign p.rowSign),
      !c.isDigit := by
    intro c hc
    simp only [List.mem_append, List.mem_map] at hc
    rcases hc with hc | ⟨d, hd, rfl⟩ | hc
    · rw [eq_of_mem_sign hc]
      rfl
    · have := toNat_toUpper_of_isAlpha (p.isAlpha d hd)
      rw [Bool.not_eq_true']
      refine Bool.eq_false_iff.mpr fun hdigit => ?_
      have := Text.digit_bounds hdigit
      omega
    · rw [eq_of_mem_sign hc]
      rfl
  have hdigits : ∀ c ∈ p.digits.head?, (!c.isDigit) = false := by
    intro c hc
    rw [p.isDigit c (List.mem_of_mem_head? hc)]
    rfl
  rw [text_address h, hupper, withoutLeadingZeros, Text.takeWhile_run hfront hdigits,
    Text.dropWhile_run hfront hdigits]
  simp only [List.append_assoc]

end AddressSpelling

/-- **Addresses and their texts.** On a grid with columns of 32 bits a text is read as an address if
and only if, without the blanks around it, it spells this address and the grid has its column and
its row. Every address on the grid is read back from its own text, marks included, and from every
text that is read its own text differs at most in the blanks around, in small letters and in zeros
in front of the row. -/
theorem Address.read_inverts_text (limits : Limits) (hcols : limits.maxCols < UInt32.size) :
    (∀ s a, Address.read s limits = .ok a ↔ ∃ p : AddressSpelling,
      Text.trim s = p.text ∧ p.OnGrid limits ∧ p.address = a) ∧
    (∀ a : Address, a.row < limits.maxRows → a.col < limits.maxCols →
      Address.read a.text limits = .ok a) ∧
    ∀ s a, Address.read s limits = .ok a →
      a.text = withoutLeadingZeros (Text.upperChars (Text.trim s)) := by
  have hread (s : List Char) (a : Address) : Address.read s limits = .ok a ↔
      ∃ p : AddressSpelling, Text.trim s = p.text ∧ p.OnGrid limits ∧ p.address = a := by
    constructor
    · intro h
      obtain ⟨p, hp⟩ := AddressSpelling.exists_text_eq_of_read h
      exact ⟨p, hp, (AddressSpelling.read_eq_ok_iff hcols hp).mp h⟩
    · rintro ⟨p, hp, h⟩
      exact (AddressSpelling.read_eq_ok_iff hcols hp).mpr h
  refine ⟨hread, fun a hrow hcol => ?_, fun s a h => ?_⟩
  · refine (hread a.text a).mpr ⟨.ofAddress a, ?_, ⟨?_, ?_, ?_, ?_⟩,
      AddressSpelling.address_ofAddress a⟩
    · rw [← AddressSpelling.text_ofAddress, AddressSpelling.trim_text]
    all_goals simp only [AddressSpelling.col_ofAddress, AddressSpelling.row_ofAddress]; omega
  · obtain ⟨p, hp, hgrid, rfl⟩ := (hread s a).mp h
    rw [hp, AddressSpelling.text_address_eq hgrid]

/-- Row 7 of column `BC`, whose row is absolute, with blanks, small letters and zeros. -/
theorem Address.read_inverts_text_zeros :
    ({} : Limits).maxCols < UInt32.size ∧
      Address.read " bc$007 ".toList {} = .ok ⟨6, 54, false, true⟩ ∧
      Address.read (Address.text ⟨6, 54, false, true⟩) {} = .ok ⟨6, 54, false, true⟩ ∧
      Address.text ⟨6, 54, false, true⟩ = "BC$7".toList := by
  have hcols : ({} : Limits).maxCols < UInt32.size := by decide
  obtain ⟨hread, hback, htext⟩ := Address.read_inverts_text {} hcols
  have h : Address.read " bc$007 ".toList {} = .ok ⟨6, 54, false, true⟩ :=
    (hread _ _).mpr ⟨⟨false, ['b', 'c'], true, ['0', '0', '7'], by decide, by simp, by decide,
      by simp⟩, by decide, ⟨by decide, by decide, by decide, by decide⟩, by decide⟩
  exact ⟨hcols, h, hback _ (by decide) (by decide), (htext _ _ h).trans (by decide)⟩

end Spreadsheet
