import Mathlib.Data.Bool.AllAny
import Spreadsheet.Proofs.QuotedFields
import Spreadsheet.Token.ArrayConstant

/-!
Array constants as text.

Commas separate the elements of a row and semicolons the rows, and both may stand in the texts among
the elements, but there only in quotes. So the rows and the elements are found again by splitting
outside quotes, and a text is what its element quotes.
-/

namespace Spreadsheet

variable {c : Char}

/-! ### Numbers -/

namespace Number

/-- A character that numbers are written with. -/
def IsNumberChar (c : Char) : Prop := c.isDigit ∨ c ∈ "-.E+inf#NUM!".toList

instance (c : Char) : Decidable (IsNumberChar c) := inferInstanceAs (Decidable (_ ∨ _))

namespace Decimal

variable {d : Decimal}

lemma isDigit_of_mem_significant (h : c ∈ d.significant) : c.isDigit := by
  rw [significant, List.mem_reverse] at h
  exact Nat.isDigit_of_mem_toDigits (by decide) (by decide)
    (List.mem_reverse.mp ((List.dropWhile_sublist _).mem h))

lemma isNumberChar_of_mem_positional (h : c ∈ d.positional) : IsNumberChar c := by
  have hzero : IsNumberChar '0' := by decide
  have hpoint : IsNumberChar '.' := by decide
  have hzeros {n : Nat} (hc : c ∈ List.replicate n '0') : IsNumberChar c :=
    List.eq_of_mem_replicate hc ▸ hzero
  have hdigits (hc : c ∈ d.significant) : IsNumberChar c := .inl (isDigit_of_mem_significant hc)
  unfold positional at h
  simp only at h
  split at h
  · simp only [List.mem_cons, List.mem_append] at h
    rcases h with rfl | rfl | h | h
    exacts [hzero, hpoint, hzeros h, hdigits h]
  · split at h
    · rcases List.mem_append.mp h with h | h
      exacts [hdigits h, hzeros h]
    · simp only [List.mem_cons, List.mem_append] at h
      rcases h with h | rfl | h
      exacts [hdigits (List.mem_of_mem_take h), hpoint, hdigits (List.mem_of_mem_drop h)]

lemma isNumberChar_of_mem_exponential (h : c ∈ d.exponential) : IsNumberChar c := by
  have hdigits (hc : c ∈ d.significant) : IsNumberChar c := .inl (isDigit_of_mem_significant hc)
  unfold exponential at h
  simp only [List.mem_append, List.mem_cons] at h
  rcases h with h | rfl | rfl | h
  · -- the mantissa
    split at h
    · rw [List.mem_singleton.mp h]
      decide
    next digit hdigit =>
      exact hdigits (by rwa [hdigit])
    next digit rest _ hrest =>
      simp only [List.mem_cons] at h
      rcases h with rfl | rfl | h
      · exact hdigits (by simp [hrest])
      · decide
      · exact hdigits (by simp [hrest, h])
  · decide
  · split <;> decide
  · exact .inl (Nat.isDigit_of_mem_toDigits (by decide) (by decide) h)

end Decimal

lemma isNumberChar_of_mem_text {x : Float} (h : c ∈ (text x).toList) : IsNumberChar c := by
  unfold text at h
  split at h
  · exact List.all_iff_forall_prop.mp (by decide) c h
  split at h
  · exact List.all_iff_forall_prop.mp (by decide) c h
  have hsigned {ds : List Char} (hds : ∀ c ∈ ds, IsNumberChar c)
      (h : c ∈ (String.ofList (if isNegative x then '-' :: ds else ds)).toList) :
      IsNumberChar c := by
    rw [String.toList_ofList] at h
    split at h
    · rcases List.mem_cons.mp h with rfl | h
      · decide
      · exact hds c h
    · exact hds c h
  refine hsigned (fun c hc => ?_) h
  split at hc
  · exact List.all_iff_forall_prop.mp (by decide) c hc
  · split at hc
    · exact Decimal.isNumberChar_of_mem_positional hc
    · exact Decimal.isNumberChar_of_mem_exponential hc

end Number

/-! ### Elements -/

namespace ArrayElement

variable {e : ArrayElement} {sep : Char} {body : List Char}

/-- A character that counts neither as a quote nor as a separator. -/
def IsPlainChar (c : Char) : Prop := c ≠ '"' ∧ c ≠ ',' ∧ c ≠ ';'

instance (c : Char) : Decidable (IsPlainChar c) := inferInstanceAs (Decidable (_ ∧ _))

lemma isPlainChar_of_isNumberChar (h : Number.IsNumberChar c) : IsPlainChar c := by
  refine ⟨?_, ?_, ?_⟩ <;>
  · rintro rfl
    exact absurd h (by decide)

lemma isPlainChar_of_mem_errorText (error : CellError) :
    ∀ c ∈ error.text.toList, IsPlainChar c := by
  refine List.all_iff_forall_prop.mp ?_
  cases error <;> decide

/-- Elements other than texts are written without quotes and separators. -/
lemma isPlainChar_of_mem_render (he : ∀ s, e ≠ text s) (h : c ∈ e.render) : IsPlainChar c := by
  cases e with
  | empty => cases h
  | number bits => exact isPlainChar_of_isNumberChar (Number.isNumberChar_of_mem_text h)
  | text s => exact absurd rfl (he s)
  | bool raw =>
    rw [render] at h
    split at h
    · exact List.all_iff_forall_prop.mp (by decide) c h
    · exact List.all_iff_forall_prop.mp (by decide) c h
  | error error => exact isPlainChar_of_mem_errorText error c h

/-- **Elements keep separators in quotes.** -/
lemma sealed_render (hsep : sep = ',' ∨ sep = ';') (e : ArrayElement) :
    Text.Sealed '"' sep false e.render := by
  have hquote : sep ≠ '"' := by
    rcases hsep with rfl | rfl <;> decide
  by_cases he : ∃ s, e = text s
  · obtain ⟨s, rfl⟩ := he
    exact Text.sealed_quoted hquote s.text.toList
  · refine Text.sealed_of_forall_ne fun c hc => ?_
    obtain ⟨hc, hcomma, hsemicolon⟩ := isPlainChar_of_mem_render (not_exists.mp he) hc
    refine ⟨hc, ?_⟩
    rcases hsep with rfl | rfl
    exacts [hcomma, hsemicolon]

/-- **Texts are what they quote**, and nothing else is quoted. -/
lemma unquoted?_render : Text.unquoted? '"' e.render = some body ↔
    ∃ s, e = text s ∧ s.text.toList = body := by
  rw [Text.unquoted?_eq_some_iff]
  constructor
  · intro h
    by_cases he : ∃ s, e = text s
    · obtain ⟨s, rfl⟩ := he
      have hs : Text.unquoted? '"' (text s).render = some s.text.toList :=
        Text.unquoted?_eq_some_iff.mpr rfl
      rw [Text.unquoted?_eq_some_iff.mpr h] at hs
      exact ⟨s, rfl, (Option.some.inj hs).symm⟩
    · have hquote : '"' ∈ e.render := by
        rw [h]
        exact List.mem_cons_self
      exact absurd rfl (isPlainChar_of_mem_render (not_exists.mp he) hquote).1
  · rintro ⟨s, rfl, rfl⟩
    rfl

end ArrayElement

/-! ### Arrays -/

namespace ArrayConstant

variable {a : ArrayConstant}

/-- What stands between braces. -/
def unbraced? (cs : List Char) : Option (List Char) :=
  if cs.head? = some (Char.ofNat 0x7B) ∧ cs.getLast? = some (Char.ofNat 0x7D) then
    some cs.tail.dropLast
  else none

/-- The rows of an array's text, each as its fields: what stands between the braces is split at
semicolons, and each row at commas. -/
def fields? (cs : List Char) : Option (List (List (List Char))) :=
  (unbraced? cs).map fun cs =>
    (Text.splitOutside '"' ';' false cs).map (Text.splitOutside '"' ',' false)

lemma unbraced?_text (a : ArrayConstant) :
    unbraced? a.text = some ([';'].intercalate ((List.range a.rows).map a.rowText)) := by
  have hlast : a.text.getLast? = some (Char.ofNat 0x7D) := by
    rw [text, ← List.cons_append, List.getLast?_concat]
  rw [unbraced?, if_pos ⟨rfl, hlast⟩, text, List.tail_cons, List.dropLast_concat]

/-- The text of the element at a position. -/
def fieldText (a : ArrayConstant) (row col : Nat) : List Char :=
  ((a.get? row col).map ArrayElement.render).getD []

lemma sealed_fieldText {sep : Char} (hsep : sep = ',' ∨ sep = ';') (a : ArrayConstant)
    (row col : Nat) : Text.Sealed '"' sep false (a.fieldText row col) := by
  rw [fieldText]
  rcases a.get? row col with _ | e
  · rfl
  · exact e.sealed_render hsep

/-- A row is split into the texts of its elements. -/
lemma splitOutside_rowText (h : 0 < a.cols) (row : Nat) :
    Text.splitOutside '"' ',' false (a.rowText row) = (List.range a.cols).map (a.fieldText row) := by
  refine Text.splitOutside_intercalate ?_ fun f hf => ?_
  · simpa using h.ne'
  · obtain ⟨col, -, rfl⟩ := List.mem_map.mp hf
    exact a.sealed_fieldText (.inl rfl) row col

lemma sealed_rowText (a : ArrayConstant) (row : Nat) :
    Text.Sealed '"' ';' false (a.rowText row) := by
  refine Text.sealed_intercalate (by decide) (by decide) fun f hf => ?_
  obtain ⟨col, -, rfl⟩ := List.mem_map.mp hf
  exact a.sealed_fieldText (.inr rfl) row col

lemma fields?_eq (h : a.WellShaped) : fields? a.text =
    some ((List.range a.rows).map fun row => (List.range a.cols).map (a.fieldText row)) := by
  obtain ⟨hrows, hcols, -⟩ := h
  have hsplit : Text.splitOutside '"' ';' false
      ([';'].intercalate ((List.range a.rows).map a.rowText)) =
        (List.range a.rows).map a.rowText := by
    refine Text.splitOutside_intercalate ?_ fun f hf => ?_
    · simpa using hrows.ne'
    · obtain ⟨row, -, rfl⟩ := List.mem_map.mp hf
      exact a.sealed_rowText row
  rw [fields?, unbraced?_text, Option.map_some, hsplit, List.map_map]
  simp only [Function.comp_def, splitOutside_rowText hcols]

/-- Every position of a well-shaped array holds an element. -/
lemma exists_get? (h : a.WellShaped) {row col : Nat} (hrow : row < a.rows) (hcol : col < a.cols) :
    ∃ e, a.get? row col = some e := by
  have hlt : row * a.cols + col < a.values.length :=
    calc row * a.cols + col < row * a.cols + a.cols := Nat.add_lt_add_left hcol _
      _ = (row + 1) * a.cols := (Nat.succ_mul row a.cols).symm
      _ ≤ a.rows * a.cols := Nat.mul_le_mul_right _ hrow
      _ = a.values.length := h.2.2.symm
  exact ⟨a.values[row * a.cols + col], by
    rw [get?, if_pos ⟨hrow, hcol⟩, List.getElem?_eq_getElem hlt]⟩

/-- **The text of an array keeps its shape and its elements.** Split outside quotes, first at the
semicolons and then at the commas, what stands between the braces has as many rows as the array and
each row as many fields as it has columns. Each field is the text of the element there, and the
quoted fields are just the texts, of which each is what its field quotes. -/
theorem fields?_text (h : a.WellShaped) :
    ∃ rows, fields? a.text = some rows ∧ rows.length = a.rows ∧
      (∀ fields ∈ rows, fields.length = a.cols) ∧
      ∀ row col, row < a.rows → col < a.cols → ∃ e, a.get? row col = some e ∧
        rows[row]?.bind (·[col]?) = some e.render ∧
        ∀ body, Text.unquoted? '"' e.render = some body ↔
          ∃ s, e = .text s ∧ s.text.toList = body := by
  refine ⟨_, fields?_eq h, by simp, by simp, fun row col hrow hcol => ?_⟩
  obtain ⟨e, he⟩ := exists_get? h hrow hcol
  exact ⟨e, he, by simp [hrow, hcol, fieldText, he], fun body => ArrayElement.unquoted?_render⟩

/-- Quotes and both separators in a text, an element without text and a text without characters. -/
theorem fields?_text_separators :
    let s : StoredText := ⟨"a\";,", false⟩
    let a : ArrayConstant := ⟨2, 2, [.text s, .blank, .ofBool true, .text ⟨"", false⟩]⟩
    a.WellShaped ∧
      a.text = Char.ofNat 0x7B :: ("\"a\"\";,\",;TRUE,\"\"".toList ++ [Char.ofNat 0x7D]) ∧
      ∃ rows, fields? a.text = some rows ∧ rows.length = 2 ∧
        rows[0]?.bind (·[0]?) = some (Text.quoted '"' s.text.toList) ∧
        Text.unquoted? '"' (Text.quoted '"' s.text.toList) = some s.text.toList := by
  intro s a
  have h : a.WellShaped := by decide
  obtain ⟨rows, hrows, hlength, -, hfields⟩ := fields?_text h
  obtain ⟨e, he, hfield, hquoted⟩ := hfields 0 0 (by decide) (by decide)
  obtain rfl : ArrayElement.text s = e := Option.some.inj he
  exact ⟨h, by decide, rows, hrows, hlength, hfield, (hquoted s.text.toList).mpr ⟨s, rfl, rfl⟩⟩

end ArrayConstant

end Spreadsheet
