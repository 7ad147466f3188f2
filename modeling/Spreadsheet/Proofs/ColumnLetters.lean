import Mathlib
import Spreadsheet.Grid.Column

/-!
Column letters and the columns they name.

Letters are a numeral in base 26 with the digits 1 to 26, so that every positive number has one
numeral and every numeral one number. Both directions go by the last letter, which is the number's
remainder. A numeral read with 32 bits, each product and each sum of which must fit, is lost only if
its number does not fit.
-/

namespace Spreadsheet

variable {c : Char} {cs tail : List Char} {n col : Nat}

/-! ### Letters -/

lemma letter_bounds (h : c.isAlpha) : 65 ≤ c.toNat ∧ c.toNat ≤ 122 := by
  simp only [Char.isAlpha, Char.isUpper, Char.isLower, ge_iff_le, UInt32.le_iff_toNat_le,
    Bool.or_eq_true, Bool.and_eq_true, decide_eq_true_eq] at h
  change (65 ≤ c.toNat ∧ c.toNat ≤ 90) ∨ (97 ≤ c.toNat ∧ c.toNat ≤ 122) at h
  omega

/-- What a letter of either case counts. -/
def letterWorth (c : Char) : Nat := c.toUpper.toNat - 64

lemma toNat_toUpper_of_isAlpha (h : c.isAlpha) : 65 ≤ c.toUpper.toNat ∧ c.toUpper.toNat ≤ 90 := by
  have hupper : c.toUpper.isUpper := by rwa [Char.isUpper_toUpper_eq_isAlpha]
  simpa [Char.isUpper, UInt32.le_iff_toNat_le] using hupper

lemma letterWorth_bounds (h : c.isAlpha) : 1 ≤ letterWorth c ∧ letterWorth c ≤ 26 := by
  have := toNat_toUpper_of_isAlpha h
  unfold letterWorth
  omega

/-- A letter is told from what it counts, up to its case. -/
lemma ofNat_letterWorth (h : c.isAlpha) : Char.ofNat (64 + letterWorth c) = c.toUpper := by
  have := toNat_toUpper_of_isAlpha h
  rw [letterWorth, Nat.add_sub_cancel' (by omega), Char.ofNat_toNat]

lemma letterWorth_ofNat (h : n < 26) : letterWorth (Char.ofNat (65 + n)) = n + 1 := by
  decide +revert

lemma isUpper_ofNat (h : n < 26) : (Char.ofNat (65 + n)).isUpper := by
  decide +revert

/-! ### Numerals -/

lemma letterValue_concat (cs : List Char) (c : Char) :
    letterValue (cs ++ [c]) = 26 * letterValue cs + letterWorth c := by
  rw [letterValue, List.foldl_append]
  rfl

lemma letterValue_map_toUpper (cs : List Char) :
    letterValue (cs.map Char.toUpper) = letterValue cs := by
  simp only [letterValue, List.foldl_map, Char.toUpper_toUpper_eq_toUpper]

lemma letterValue_pos (hne : cs ≠ []) (h : ∀ c ∈ cs, c.isAlpha) : 0 < letterValue cs := by
  obtain ⟨cs, c, rfl⟩ := (List.eq_nil_or_concat' cs).resolve_left hne
  have := letterWorth_bounds (h c (by simp))
  rw [letterValue_concat]
  omega

lemma lettersOnto_eq_append (n : Nat) (tail : List Char) :
    lettersOnto n tail = lettersOnto n [] ++ tail := by
  induction n using Nat.strong_induction_on generalizing tail with
  | _ n ih =>
    rw [lettersOnto, lettersOnto.eq_1 n []]
    split
    · rfl
    · rw [ih _ (by omega), ih _ (by omega) [_], List.append_assoc]
      rfl

/-- The last letter of a numeral, and the numeral before it. -/
lemma lettersOnto_succ (n : Nat) :
    lettersOnto (n + 1) [] = lettersOnto (n / 26) [] ++ [Char.ofNat (65 + n % 26)] := by
  rw [lettersOnto, if_neg (Nat.succ_ne_zero n), lettersOnto_eq_append]
  rfl

lemma letterValue_lettersOnto (n : Nat) : letterValue (lettersOnto n []) = n := by
  induction n using Nat.strong_induction_on with
  | _ n ih =>
    rcases n with _ | n
    · rw [lettersOnto]
      rfl
    · rw [lettersOnto_succ, letterValue_concat, ih _ (by omega), letterWorth_ofNat (by omega)]
      omega

lemma lettersOnto_letterValue (h : ∀ c ∈ cs, c.isAlpha) :
    lettersOnto (letterValue cs) [] = cs.map Char.toUpper := by
  induction cs using List.reverseRecOn with
  | nil => rw [lettersOnto]; rfl
  | append_singleton cs c ih =>
    have hc : c.isAlpha := h c (by simp)
    have hworth := letterWorth_bounds hc
    have hvalue : letterValue (cs ++ [c]) = 26 * letterValue cs + (letterWorth c - 1) + 1 := by
      rw [letterValue_concat]
      omega
    rw [hvalue, lettersOnto_succ, show (26 * letterValue cs + (letterWorth c - 1)) / 26 =
        letterValue cs by omega, ih fun d hd => h d (by simp [hd]), List.map_append,
      show 65 + (26 * letterValue cs + (letterWorth c - 1)) % 26 = 64 + letterWorth c by omega,
      ofNat_letterWorth hc]
    rfl

/-! ### Columns -/

/-- **The letters of a column name it.** -/
theorem letterValue_columnName (col : Nat) : letterValue (columnName col) = col + 1 :=
  letterValue_lettersOnto (col + 1)

/-- **Letters are those of the column that they name**, up to their case. -/
theorem columnName_letterValue (hne : cs ≠ []) (h : ∀ c ∈ cs, c.isAlpha) :
    columnName (letterValue cs - 1) = cs.map Char.toUpper := by
  have := letterValue_pos hne h
  rw [columnName, Nat.sub_add_cancel this, lettersOnto_letterValue h]

lemma columnName_ne_nil (col : Nat) : columnName col ≠ [] := by
  simp [columnName, lettersOnto_succ]

lemma isUpper_of_mem_lettersOnto (h : c ∈ lettersOnto n []) : c.isUpper := by
  induction n using Nat.strong_induction_on with
  | _ n ih =>
    rcases n with _ | n
    · rw [lettersOnto] at h
      cases h
    · rw [lettersOnto_succ, List.mem_append, List.mem_singleton] at h
      rcases h with h | rfl
      · exact ih _ (by omega) h
      · exact isUpper_ofNat (by omega)

lemma isUpper_of_mem_columnName (h : c ∈ columnName col) : c.isUpper :=
  isUpper_of_mem_lettersOnto h

lemma isAlpha_of_mem_columnName (h : c ∈ columnName col) : c.isAlpha := by
  rw [Char.isAlpha, isUpper_of_mem_columnName h, Bool.true_or]

/-- The column that letters name is the one they count, one less because columns count from zero. -/
lemma columnOfName?_eq_some_iff :
    columnOfName? cs = some col ↔
      cs ≠ [] ∧ (∀ c ∈ cs, c.isAlpha) ∧ letterValue cs = col + 1 ∧ col + 1 < UInt32.size := by
  unfold columnOfName?
  by_cases hletters : cs ≠ [] ∧ ∀ c ∈ cs, c.isAlpha
  · have hpos := letterValue_pos hletters.1 hletters.2
    have hshape : ¬ (cs.isEmpty || !cs.all Char.isAlpha) := by simpa using hletters
    rw [if_neg hshape, Option.ite_none_right_eq_some, Option.some.injEq]
    constructor
    · rintro ⟨hsize, rfl⟩
      exact ⟨hletters.1, hletters.2, by omega, by omega⟩
    · rintro ⟨-, -, hvalue, hsize⟩
      omega
  · have hshape : cs.isEmpty || !cs.all Char.isAlpha := by
      simpa [Classical.or_iff_not_imp_left] using hletters
    rw [if_pos hshape]
    exact iff_of_false nofun fun h => hletters ⟨h.1, h.2.1⟩

/-! ### Reading with 32 bits -/

/-- A letter counts 26 times as much as the one behind it. -/
lemma letterValue_eq_ofDigits (cs : List Char) :
    letterValue cs = Nat.ofDigits 26 (cs.reverse.map letterWorth) := by
  induction cs using List.reverseRecOn with
  | nil => rfl
  | append_singleton cs c ih =>
    rw [letterValue_concat, ih, List.reverse_append, List.reverse_singleton, List.singleton_append,
      List.map_cons, Nat.ofDigits_cons]
    omega

/-- A number of 32 bits. -/
def word? (n : Nat) : Option Nat := if n < UInt32.size then some n else none

/-- A numeral with one more letter behind it, unless a product or a sum has more than 32 bits. -/
def appendLetter? (n : Nat) (c : Char) : Option Nat := do
  guard c.isAlpha
  word? ((← word? (26 * n)) + letterWorth c)

/-- The column that letters name, read one by one. -/
def readColumn? (cs : List Char) : Option Nat := do
  let n ← cs.foldlM appendLetter? 0
  guard (n ≠ 0)
  return n - 1

lemma appendLetter?_eq (n : Nat) (c : Char) : appendLetter? n c =
    if c.isAlpha ∧ 26 * n + letterWorth c < UInt32.size then some (26 * n + letterWorth c)
    else none := by
  unfold appendLetter? word?
  by_cases hc : c.isAlpha
  · by_cases hproduct : 26 * n < UInt32.size
    · simp [hc, hproduct]
    · have hsum : ¬ 26 * n + letterWorth c < UInt32.size := by omega
      simp [hc, hproduct, hsum]
  · simp [hc]

/-- A numeral that once had more than 32 bits never has fewer again. -/
lemma foldlM_appendLetter? (cs : List Char) : cs.foldlM appendLetter? 0 =
    if (∀ c ∈ cs, c.isAlpha) ∧ letterValue cs < UInt32.size then some (letterValue cs)
    else none := by
  induction cs using List.reverseRecOn with
  | nil => rw [if_pos ⟨by simp, by decide⟩]; rfl
  | append_singleton cs c ih =>
    have hiff : (∀ d ∈ cs ++ [c], d.isAlpha) ∧ letterValue (cs ++ [c]) < UInt32.size ↔
        ((∀ d ∈ cs, d.isAlpha) ∧ letterValue cs < UInt32.size) ∧
          c.isAlpha ∧ 26 * letterValue cs + letterWorth c < UInt32.size := by
      rw [List.forall_mem_append, List.forall_mem_singleton, letterValue_concat]
      refine ⟨fun ⟨⟨h, hc⟩, hsize⟩ => ⟨⟨h, by omega⟩, hc, hsize⟩, fun ⟨⟨h, _⟩, hc, hsize⟩ => ?_⟩
      exact ⟨⟨h, hc⟩, hsize⟩
    rw [List.foldlM_append, ih]
    by_cases hbefore : (∀ d ∈ cs, d.isAlpha) ∧ letterValue cs < UInt32.size
    · rw [if_pos hbefore, letterValue_concat]
      change (appendLetter? (letterValue cs) c >>= pure) = _
      rw [bind_pure, appendLetter?_eq]
      refine if_congr ?_ rfl rfl
      rw [← letterValue_concat, hiff, and_iff_right hbefore, letterValue_concat]
    · rw [if_neg hbefore, if_neg fun h => hbefore (hiff.mp h).1]
      rfl

/-- A step goes beyond 32 bits only if the whole numeral does. -/
lemma readColumn?_eq (cs : List Char) : readColumn? cs = columnOfName? cs := by
  refine Option.ext fun n => ?_
  rw [columnOfName?_eq_some_iff]
  unfold readColumn?
  rw [foldlM_appendLetter?]
  by_cases hnumeral : (∀ c ∈ cs, c.isAlpha) ∧ letterValue cs < UInt32.size
  · rw [if_pos hnumeral]
    obtain ⟨hletters, hsize⟩ := hnumeral
    rcases eq_or_ne cs [] with rfl | hne
    · exact iff_of_false nofun fun h => h.1 rfl
    · have hpos := letterValue_pos hne hletters
      change (guard (letterValue cs ≠ 0) >>= fun _ => some (letterValue cs - 1)) = some n ↔ _
      rw [guard, if_pos (Nat.ne_of_gt hpos)]
      change some (letterValue cs - 1) = some n ↔ _
      rw [Option.some.injEq]
      exact ⟨fun h => ⟨hne, hletters, by omega, by omega⟩, fun h => by omega⟩
  · rw [if_neg hnumeral]
    exact iff_of_false nofun fun h => hnumeral ⟨h.2.1, by omega⟩

lemma columnOfName?_columnName (h : col < UInt32.size - 1) :
    columnOfName? (columnName col) = some col :=
  columnOfName?_eq_some_iff.mpr ⟨columnName_ne_nil col, fun _ => isAlpha_of_mem_columnName,
    letterValue_columnName col, Nat.add_lt_of_lt_sub h⟩

lemma columnName_of_columnOfName? (h : columnOfName? cs = some col) :
    columnName col = cs.map Char.toUpper := by
  obtain ⟨hne, hletters, hvalue, -⟩ := columnOfName?_eq_some_iff.mp h
  rw [← columnName_letterValue hne hletters, hvalue, Nat.add_sub_cancel]

/-- **Column letters and columns correspond.** Each column but the last of 32 bits has letters that
name it, and letters name the column that they count, if they count no more than 32 bits can; then
they are its letters, up to their case. Reading them one by one with 32 bits comes to the same, and
letters of different lengths name different columns. -/
theorem columnOfName?_exact :
    (∀ col < UInt32.size - 1, columnOfName? (columnName col) = some col) ∧
    (∀ cs col, columnOfName? cs = some col ↔ (cs ≠ [] ∧ ∀ c ∈ cs, c.isAlpha) ∧
      Nat.ofDigits 26 (cs.reverse.map letterWorth) = col + 1 ∧ col + 1 < UInt32.size) ∧
    (∀ cs col, columnOfName? cs = some col → columnName col = cs.map Char.toUpper) ∧
    (∀ cs, readColumn? cs = columnOfName? cs) ∧
    ∀ cs cs' col, columnOfName? cs = some col → columnOfName? cs' = some col →
      cs.map Char.toUpper = cs'.map Char.toUpper ∧ cs.length = cs'.length := by
  refine ⟨fun col => columnOfName?_columnName, fun cs col => ?_,
    fun cs col => columnName_of_columnOfName?, readColumn?_eq, fun cs cs' col h h' => ?_⟩
  · rw [columnOfName?_eq_some_iff, letterValue_eq_ofDigits, and_assoc]
  · have hsame : cs.map Char.toUpper = cs'.map Char.toUpper :=
      (columnName_of_columnOfName? h).symm.trans (columnName_of_columnOfName? h')
    exact ⟨hsame, by simpa using congrArg List.length hsame⟩

/-- The last column that letters name with 32 bits. -/
theorem columnOfName?_exact_last :
    let letters := ['m', 'w', 'l', 'q', 'k', 'w', 'U']
    4294967294 < UInt32.size - 1 ∧
      columnOfName? (columnName 4294967294) = some 4294967294 ∧
      columnOfName? letters = some 4294967294 ∧
      columnName 4294967294 = letters.map Char.toUpper :=
  have h : columnOfName? ['m', 'w', 'l', 'q', 'k', 'w', 'U'] = some 4294967294 := by decide
  ⟨by decide, columnOfName?_exact.1 _ (by decide), h, columnOfName?_exact.2.2.1 _ _ h⟩

example : columnOfName? ['M', 'W', 'L', 'Q', 'K', 'W', 'V'] = none := by decide

end Spreadsheet
