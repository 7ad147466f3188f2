import Mathlib
import Spreadsheet.Proofs.AddressText
import Spreadsheet.Proofs.QuotedText
import Spreadsheet.SheetName

/-!
Reading the sheets in front of a reference.

A prefix that opens with an apostrophe is quoted, and any other runs to the first exclamation mark;
a colon in it parts a span of sheets. What is written in front of a reference is read back that way
as the same sheets. Quotes are spared exactly for names that no such text and no cell, in either
style of writing cells, can be taken for.
-/

namespace Spreadsheet

namespace SheetName

variable {name first last rest t : List Char} {c : Char}

/-! ### Prefixes -/

/-- The prefix that a text opens with, and what follows its exclamation mark. -/
def readPrefix? (cs : List Char) : Option (List Char × List Char) :=
  if cs.head? = some apostrophe then
    match Text.unquote? apostrophe cs.tail with
    | some (name, '!' :: rest) => some (name, rest)
    | _ => none
  else Text.cutAt? '!' cs

/-- The first and the last sheet of the prefix that a text opens with, and what follows. A prefix
without a colon is a single sheet. -/
def readSpan? (cs : List Char) : Option (List Char × List Char × List Char) := do
  let (span, rest) ← readPrefix? cs
  match span.splitOn ':' with
  | [name] => some (name, name, rest)
  | [first, last] => some (first, last, rest)
  | _ => none

lemma head?_mark_cons : ('!' :: rest).head? ≠ some apostrophe := fun h =>
  absurd (Option.some.inj h) (by decide)

lemma readPrefix?_quoted (name rest : List Char) :
    readPrefix? (Text.quoted apostrophe name ++ '!' :: rest) = some (name, rest) := by
  have hunquote : Text.unquote? apostrophe
      (Text.doubled apostrophe name ++ apostrophe :: '!' :: rest) = some (name, '!' :: rest) :=
    Text.unquote?_doubled head?_mark_cons
  rw [readPrefix?, Text.quoted, List.cons_append, List.append_assoc, List.singleton_append,
    List.head?_cons, if_pos rfl, List.tail_cons, hunquote]
  rfl

lemma readPrefix?_bare (hmark : '!' ∉ name) (hquote : name.head? ≠ some apostrophe) :
    readPrefix? (name ++ '!' :: rest) = some (name, rest) := by
  have hhead : (name ++ '!' :: rest).head? ≠ some apostrophe := by
    rcases name with _ | ⟨c, name⟩
    · exact head?_mark_cons
    · exact hquote
  rw [readPrefix?, if_neg hhead, Text.cutAt?_append hmark]

lemma eq_quoted_of_readPrefix? {cs : List Char} (hcs : cs.head? = some apostrophe)
    (h : readPrefix? cs = some (name, rest)) : cs = Text.quoted apostrophe name ++ '!' :: rest := by
  obtain ⟨cs, rfl⟩ := List.head?_eq_some_iff.mp hcs
  rw [readPrefix?, List.head?_cons, if_pos rfl, List.tail_cons] at h
  split at h
  · next body rest' hunquote =>
    cases h
    rw [(Text.unquote?_eq_some_iff.mp hunquote).1, Text.quoted, List.cons_append, List.append_assoc,
      List.singleton_append]
  · cases h

/-- **What is read as a prefix.** A quoted text, or one that has no exclamation mark and does not
open with an apostrophe. -/
theorem readPrefix?_eq_some_iff {cs : List Char} : readPrefix? cs = some (name, rest) ↔
    cs = Text.quoted apostrophe name ++ '!' :: rest ∨
      (cs = name ++ '!' :: rest ∧ '!' ∉ name ∧ name.head? ≠ some apostrophe) := by
  constructor
  · intro h
    by_cases hcs : cs.head? = some apostrophe
    · exact .inl (eq_quoted_of_readPrefix? hcs h)
    · rw [readPrefix?, if_neg hcs] at h
      obtain ⟨rfl, hmark⟩ := Text.cutAt?_eq_some_iff.mp h
      refine .inr ⟨rfl, hmark, fun hname => hcs ?_⟩
      rw [List.head?_append, hname, Option.some_or]
  · rintro (rfl | ⟨rfl, hmark, hquote⟩)
    · exact readPrefix?_quoted name rest
    · exact readPrefix?_bare hmark hquote

/-! ### Texts that are taken for something else -/

/-- A cell written by its column and its row, with a column of one to three letters up to `XFD`. -/
def SpellsCell (t : List Char) : Prop :=
  ∃ letters digits, t = letters ++ digits ∧ 1 ≤ letters.length ∧ letters.length ≤ 3 ∧
    (∀ c ∈ letters, c.isAlpha) ∧ letterValue letters ≤ letterValue ['X', 'F', 'D'] ∧
    digits ≠ [] ∧ ∀ c ∈ digits, c.isDigit

/-- A row, a column or a cell written by its numbers, any of which may be left out. -/
inductive SpellsNumbers : List Char → Prop
  | row {n : List Char} (hn : ∀ c ∈ n, c.isDigit) : SpellsNumbers ('R' :: n)
  | column {n : List Char} (hn : ∀ c ∈ n, c.isDigit) : SpellsNumbers ('C' :: n)
  | cell {n m : List Char} (hn : ∀ c ∈ n, c.isDigit) (hm : ∀ c ∈ m, c.isDigit) :
    SpellsNumbers ('R' :: (n ++ 'C' :: m))

lemma map_toUpper_of_isDigit {n : List Char} (h : ∀ c ∈ n, c.isDigit) : n.map Char.toUpper = n := by
  rw [List.map_congr_left fun c hc => toUpper_of_isDigit (h c hc), List.map_id']

lemma isDigit_of_isDigit_toUpper (h : c.toUpper.isDigit) : c.isDigit := by
  rcases hlower : c.isLower with _ | _
  · rwa [Char.toUpper_eq_of_not_isLower (by simp [hlower])] at h
  · have halpha : c.toUpper.isAlpha := by
      rw [Char.isAlpha_toUpper_eq_isAlpha, Char.isAlpha, hlower, Bool.or_true]
    rw [isAlpha_eq_false_of_isDigit h] at halpha
    cases halpha

/-- Cells are written in letters of either case. -/
lemma SpellsCell.of_map_toUpper (h : SpellsCell (t.map Char.toUpper)) : SpellsCell t := by
  obtain ⟨letters, digits, ht, hone, hthree, halpha, hvalue, hne, hdigits⟩ := h
  obtain ⟨letters, digits, rfl, rfl, rfl⟩ := List.map_eq_append_iff.mp ht
  simp only [List.length_map, List.forall_mem_map, Char.isAlpha_toUpper_eq_isAlpha,
    letterValue_map_toUpper] at hone hthree halpha hvalue hdigits
  exact ⟨letters, digits, rfl, hone, hthree, halpha, hvalue, fun h => hne (by rw [h]; rfl),
    fun c hc => isDigit_of_isDigit_toUpper (hdigits c hc)⟩

lemma SpellsCell.map_toUpper (h : SpellsCell t) : SpellsCell (t.map Char.toUpper) := by
  obtain ⟨letters, digits, rfl, hone, hthree, halpha, hvalue, hne, hdigits⟩ := h
  refine ⟨letters.map Char.toUpper, digits, ?_, by simpa using hone, by simpa using hthree, ?_,
    by rwa [letterValue_map_toUpper], hne, hdigits⟩
  · rw [List.map_append, map_toUpper_of_isDigit hdigits]
  · simpa [Char.isAlpha_toUpper_eq_isAlpha] using halpha

/-- Only capitals and digits are written, so that the text is its own upper case. -/
lemma SpellsNumbers.map_toUpper_eq (h : SpellsNumbers t) : t.map Char.toUpper = t := by
  cases h with
  | row hn | column hn =>
    rw [List.map_cons, map_toUpper_of_isDigit hn]
    rfl
  | cell hn hm =>
    rw [List.map_cons, List.map_append, List.map_cons, map_toUpper_of_isDigit hn,
      map_toUpper_of_isDigit hm]
    rfl

/-! ### Names without quotes -/

lemma isPlainChar_iff : isPlainChar c ↔ Text.isAlphanumeric c ∨ c = '_' ∨ c = '.' := by
  simp [isPlainChar, or_assoc]

lemma looksLikeA1_iff : looksLikeA1 name ↔ SpellsCell name := by
  simp only [looksLikeA1, Bool.and_eq_true, Bool.not_eq_true', List.isEmpty_eq_false_iff,
    decide_eq_true_eq, List.all_eq_true, Option.any_eq_true]
  constructor
  · rintro ⟨⟨⟨⟨hletters, hthree⟩, hne⟩, hdigits⟩, col, hcol, hlt⟩
    obtain ⟨-, halpha, hvalue, -⟩ := columnOfName?_eq_some_iff.mp hcol
    refine ⟨_, _, List.takeWhile_append_dropWhile.symm, List.length_pos_iff.mpr hletters, hthree,
      halpha, ?_, hne, hdigits⟩
    rw [hvalue]
    exact hlt
  · rintro ⟨letters, digits, rfl, hone, hthree, halpha, hvalue, hne, hdigits⟩
    have hstop : ∀ c ∈ digits.head?, c.isAlpha = false := fun c hc =>
      isAlpha_eq_false_of_isDigit (hdigits c (List.mem_of_mem_head? hc))
    have hletters : letters ≠ [] := List.length_pos_iff.mp hone
    have hpos := letterValue_pos hletters halpha
    have hvalue : letterValue letters ≤ 16384 := hvalue
    rw [Text.takeWhile_run halpha hstop, Text.dropWhile_run halpha hstop]
    refine ⟨⟨⟨⟨hletters, hthree⟩, hne⟩, hdigits⟩, letterValue letters - 1, ?_, by omega⟩
    have hsize : UInt32.size = 4294967296 := rfl
    exact columnOfName?_eq_some_iff.mpr ⟨hletters, halpha, by omega, by omega⟩

lemma spellsNumbers_of_looksLikeR1C1 (h : looksLikeR1C1 name) :
    SpellsNumbers (name.map Char.toUpper) := by
  unfold looksLikeR1C1 at h
  split at h
  · next hname =>
    rw [hname]
    exact .column nofun
  · next n hname =>
    rw [hname, ← List.takeWhile_append_dropWhile (p := Char.isDigit) (l := n)]
    have hn : ∀ c ∈ n.takeWhile Char.isDigit, c.isDigit := fun c => List.mem_takeWhile_imp
    split at h
    · next m hm =>
      rw [hm]
      exact .cell hn (List.all_eq_true.mp h)
    · rw [List.isEmpty_iff.mp h, List.append_nil]
      exact .row hn
  · cases h

/-- A column with its number is a cell of the column `C` as well, and this is how it is noticed. -/
lemma looksLike_of_spellsNumbers (h : SpellsNumbers (name.map Char.toUpper)) :
    looksLikeA1 name ∨ looksLikeR1C1 name := by
  generalize hu : name.map Char.toUpper = u at h
  cases h with
  | @row n hn =>
    refine .inr ?_
    have hend : n.dropWhile Char.isDigit = [] := List.dropWhile_eq_nil_iff.mpr hn
    simp [looksLikeR1C1, hu, hend]
  | @column n hn =>
    rcases n with _ | ⟨d, n⟩
    · exact .inr (by simp [looksLikeR1C1, hu])
    · refine .inl (looksLikeA1_iff.mpr (.of_map_toUpper ?_))
      rw [hu]
      exact ⟨['C'], d :: n, rfl, by decide, by decide, by simp, by decide, by simp, hn⟩
  | @cell n m hn hm =>
    refine .inr ?_
    have hend : (n ++ 'C' :: m).dropWhile Char.isDigit = 'C' :: m :=
      Text.dropWhile_run hn (by simp)
    simpa [looksLikeR1C1, hu, hend] using hm

/-- The name is plain, and it is no cell, in whatever case the letters of the cell are written. -/
structure Unmistakable (name : List Char) : Prop where
  plain : ∀ c ∈ name, Text.isAlphanumeric c ∨ c = '_' ∨ c = '.'
  start : ∀ c ∈ name.head?, c.isDigit = false ∧ c ≠ '.'
  noCell : ∀ t, t.map Char.toUpper = name.map Char.toUpper → ¬ SpellsCell t
  noNumbers : ∀ t, t.map Char.toUpper = name.map Char.toUpper → ¬ SpellsNumbers t

lemma noCell_iff : (∀ t, t.map Char.toUpper = name.map Char.toUpper → ¬ SpellsCell t) ↔
    looksLikeA1 name = false := by
  rw [← Bool.not_eq_true, looksLikeA1_iff]
  refine ⟨fun h => h name rfl, fun h t ht hcell => h (.of_map_toUpper ?_)⟩
  rw [← ht]
  exact hcell.map_toUpper

lemma noNumbers_iff : (∀ t, t.map Char.toUpper = name.map Char.toUpper → ¬ SpellsNumbers t) ↔
    ¬ SpellsNumbers (name.map Char.toUpper) := by
  refine ⟨fun h => h _ ?_, fun h t ht hnumbers => h ?_⟩
  · rw [List.map_map]
    exact List.map_congr_left fun c _ => Char.toUpper_toUpper_eq_toUpper c
  · rwa [← ht, hnumbers.map_toUpper_eq]

/-- **Quotes are spared for unmistakable names.** -/
theorem needsQuotes_eq_false_iff :
    needsQuotes name = false ↔ name ≠ [] ∧ Unmistakable name := by
  rcases name with _ | ⟨c, name⟩
  · exact iff_of_false nofun fun h => h.1 rfl
  have hplain : (!(c :: name).all isPlainChar) = false ↔
      ∀ d ∈ c :: name, Text.isAlphanumeric d ∨ d = '_' ∨ d = '.' := by
    simp only [Bool.not_eq_false', List.all_eq_true, isPlainChar_iff]
  simp only [needsQuotes, Bool.or_eq_false_iff, decide_eq_false_iff_not, hplain]
  constructor
  · rintro ⟨⟨⟨⟨hdigit, hpoint⟩, hplain⟩, hcell⟩, hnumbers⟩
    refine ⟨by simp, hplain, fun d hd => ?_, noCell_iff.mpr hcell, noNumbers_iff.mpr fun h => ?_⟩
    · cases hd
      exact ⟨hdigit, hpoint⟩
    · have := looksLike_of_spellsNumbers h
      simp [hcell, hnumbers] at this
  · rintro ⟨-, hplain, hstart, hcell, hnumbers⟩
    have hstart := hstart c rfl
    exact ⟨⟨⟨hstart, hplain⟩, noCell_iff.mp hcell⟩, Bool.eq_false_iff.mpr fun h =>
      noNumbers_iff.mp hnumbers (spellsNumbers_of_looksLikeR1C1 h)⟩

lemma not_mem_of_bare (h : needsQuotes name = false) (hc : isPlainChar c = false) : c ∉ name := by
  intro hmem
  have hplain := isPlainChar_iff.mpr ((needsQuotes_eq_false_iff.mp h).2.plain c hmem)
  exact Bool.false_ne_true (hc.symm.trans hplain)

lemma head?_ne_apostrophe (h : needsQuotes name = false) : name.head? ≠ some apostrophe := fun hc =>
  not_mem_of_bare h (c := apostrophe) (by decide) (List.mem_of_mem_head? hc)

/-! ### Reading back -/

/-- A span of sheets without quotes. -/
def spanText (first last : List Char) : List Char :=
  if first = last then first else first ++ ':' :: last

lemma writtenSpan_eq (first last : List Char) : writtenSpan first last =
    if needsQuotes first || needsQuotes last then Text.quoted apostrophe (spanText first last)
    else spanText first last := by
  unfold writtenSpan spanText
  split
  · next h => rw [← h, Bool.or_self, written]
  · rfl

lemma splitOn_spanText (hfirst : ':' ∉ first) (hlast : ':' ∉ last) :
    (spanText first last).splitOn ':' = if first = last then [first] else [first, last] := by
  unfold spanText
  split
  · exact List.splitOn_eq_singleton hfirst
  · rw [List.splitOn_append_cons_self_of_not_mem hfirst, List.splitOn_eq_singleton hlast]

lemma head?_spanText_ne_apostrophe (hfirst : needsQuotes first = false) :
    (spanText first last).head? ≠ some apostrophe := by
  have hne := (needsQuotes_eq_false_iff.mp hfirst).1
  unfold spanText
  split
  · exact head?_ne_apostrophe hfirst
  · rw [List.head?_append_of_ne_nil _ hne]
    exact head?_ne_apostrophe hfirst

lemma readPrefix?_writtenSpan (first last rest : List Char) :
    readPrefix? (writtenSpan first last ++ '!' :: rest) = some (spanText first last, rest) := by
  rw [writtenSpan_eq]
  split
  · exact readPrefix?_quoted _ rest
  next hbare =>
  obtain ⟨hfirst, hlast⟩ : needsQuotes first = false ∧ needsQuotes last = false := by
    simpa using hbare
  refine readPrefix?_bare ?_ (head?_spanText_ne_apostrophe hfirst)
  have hmark : isPlainChar '!' = false := by decide
  unfold spanText
  split
  · exact not_mem_of_bare hfirst hmark
  · simpa using ⟨not_mem_of_bare hfirst hmark, not_mem_of_bare hlast hmark⟩

lemma head?_writtenSpan_ne_apostrophe_iff : (writtenSpan first last).head? ≠ some apostrophe ↔
    needsQuotes first = false ∧ needsQuotes last = false := by
  rw [writtenSpan_eq]
  split
  · next h =>
    refine iff_of_false (fun hne => hne rfl) fun hbare => ?_
    rw [hbare.1, hbare.2] at h
    cases h
  · next h =>
    have hbare : needsQuotes first = false ∧ needsQuotes last = false := by simpa using h
    exact iff_of_true (head?_spanText_ne_apostrophe hbare.1) hbare

/-- **Sheets in front of a reference.** Names without colons are read back from the prefix that is
written of them, with all that follows its exclamation mark. The prefix goes without quotes if and
only if no name in it is empty, has a character that is not plain, starts as a number does or is, in
whatever case, a cell. -/
theorem readSpan?_writtenSpan (first last rest : List Char) :
    (':' ∉ first → ':' ∉ last →
      readSpan? (writtenSpan first last ++ '!' :: rest) = some (first, last, rest)) ∧
    ((writtenSpan first last).head? ≠ some apostrophe ↔
      (first ≠ [] ∧ Unmistakable first) ∧ last ≠ [] ∧ Unmistakable last) := by
  constructor
  · intro hfirst hlast
    simp only [readSpan?, readPrefix?_writtenSpan, Option.bind_eq_bind, Option.bind_some,
      splitOn_spanText hfirst hlast]
    split_ifs with h
    · rw [h]
    · rfl
  · rw [head?_writtenSpan_ne_apostrophe_iff, needsQuotes_eq_false_iff, needsQuotes_eq_false_iff]

/-- A span with an apostrophe and, behind it, a reference with another exclamation mark. -/
theorem readSpan?_writtenSpan_apostrophe :
    ':' ∉ "Bob's".toList ∧ ':' ∉ "R1C1".toList ∧
      readSpan? "'Bob''s:R1C1'!A1+B!C2".toList =
        some ("Bob's".toList, "R1C1".toList, "A1+B!C2".toList) := by
  have hfirst : ':' ∉ "Bob's".toList := by decide
  have hlast : ':' ∉ "R1C1".toList := by decide
  have hspan : writtenSpan "Bob's".toList "R1C1".toList = "'Bob''s:R1C1'".toList := by decide
  have hread := (readSpan?_writtenSpan "Bob's".toList "R1C1".toList "A1+B!C2".toList).1 hfirst hlast
  rw [hspan] at hread
  exact ⟨hfirst, hlast, hread⟩

end SheetName

end Spreadsheet
