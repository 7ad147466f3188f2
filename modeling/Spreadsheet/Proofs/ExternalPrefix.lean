import Spreadsheet.Proofs.SheetPrefix
import Spreadsheet.Token.Render

/-!
Reading the workbook and the sheet in front of a reference into another workbook.

The prefix is the workbook in brackets and then the sheet, quoted or bare as for sheets of this
workbook. Whether it is quoted depends on the sheet alone, and only the sheet's apostrophes are
doubled. So the workbook is read back if it happens to suit: in quotes if it has no apostrophe, and
without quotes if all of its characters are plain.
-/

namespace Spreadsheet

namespace SheetName

variable {book sheet rest target cs : List Char} {c : Char}

/-! ### Prefixes -/

/-- A character of a prefix without quotes. -/
def isBareChar (c : Char) : Bool := isPlainChar c || c = '[' || c = ']'

/-- The workbook in brackets and the sheet behind it. -/
def splitBook? : List Char → Option (List Char × List Char)
  | '[' :: target => Text.cutAt? ']' target
  | _ => none

/-- The workbook and the sheet of the prefix that a text opens with, and what follows. -/
def readExternal? (cs : List Char) : Option (List Char × List Char × List Char) := do
  let (target, rest) ← readPrefix? cs
  guard (cs.head? = some apostrophe ∨ ∀ c ∈ target, isBareChar c)
  let (book, sheet) ← splitBook? target
  return (book, sheet, rest)

/-- A workbook and a sheet without quotes. -/
def targetText (book sheet : List Char) : List Char := '[' :: (book ++ ']' :: sheet)

lemma splitBook?_eq_some_iff :
    splitBook? target = some (book, sheet) ↔ target = targetText book sheet ∧ ']' ∉ book := by
  unfold splitBook?
  split
  · next target =>
    rw [Text.cutAt?_eq_some_iff, targetText, List.cons.injEq]
    exact and_congr_left fun _ => (and_iff_right rfl).symm
  · next h => exact iff_of_false nofun fun ht => h _ ht.1

lemma forall_bare_targetText (hsheet : needsQuotes sheet = false) :
    (∀ c ∈ targetText book sheet, isBareChar c) ↔ ∀ c ∈ book, isBareChar c := by
  have hbare : ∀ c ∈ sheet, isBareChar c := fun c hc => by
    have hplain := (needsQuotes_eq_false_iff.mp hsheet).2.plain c hc
    rw [isBareChar, isPlainChar_iff.mpr hplain, Bool.true_or, Bool.true_or]
  have hopen : isBareChar '[' := by decide
  have hclose : isBareChar ']' := by decide
  simp only [targetText, List.forall_mem_cons, List.forall_mem_append]
  exact ⟨fun h => h.2.1, fun h => ⟨hopen, h, hclose, hbare⟩⟩

lemma readExternal?_eq_some_iff_readPrefix? : readExternal? cs = some (book, sheet, rest) ↔
    readPrefix? cs = some (targetText book sheet, rest) ∧ ']' ∉ book ∧
      (cs.head? = some apostrophe ∨ ∀ c ∈ targetText book sheet, isBareChar c) := by
  simp only [readExternal?, Option.bind_eq_bind, Option.bind_eq_some_iff, Option.guard_eq_some',
    Option.pure_def, Option.some.injEq, Prod.mk.injEq, Prod.exists]
  constructor
  · rintro ⟨target, _, hread, -, hbare, _, _, hsplit, rfl, rfl, rfl⟩
    obtain ⟨rfl, hbook⟩ := splitBook?_eq_some_iff.mp hsplit
    exact ⟨hread, hbook, hbare⟩
  · rintro ⟨hread, hbook, hbare⟩
    exact ⟨_, _, hread, (), hbare, _, _, splitBook?_eq_some_iff.mpr ⟨rfl, hbook⟩, rfl, rfl, rfl⟩

/-- **What is read as a workbook and a sheet.** -/
theorem readExternal?_eq_some_iff : readExternal? cs = some (book, sheet, rest) ↔ ']' ∉ book ∧
    (cs = Text.quoted apostrophe (targetText book sheet) ++ '!' :: rest ∨
      cs = targetText book sheet ++ '!' :: rest ∧ ∀ c ∈ targetText book sheet, isBareChar c) := by
  have hhead : (targetText book sheet ++ '!' :: rest).head? ≠ some apostrophe := fun h =>
    absurd (Option.some.inj h) (by decide)
  have hmark : (∀ c ∈ targetText book sheet, isBareChar c) → '!' ∉ targetText book sheet :=
    fun h hmem => absurd (h _ hmem) (by decide)
  rw [readExternal?_eq_some_iff_readPrefix?, readPrefix?_eq_some_iff]
  constructor
  · rintro ⟨rfl | ⟨rfl, -⟩, hbook, hbare⟩
    · exact ⟨hbook, .inl rfl⟩
    · exact ⟨hbook, .inr ⟨rfl, hbare.resolve_left hhead⟩⟩
  · rintro ⟨hbook, rfl | ⟨rfl, hbare⟩⟩
    · exact ⟨.inl rfl, hbook, .inl rfl⟩
    · exact ⟨.inr ⟨rfl, hmark hbare, fun h => absurd (Option.some.inj h) (by decide)⟩, hbook,
        .inr hbare⟩

/-! ### References into other workbooks -/

/-- The workbook suits what is written of the sheet behind it. -/
def SuitsBook (book sheet : List Char) : Prop :=
  if needsQuotes sheet then apostrophe ∉ book else ∀ c ∈ book, isPlainChar c ∨ c = '['

lemma forall_bare_iff (hbook : ']' ∉ book) :
    (∀ c ∈ book, isBareChar c) ↔ ∀ c ∈ book, isPlainChar c ∨ c = '[' := by
  refine forall₂_congr fun c hc => ?_
  have hclose : c ≠ ']' := fun h => hbook (h ▸ hc)
  simp [isBareChar, hclose]

/-- What opens with an apostrophe does not open with a bracket. -/
lemma apostrophe_cons_ne_targetText : apostrophe :: cs ≠ targetText book sheet ++ rest := fun h =>
  absurd (List.cons.inj h).1 (by decide)

/-- In quotes with the sheet's apostrophes doubled, the workbook is read back if it has none. -/
lemma readExternal?_sheet_doubled (hbook : ']' ∉ book) :
    readExternal? (apostrophe :: (targetText book (Text.doubled apostrophe sheet) ++
      apostrophe :: '!' :: rest)) = some (book, sheet, rest) ↔ apostrophe ∉ book := by
  have hdoubled : Text.doubled apostrophe (targetText book sheet) =
      targetText (Text.doubled apostrophe book) (Text.doubled apostrophe sheet) := by
    have hopen : '[' ≠ apostrophe := by decide
    have hclose : ']' ≠ apostrophe := by decide
    rw [targetText, Text.doubled_cons_of_ne hopen, Text.doubled_append,
      Text.doubled_cons_of_ne hclose, targetText]
  have hquoted : Text.quoted apostrophe (targetText book sheet) ++ '!' :: rest = apostrophe ::
      (targetText (Text.doubled apostrophe book) (Text.doubled apostrophe sheet) ++
        apostrophe :: '!' :: rest) := by
    rw [Text.quoted, hdoubled, List.cons_append, List.append_assoc, List.singleton_append]
  rw [readExternal?_eq_some_iff, and_iff_right hbook, hquoted,
    or_iff_left fun h => apostrophe_cons_ne_targetText h.1, ← Text.doubled_eq_self_iff]
  simp [targetText, eq_comm]

/-- Without quotes, the workbook is read back if it needs none. -/
lemma readExternal?_bare (hbook : ']' ∉ book) (hsheet : needsQuotes sheet = false) :
    readExternal? (targetText book sheet ++ '!' :: rest) = some (book, sheet, rest) ↔
      ∀ c ∈ book, isPlainChar c ∨ c = '[' := by
  rw [readExternal?_eq_some_iff, and_iff_right hbook, Text.quoted, List.cons_append,
    or_iff_right (apostrophe_cons_ne_targetText ·.symm), and_iff_right rfl,
    forall_bare_targetText hsheet, forall_bare_iff hbook]

end SheetName

open SheetName

/-- The link and the written cells of a reference into another sheet. -/
def Token.farReference? (limits : Limits) : Token → Option (UInt16 × List Char)
  | ref3d _ link a => some (link, a.text)
  | area3d _ link a => some (link, a.text limits)
  | _ => none

namespace Render

variable {names : Names} {t : Token} {link : UInt16} {reference : List Char} {book sheet : String}

lemma qualified_external (book sheet : String) (reference : List Char) :
    qualified (.external book sheet) reference =
      if needsQuotes sheet.toList then
        apostrophe :: (targetText book.toList (Text.doubled apostrophe sheet.toList) ++
          apostrophe :: '!' :: reference)
      else targetText book.toList sheet.toList ++ '!' :: reference := by
  simp only [qualified, targetText, List.cons_append, List.append_assoc]

lemma readExternal?_qualified_iff (hbook : ']' ∉ book.toList) :
    readExternal? (qualified (.external book sheet) reference) =
      some (book.toList, sheet.toList, reference) ↔ SuitsBook book.toList sheet.toList := by
  rw [qualified_external, SuitsBook]
  split
  · exact readExternal?_sheet_doubled hbook
  · next hsheet => exact readExternal?_bare hbook (by simpa using hsheet)

lemma tokenText_farReference (h : t.farReference? names.limits = some (link, reference))
    (origin : Cell) (index : Nat) (lead close : List Char) (args : List (List Char)) :
    tokenText names origin index lead close args t =
      .ok (lead ++ qualified (names.sheetLabel link) reference) := by
  cases t <;> cases h <;> rfl

lemma render_farReference (h : t.farReference? names.limits = some (link, reference))
    (origin : Cell) : render [t] names origin =
      .ok (String.ofList (qualified (names.sheetLabel link) reference)) := by
  cases t <;> cases h <;> rfl

/-- **References into another workbook.** A reference has the same text alone and within a formula,
and the workbook, the sheet and the cells are read back from it if and only if the workbook suits:
it has no apostrophe if the sheet takes quotes, and only plain characters if it does not. -/
theorem readExternal?_render_iff (hlabel : names.sheetLabel link = .external book sheet)
    (hbook : ']' ∉ book.toList) (h : t.farReference? names.limits = some (link, reference)) :
    ∃ text, (∀ origin, render [t] names origin = .ok (String.ofList text)) ∧
      (∀ origin index lead close args,
        tokenText names origin index lead close args t = .ok (lead ++ text)) ∧
      (readExternal? text = some (book.toList, sheet.toList, reference) ↔
        SuitsBook book.toList sheet.toList) := by
  have htext := tokenText_farReference h
  have hrender := render_farReference h
  rw [hlabel] at htext hrender
  exact ⟨_, hrender, htext, readExternal?_qualified_iff hbook⟩

/-- Every link leads to one sheet of another workbook. -/
def namesOfExternal (book sheet : String) : Names :=
  { Names.none with sheetLabel := fun _ => .external book sheet }

/-- A reference without quotes. -/
theorem readExternal?_render_iff_bare :
    ']' ∉ "1".toList ∧
      render [.ref3d .value 3 ⟨0, 2, true, true⟩] (namesOfExternal "1" "Prices") ⟨0, 0⟩ =
        .ok "[1]Prices!C1" ∧
      readExternal? "[1]Prices!C1".toList = some ("1".toList, "Prices".toList, "C1".toList) := by
  have hbook : ']' ∉ "1".toList := by decide
  have hplain : ∀ c ∈ "1".toList, isPlainChar c ∨ c = '[' :=
    List.forall_mem_singleton.mpr (.inl (by decide))
  have hbare : needsQuotes "Prices".toList = false := by decide
  have hsuits : SuitsBook "1".toList "Prices".toList := by
    rwa [SuitsBook, if_neg (by rw [hbare]; nofun)]
  have hrender : render [.ref3d .value 3 ⟨0, 2, true, true⟩] (namesOfExternal "1" "Prices") ⟨0, 0⟩ =
      .ok "[1]Prices!C1" := by decide +kernel
  have hlabel : (namesOfExternal "1" "Prices").sheetLabel 3 = .external "1" "Prices" := rfl
  have hfar : (Token.ref3d .value 3 ⟨0, 2, true, true⟩).farReference?
      (namesOfExternal "1" "Prices").limits = some (3, "C1".toList) := by decide +kernel
  obtain ⟨text, htext, -, hread⟩ := readExternal?_render_iff hlabel hbook hfar
  obtain rfl : text = "[1]Prices!C1".toList := by
    have heq := (htext ⟨0, 0⟩).symm.trans hrender
    rw [Except.ok.injEq] at heq
    rw [← heq, String.toList_ofList]
  exact ⟨hbook, hrender, hread.mpr hsuits⟩

/-- The workbook's apostrophe is not doubled in quotes, and so is not read back as it would be. -/
theorem readExternal?_render_apostrophe :
    ']' ∉ "Bob's".toList ∧
      render [.ref3d .reference 0 ⟨0, 0, true, true⟩] (namesOfExternal "Bob's" "My Sheet") ⟨0, 0⟩ =
        .ok "'[Bob's]My Sheet'!A1" ∧
      readExternal? "'[Bob's]My Sheet'!A1".toList = none ∧
      readExternal? "'[Bob''s]My Sheet'!A1".toList =
        some ("Bob's".toList, "My Sheet".toList, "A1".toList) := by
  decide +kernel

end Render

end Spreadsheet
