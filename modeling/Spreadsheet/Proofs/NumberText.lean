import Mathlib
import Spreadsheet.Proofs.Trimming
import Spreadsheet.Value.Coercion

/-!
Numbers as text.

A number is spelled by a literal, with commas or without, a sign before it or not, and a percent
sign behind it or not. Which texts are read is told by this grammar and by the literals that doubles
have anyway. Some of these open with a sign or are names, and no text may make use of that. Commas
make no difference to the number.
-/

namespace Spreadsheet.Number

variable {cs digits whole rest : List Char} {c : Char} {x : Float} {sign : Option Bool}
  {percent : Option (List Char)}

/-! ### Signs -/

/-- A minus, a plus or nothing. -/
def signText : Option Bool → List Char
  | some true => ['-']
  | some false => ['+']
  | none => []

lemma eq_of_mem_signText (h : c ∈ signText sign) : c = '-' ∨ c = '+' := by
  rcases sign with _ | _ | _ <;> simp_all [signText]

lemma exists_eq_signText_append (cs : List Char) : ∃ sign,
    cs = signText sign ++ (splitSign cs).2 ∧ ((splitSign cs).1 ↔ sign = some true) := by
  unfold splitSign
  split
  · exact ⟨some true, rfl, iff_of_true rfl rfl⟩
  · exact ⟨some false, rfl, iff_of_false nofun nofun⟩
  · exact ⟨none, rfl, iff_of_false nofun nofun⟩

lemma splitSign_eq_self (hminus : cs.head? ≠ some '-') (hplus : cs.head? ≠ some '+') :
    splitSign cs = (false, cs) := by
  unfold splitSign
  split
  · exact absurd rfl hminus
  · exact absurd rfl hplus
  · rfl

lemma splitSign_signText_append (hminus : cs.head? ≠ some '-') (hplus : cs.head? ≠ some '+') :
    splitSign (signText sign ++ cs) = (decide (sign = some true), cs) := by
  rcases sign with _ | _ | _
  · exact splitSign_eq_self hminus hplus
  · rfl
  · rfl

/-! ### Literals -/

/-- The doubles with a name, in letters of either case. -/
def ofName? (cs : List Char) : Option Float :=
  let name := cs.map Char.toLower
  if name = "inf".toList ∨ name = "infinity".toList then some (1 / 0)
  else if name = "nan".toList then some (0 / 0)
  else none

/-- All literals that doubles have, names and signs included. -/
def ofSignedLiteral? (cs : List Char) : Option Float :=
  let (negative, literal) := splitSign cs
  (ofName? literal <|> ofLiteral? literal).map fun x => if negative then -x else x

/-- The text starts with a digit or a point. -/
def StartsAsNumber (cs : List Char) : Prop := ∃ c ∈ cs.head?, c.isDigit ∨ c = '.'

/-- A character of a decimal literal. -/
def IsLiteralChar (c : Char) : Prop := c.isDigit ∨ c ∈ ['.', 'e', 'E', '+', '-']

lemma IsLiteralChar.toNat_bounds (h : IsLiteralChar c) : 0x20 < c.toNat ∧ c.toNat < 0x80 := by
  rcases h with hdigit | hmark
  · have := Text.digit_bounds hdigit
    omega
  · simp only [List.mem_cons, List.not_mem_nil, or_false] at hmark
    rcases hmark with rfl | rfl | rfl | rfl | rfl <;> decide

lemma IsLiteralChar.isBlank_eq_false (h : IsLiteralChar c) : Text.isBlank c = false :=
  Text.isBlank_of_ascii h.toNat_bounds.1 h.toNat_bounds.2

lemma isLiteralChar_of_exponent? {e : Int} (h : exponent? cs = some e) :
    ∀ c ∈ cs, IsLiteralChar c := by
  unfold exponent? at h
  split at h
  · exact nofun
  next marker rest =>
  split at h
  swap
  · cases h
  next hmarker =>
  obtain ⟨sign, hrest, -⟩ := exists_eq_signText_append rest
  intro c hc
  rcases List.mem_cons.mp hc with rfl | hc
  · rcases hmarker with rfl | rfl <;> exact .inr (by decide)
  rw [hrest] at hc
  rcases List.mem_append.mp hc with hsign | hc
  · rcases eq_of_mem_signText hsign with rfl | rfl <;> exact .inr (by decide)
  · simp only [Option.ite_none_left_eq_some, Bool.or_eq_true, Bool.not_eq_true', not_or,
      Bool.not_eq_false, List.all_eq_true] at h
    exact .inl (h.1.2 c hc)

lemma mem_splitFraction (h : c ∈ cs) :
    c = '.' ∨ c.isDigit ∨ c ∈ (splitFraction cs).2 := by
  unfold splitFraction
  split
  · next rest =>
    rcases List.mem_cons.mp h with rfl | h
    · exact .inl rfl
    · rw [← List.takeWhile_append_dropWhile (p := Char.isDigit) (l := rest)] at h
      rcases List.mem_append.mp h with h | h
      · exact .inr (.inl (List.mem_takeWhile_imp h))
      · exact .inr (.inr h)
  · exact .inr (.inr h)

lemma isLiteralChar_of_ofLiteral? (h : ofLiteral? cs = some x) : ∀ c ∈ cs, IsLiteralChar c := by
  intro c hc
  simp only [ofLiteral?, Option.ite_none_left_eq_some, Option.map_eq_some_iff] at h
  obtain ⟨-, e, he, -⟩ := h
  rw [← List.takeWhile_append_dropWhile (p := Char.isDigit) (l := cs)] at hc
  rcases List.mem_append.mp hc with hc | hc
  · exact .inl (List.mem_takeWhile_imp hc)
  rcases mem_splitFraction hc with rfl | hdigit | hrest
  · exact .inr (by decide)
  · exact .inl hdigit
  · exact isLiteralChar_of_exponent? he c hrest

lemma startsAsNumber_of_ofLiteral? (h : ofLiteral? cs = some x) : StartsAsNumber cs := by
  rcases cs with _ | ⟨c, cs⟩
  · cases h
  by_contra hstart
  have hstart : c.isDigit = false ∧ c ≠ '.' := by simpa [StartsAsNumber] using hstart
  have hfraction : splitFraction (c :: cs) = ([], c :: cs) := by
    unfold splitFraction
    split
    · next heq => exact absurd (List.cons.inj heq).1 hstart.2
    · rfl
  simp [ofLiteral?, hstart.1, hfraction] at h

lemma StartsAsNumber.head?_ne (h : StartsAsNumber cs) (hdigit : c.isDigit = false)
    (hpoint : c ≠ '.') : cs.head? ≠ some c := by
  obtain ⟨d, hhead, hd⟩ := h
  intro hc
  obtain rfl : d = c := Option.some.inj (hhead.symm.trans hc)
  rcases hd with hd | hd
  · rw [hdigit] at hd
    cases hd
  · exact hpoint hd

/-- Where a digit or a point comes first, names and signs have no part. -/
lemma ofSignedLiteral?_eq (h : StartsAsNumber cs) : ofSignedLiteral? cs = ofLiteral? cs := by
  have hsign : splitSign cs = (false, cs) :=
    splitSign_eq_self (h.head?_ne rfl (by decide)) (h.head?_ne rfl (by decide))
  have hi : cs.head? ≠ some 'i' := h.head?_ne rfl (by decide)
  have hn : cs.head? ≠ some 'n' := h.head?_ne rfl (by decide)
  obtain ⟨c, hhead, hc⟩ := h
  obtain ⟨cs, rfl⟩ := List.head?_eq_some_iff.mp hhead
  have hlower : c.toLower = c := by
    refine Char.toLower_eq_of_not_isUpper fun hupper => ?_
    rcases hc with hc | rfl
    · have := Text.digit_bounds hc
      simp only [Char.isUpper, ge_iff_le, UInt32.le_iff_toNat_le, decide_eq_true_eq] at hupper
      have : 65 ≤ c.toNat := hupper.1
      omega
    · cases hupper
  have hname : ofName? (c :: cs) = none := by
    simp only [List.head?_cons, ne_eq, Option.some.injEq] at hi hn
    simp [ofName?, hlower, hi, hn]
  simp [ofSignedLiteral?, hsign, hname]

/-! ### Commas -/

/-- Groups of three digits with commas between them, of which only the first may be shorter. -/
def IsGrouped (whole : List Char) : Prop :=
  ∃ g gs, whole = g ++ gs.flatMap (',' :: ·) ∧ 1 ≤ g.length ∧ g.length ≤ 3 ∧
    (∀ h ∈ gs, h.length = 3) ∧ ∀ h ∈ g :: gs, ∀ c ∈ h, c.isDigit

/-- What can follow the whole part of a literal. -/
def endsWhole (c : Char) : Bool := c = '.' || c = 'e' || c = 'E'

/-- If there are commas, they group the digits before the first point or exponent. -/
def WellGrouped (digits : List Char) : Prop :=
  ',' ∈ digits → ∃ whole rest, digits = whole ++ rest ∧ IsGrouped whole ∧ ',' ∉ rest ∧
    ∀ c ∈ rest.head?, endsWhole c

def withoutCommas (cs : List Char) : List Char := cs.filter (· ≠ ',')

lemma withoutCommas_eq_self (h : ',' ∉ cs) : withoutCommas cs = cs :=
  List.filter_eq_self.mpr fun _ hc => decide_eq_true fun hcomma => h (hcomma ▸ hc)

lemma withoutCommas_append (cs ds : List Char) :
    withoutCommas (cs ++ ds) = withoutCommas cs ++ withoutCommas ds := List.filter_append cs ds

lemma comma_notMem_withoutCommas (cs : List Char) : ',' ∉ withoutCommas cs := by
  simp [withoutCommas]

lemma not_isLiteralChar_comma : ¬ IsLiteralChar ',' := by simp [IsLiteralChar]

lemma intercalate_comma_cons (g : List Char) (gs : List (List Char)) :
    [','].intercalate (g :: gs) = g ++ gs.flatMap (',' :: ·) := by
  induction gs generalizing g with
  | nil => simp
  | cons h gs ih => rw [List.intercalate_cons_cons, ih, List.flatMap_cons, List.append_assoc]; rfl

lemma validGrouping_iff : validGrouping whole ↔ IsGrouped whole := by
  unfold validGrouping IsGrouped
  constructor
  · intro h
    split at h
    · cases h
    next g gs hsplit =>
    simp only [Bool.and_eq_true, decide_eq_true_eq, List.all_eq_true] at h
    obtain ⟨⟨⟨hone, hthree⟩, hg⟩, hgs⟩ := h
    refine ⟨g, gs, ?_, hone, hthree, fun h hh => (hgs h hh).1, ?_⟩
    · rw [← intercalate_comma_cons, ← hsplit, List.intercalate_splitOn]
    · exact List.forall_mem_cons.mpr ⟨hg, fun h hh => (hgs h hh).2⟩
  · rintro ⟨g, gs, rfl, hone, hthree, hlength, hdigits⟩
    have hcomma : ∀ h ∈ g :: gs, ',' ∉ h := fun h hh hc => absurd (hdigits h hh _ hc) (by decide)
    rw [← intercalate_comma_cons, List.splitOn_intercalate ',' hcomma (by simp)]
    simp only [Bool.and_eq_true, decide_eq_true_eq, List.all_eq_true]
    obtain ⟨hg, hgs⟩ := List.forall_mem_cons.mp hdigits
    exact ⟨⟨⟨hone, hthree⟩, hg⟩, fun h hh => ⟨hlength h hh, hgs h hh⟩⟩

lemma IsGrouped.eq_comma_or_isDigit (h : IsGrouped whole) (hc : c ∈ whole) :
    c = ',' ∨ c.isDigit := by
  obtain ⟨g, gs, rfl, -, -, -, hdigits⟩ := h
  rcases List.mem_append.mp hc with hc | hc
  · exact .inr (hdigits g List.mem_cons_self c hc)
  obtain ⟨h, hh, hc⟩ := List.mem_flatMap.mp hc
  rcases List.mem_cons.mp hc with rfl | hc
  · exact .inl rfl
  · exact .inr (hdigits h (List.mem_cons_of_mem g hh) c hc)

lemma endsWhole_eq_false_of_isDigit (h : c.isDigit) : endsWhole c = false := by
  refine Bool.eq_false_iff.mpr fun hends => ?_
  simp only [endsWhole, Bool.or_eq_true, decide_eq_true_eq] at hends
  rcases hends with (rfl | rfl) | rfl <;> cases h

lemma ungroup?_of_comma_mem (hcomma : ',' ∈ digits) : ungroup? digits =
    if validGrouping (digits.takeWhile (!endsWhole ·)) then
      some (withoutCommas (digits.takeWhile (!endsWhole ·)) ++ digits.dropWhile (!endsWhole ·))
    else none :=
  if_pos hcomma

lemma ungroup?_append (hwhole : IsGrouped whole) (hrest : ∀ c ∈ rest.head?, endsWhole c)
    (hcomma : ',' ∈ whole ++ rest) :
    ungroup? (whole ++ rest) = some (withoutCommas whole ++ rest) := by
  have hrun : ∀ c ∈ whole, !endsWhole c := fun c hc => by
    rcases hwhole.eq_comma_or_isDigit hc with rfl | hdigit
    · decide
    · rw [endsWhole_eq_false_of_isDigit hdigit]
      rfl
  have hstop : ∀ c ∈ rest.head?, (!endsWhole c) = false := fun c hc => by rw [hrest c hc]; rfl
  rw [ungroup?_of_comma_mem hcomma, Text.takeWhile_run hrun hstop, Text.dropWhile_run hrun hstop,
    if_pos (validGrouping_iff.mpr hwhole)]

lemma exists_of_ungroup? (hcomma : ',' ∈ digits) (h : ungroup? digits = some cs) :
    ∃ whole rest, digits = whole ++ rest ∧ IsGrouped whole ∧ (∀ c ∈ rest.head?, endsWhole c) ∧
      cs = withoutCommas whole ++ rest := by
  rw [ungroup?_of_comma_mem hcomma, Option.ite_none_right_eq_some, Option.some.injEq] at h
  refine ⟨_, _, List.takeWhile_append_dropWhile.symm, validGrouping_iff.mp h.1, fun c hc => ?_,
    h.2.symm⟩
  have hhead := List.head?_dropWhile_not (fun c => !endsWhole c) digits
  rw [Option.mem_def.mp hc] at hhead
  simpa using hhead

lemma StartsAsNumber.withoutCommas (h : StartsAsNumber cs) : StartsAsNumber (withoutCommas cs) := by
  have hne : cs.head? ≠ some ',' := h.head?_ne rfl (by decide)
  obtain ⟨c, hhead, hc⟩ := h
  obtain ⟨cs, rfl⟩ := List.head?_eq_some_iff.mp hhead
  have hcomma : c ≠ ',' := fun heq => hne (heq ▸ hhead)
  have hcons : Number.withoutCommas (c :: cs) = c :: Number.withoutCommas cs :=
    List.filter_cons_of_pos (decide_eq_true hcomma)
  exact ⟨c, by rw [hcons]; rfl, hc⟩

/-- Well grouped digits do not start with a comma. -/
lemma WellGrouped.startsAsNumber (h : WellGrouped cs) (hplain : StartsAsNumber (withoutCommas cs)) :
    StartsAsNumber cs := by
  by_cases hcomma : ',' ∈ cs
  · obtain ⟨whole, rest, rfl, ⟨g, gs, rfl, hone, -, -, hdigits⟩, -⟩ := h hcomma
    obtain ⟨c, g, rfl⟩ := List.exists_cons_of_length_pos hone
    exact ⟨c, rfl, .inl (hdigits _ List.mem_cons_self c List.mem_cons_self)⟩
  · rwa [withoutCommas_eq_self hcomma] at hplain

lemma ungroup?_bind_iff : (ungroup? digits).bind ofLiteral? = some x ↔
    WellGrouped digits ∧ ofLiteral? (withoutCommas digits) = some x := by
  by_cases hcomma : ',' ∈ digits
  swap
  · have hgroup : WellGrouped digits := (absurd · hcomma)
    rw [ungroup?, if_neg hcomma, Option.bind_some, withoutCommas_eq_self hcomma,
      and_iff_right hgroup]
  constructor
  · intro h
    obtain ⟨cs, hcs, hx⟩ := Option.bind_eq_some_iff.mp h
    obtain ⟨whole, rest, rfl, hwhole, hhead, rfl⟩ := exists_of_ungroup? hcomma hcs
    have hrest : ',' ∉ rest := fun hc =>
      not_isLiteralChar_comma (isLiteralChar_of_ofLiteral? hx _ (List.mem_append_right _ hc))
    refine ⟨fun _ => ⟨whole, rest, rfl, hwhole, hrest, hhead⟩, ?_⟩
    rwa [withoutCommas_append, withoutCommas_eq_self hrest]
  · rintro ⟨hgroup, hx⟩
    obtain ⟨whole, rest, rfl, hwhole, hrest, hhead⟩ := hgroup hcomma
    rwa [ungroup?_append hwhole hhead hcomma, Option.bind_some, ← withoutCommas_eq_self hrest,
      ← withoutCommas_append]

/-! ### Percent signs -/

/-- A percent sign behind blanks, or nothing. -/
def percentText : Option (List Char) → List Char
  | some blanks => blanks ++ ['%']
  | none => []

lemma exists_eq_append_percentText (cs : List Char) : ∃ percent,
    cs = (splitPercent cs).2 ++ percentText percent ∧ (splitPercent cs).1 = percent.isSome ∧
      ∀ blanks ∈ percent, ∀ c ∈ blanks, Text.isBlank c := by
  unfold splitPercent
  split
  · next hlast =>
    obtain ⟨cs, rfl⟩ := List.getLast?_eq_some_iff.mp hlast
    obtain ⟨blanks, hblanks, hcs⟩ := Text.exists_eq_trimEnd_append cs
    refine ⟨some blanks, ?_, rfl, fun _ h => by cases h; exact hblanks⟩
    rw [List.dropLast_concat, percentText, ← List.append_assoc, ← hcs]
  · exact ⟨none, (List.append_nil cs).symm, rfl, nofun⟩

lemma splitPercent_append_percentText (hlast : ∀ c ∈ cs.getLast?, Text.isBlank c = false ∧ c ≠ '%')
    (hblanks : ∀ blanks ∈ percent, ∀ c ∈ blanks, Text.isBlank c) :
    splitPercent (cs ++ percentText percent) = (percent.isSome, cs) := by
  rcases percent with _ | blanks
  · have hpercent : cs.getLast? ≠ some '%' := fun h => (hlast '%' h).2 rfl
    rw [percentText, List.append_nil, splitPercent, if_neg hpercent]
    rfl
  · rw [percentText, ← List.append_assoc, splitPercent, if_pos List.getLast?_concat,
      List.dropLast_concat, Text.trimEnd_append_blanks (hblanks blanks rfl),
      Text.trimEnd_eq_self fun c hc => (hlast c hc).1]
    rfl

lemma comma_notMem_percentText (h : ∀ blanks ∈ percent, ∀ c ∈ blanks, Text.isBlank c) :
    ',' ∉ percentText percent := by
  rcases percent with _ | blanks
  · exact List.not_mem_nil
  · intro hmem
    rcases List.mem_append.mp hmem with hmem | hmem
    · cases h blanks rfl _ hmem
    · simp at hmem

/-! ### Spellings -/

/-- A number as it is spelled, without the blanks around it. -/
structure Spelling where
  /-- A minus for `true` and a plus for `false`. -/
  sign : Option Bool
  digits : List Char
  /-- The blanks before the percent sign, if there is one. -/
  percent : Option (List Char)
  starts : StartsAsNumber digits
  isBlank : ∀ blanks ∈ percent, ∀ c ∈ blanks, Text.isBlank c

namespace Spelling

variable {p : Spelling}

def text (p : Spelling) : List Char := signText p.sign ++ p.digits ++ percentText p.percent

/-- The commas stand where they may, and the rest is a literal of a finite number. -/
structure Reads (p : Spelling) (x : Float) : Prop where
  grouped : WellGrouped p.digits
  literal : ofSignedLiteral? (withoutCommas p.digits) = some x
  isFinite : x.isFinite

/-- The number that is spelled if `x` is that of the literal. -/
def scaled (p : Spelling) (x : Float) : Float :=
  (if p.sign = some true then -1 else 1) * x * (if p.percent.isSome then 0.01 else 1)

lemma digits_ne_nil (p : Spelling) : p.digits ≠ [] := by
  obtain ⟨c, hc, -⟩ := p.starts
  exact List.ne_nil_of_mem (List.mem_of_mem_head? hc)

/-- The same without commas. -/
def plain (p : Spelling) : Spelling where
  sign := p.sign
  digits := withoutCommas p.digits
  percent := p.percent
  starts := p.starts.withoutCommas
  isBlank := p.isBlank

lemma text_plain (p : Spelling) : p.plain.text = withoutCommas p.text := by
  have hsign : ',' ∉ signText p.sign := fun h => by
    rcases eq_of_mem_signText h with h | h <;> cases h
  have hpercent : ',' ∉ percentText p.percent := comma_notMem_percentText p.isBlank
  rw [text, text, withoutCommas_append, withoutCommas_append, withoutCommas_eq_self hsign,
    withoutCommas_eq_self hpercent]
  rfl

namespace Reads

lemma ofLiteral? (h : p.Reads x) : Number.ofLiteral? (withoutCommas p.digits) = some x := by
  rw [← ofSignedLiteral?_eq p.starts.withoutCommas, h.literal]

lemma plain (h : p.Reads x) : p.plain.Reads x where
  grouped hcomma := absurd hcomma (comma_notMem_withoutCommas _)
  literal := by
    rw [Spelling.plain, withoutCommas_eq_self (comma_notMem_withoutCommas _), h.literal]
  isFinite := h.isFinite

lemma eq_comma_or_isLiteralChar (h : p.Reads x) (hc : c ∈ p.digits) :
    c = ',' ∨ IsLiteralChar c := by
  by_cases hcomma : c = ','
  · exact .inl hcomma
  · exact .inr (isLiteralChar_of_ofLiteral? h.ofLiteral? c
      (List.mem_filter.mpr ⟨hc, decide_eq_true hcomma⟩))

/-- Neither blanks nor percent signs are among the digits or in front of them. -/
lemma body (h : p.Reads x) (hc : c ∈ signText p.sign ++ p.digits) :
    Text.isBlank c = false ∧ c ≠ '%' := by
  rcases List.mem_append.mp hc with hc | hc
  · rcases eq_of_mem_signText hc with rfl | rfl <;> decide
  rcases h.eq_comma_or_isLiteralChar hc with rfl | hliteral
  · decide
  · refine ⟨hliteral.isBlank_eq_false, ?_⟩
    rintro rfl
    simp [IsLiteralChar] at hliteral

lemma noBlankEnds (h : p.Reads x) : Text.NoBlankEnds p.text where
  head c hc := by
    have hne : signText p.sign ++ p.digits ≠ [] :=
      List.append_ne_nil_of_right_ne_nil _ p.digits_ne_nil
    rw [text, List.head?_append_of_ne_nil _ hne] at hc
    exact (h.body (List.mem_of_mem_head? hc)).1
  last c hc := by
    rw [text] at hc
    rcases hpercent : p.percent with _ | blanks
    · rw [hpercent, percentText, List.append_nil] at hc
      exact (h.body (List.mem_of_getLast? hc)).1
    · rw [hpercent, percentText, ← List.append_assoc, List.getLast?_concat] at hc
      cases hc
      decide

end Reads

end Spelling

variable {s : String} {p : Spelling} {y : Float}

lemma ofText?_of_spelling (hp : Text.trim s.toList = p.text) (h : p.Reads x) :
    ofText? s = some (p.scaled x) := by
  have hpercent : splitPercent (Text.trim s.toList) =
      (p.percent.isSome, signText p.sign ++ p.digits) := by
    rw [hp, Spelling.text, splitPercent_append_percentText
      (fun c hc => h.body (List.mem_of_getLast? hc)) p.isBlank]
  have hsign : splitSign (signText p.sign ++ p.digits) = (decide (p.sign = some true), p.digits) :=
    splitSign_signText_append (p.starts.head?_ne rfl (by decide))
      (p.starts.head?_ne rfl (by decide))
  have hdigits : (ungroup? p.digits).bind ofLiteral? = some x :=
    ungroup?_bind_iff.mpr ⟨h.grouped, h.ofLiteral?⟩
  obtain ⟨cs, hcs, hx⟩ := Option.bind_eq_some_iff.mp hdigits
  simp [ofText?, hpercent, hsign, hcs, hx, h.isFinite, Spelling.scaled]

lemma exists_spelling_of_ofText? (h : ofText? s = some y) :
    ∃ (p : Spelling) (x : Float), Text.trim s.toList = p.text ∧ p.Reads x ∧ p.scaled x = y := by
  obtain ⟨percent, hpercent, hsome, hblanks⟩ := exists_eq_append_percentText (Text.trim s.toList)
  obtain ⟨sign, hsign, hminus⟩ := exists_eq_signText_append (splitPercent (Text.trim s.toList)).2
  simp only [ofText?, Option.bind_eq_bind, Option.bind_eq_some_iff, Option.pure_def,
    Option.ite_none_right_eq_some, Option.some.injEq] at h
  obtain ⟨cs, hcs, x, hx, hfinite, rfl⟩ := h
  obtain ⟨hgrouped, hliteral⟩ := ungroup?_bind_iff.mp (Option.bind_eq_some_iff.mpr ⟨cs, hcs, hx⟩)
  have hstarts := hgrouped.startsAsNumber (startsAsNumber_of_ofLiteral? hliteral)
  refine ⟨⟨sign, _, percent, hstarts, hblanks⟩, x, ?_, ⟨hgrouped, ?_, hfinite⟩, ?_⟩
  · rw [Spelling.text, ← hsign, ← hpercent]
  · rw [ofSignedLiteral?_eq hstarts.withoutCommas, hliteral]
  · simp only [Spelling.scaled, hsome, hminus]

/-- **Numbers as text.** A text is read as a number if and only if, without the blanks around it, it
is spelled as one, with commas that group the digits in front of the first point or exponent and a
literal of a finite number otherwise. It is the number of the literal with the sign and the percent
sign applied, and a text without the commas is read as the same number. -/
theorem ofText?_spelled (s : String) (y : Float) :
    (ofText? s = some y ↔ ∃ (p : Spelling) (x : Float),
      Text.trim s.toList = p.text ∧ p.Reads x ∧ p.scaled x = y) ∧
    (ofText? s = some y → ofText? (String.ofList (withoutCommas s.toList)) = some y) := by
  have hread (s : String) : ofText? s = some y ↔ ∃ (p : Spelling) (x : Float),
      Text.trim s.toList = p.text ∧ p.Reads x ∧ p.scaled x = y := by
    refine ⟨exists_spelling_of_ofText?, ?_⟩
    rintro ⟨p, x, hp, h, rfl⟩
    exact ofText?_of_spelling hp h
  refine ⟨hread s, fun hs => (hread _).mpr ?_⟩
  obtain ⟨p, x, hp, h, rfl⟩ := (hread s).mp hs
  have hplain : withoutCommas (Text.trim s.toList) = p.plain.text := by rw [hp, Spelling.text_plain]
  refine ⟨p.plain, x, ?_, h.plain, rfl⟩
  rw [String.toList_ofList, ← hplain, withoutCommas, withoutCommas]
  refine Text.trim_filter (fun c hc => ?_) ?_
  · refine decide_eq_true ?_
    rintro rfl
    cases hc
  · rw [← withoutCommas, hplain]
    exact h.plain.noBlankEnds

/-- Grouped thousands of a percentage. -/
theorem ofText?_spelled_percent :
    ofText? " -1,234.5 % " = some (-12.345) ∧ ofText? " -1234.5 % " = some (-12.345) := by
  have h : ofText? " -1,234.5 % " = some (-12.345) := by decide +kernel
  have hplain := (ofText?_spelled " -1,234.5 % " (-12.345)).2 h
  exact ⟨h, hplain⟩

end Spreadsheet.Number
