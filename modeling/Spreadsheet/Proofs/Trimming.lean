import Mathlib.Data.List.TakeWhile
import Spreadsheet.Text.Blank

/-!
Text without the blanks around it, and the run of characters of one kind at its front.

What is left by trimming is told by one law: it has no blank at either end, and only blanks stand
around it. A run is told by what ends it.
-/

namespace Spreadsheet.Text

variable {cs core before after run rest : List Char}

/-! ### Codes of characters -/

lemma digit_bounds {c : Char} (h : c.isDigit) : 48 ≤ c.toNat ∧ c.toNat ≤ 57 :=
  Char.isDigit_iff_toNat.mp h

lemma isBlank_of_ascii {c : Char} (h : 0x20 < c.toNat) (h' : c.toNat < 0x80) :
    isBlank c = false := by
  simp only [isBlank, blankRanges, CharRanges.contains]
  grind

/-! ### The front -/

section
variable {p : Char → Bool}

lemma takeWhile_run (hrun : ∀ c ∈ run, p c) (hrest : ∀ c ∈ rest.head?, p c = false) :
    (run ++ rest).takeWhile p = run := by
  rw [List.takeWhile_append_of_pos hrun]
  rcases rest with _ | ⟨c, rest⟩
  · exact List.append_nil run
  · rw [List.takeWhile_cons_of_neg (by simp [hrest c rfl]), List.append_nil]

lemma dropWhile_run (hrun : ∀ c ∈ run, p c) (hrest : ∀ c ∈ rest.head?, p c = false) :
    (run ++ rest).dropWhile p = rest := by
  rw [List.dropWhile_append_of_pos hrun]
  rcases rest with _ | ⟨c, rest⟩
  · rfl
  · exact List.dropWhile_cons_of_neg (by simp [hrest c rfl])

end

/-! ### The end -/

lemma trimEnd_append_blanks (h : ∀ c ∈ after, isBlank c) : trimEnd (cs ++ after) = trimEnd cs := by
  rw [trimEnd, List.reverse_append, List.dropWhile_append_of_pos (by simpa using h), trimEnd]

lemma trimEnd_eq_self (h : ∀ c ∈ cs.getLast?, isBlank c = false) : trimEnd cs = cs := by
  rcases cs.eq_nil_or_concat with rfl | ⟨cs, c, rfl⟩
  · rfl
  · have hc : isBlank c = false := h c (by simp)
    simp [trimEnd, hc]

lemma exists_eq_trimEnd_append (cs : List Char) :
    ∃ after, (∀ c ∈ after, isBlank c) ∧ cs = trimEnd cs ++ after := by
  refine ⟨(cs.reverse.takeWhile isBlank).reverse, fun c hc => ?_, ?_⟩
  · exact List.mem_takeWhile_imp (List.mem_reverse.mp hc)
  · rw [trimEnd, ← List.reverse_append, List.takeWhile_append_dropWhile, List.reverse_reverse]

lemma isBlank_of_getLast?_trimEnd {c : Char} (h : c ∈ (trimEnd cs).getLast?) :
    isBlank c = false := by
  rw [trimEnd, List.getLast?_reverse, Option.mem_def] at h
  have hhead := List.head?_dropWhile_not isBlank cs.reverse
  rwa [h] at hhead

/-! ### Both ends -/

/-- No blank stands at either end. -/
structure NoBlankEnds (cs : List Char) : Prop where
  head : ∀ c ∈ cs.head?, isBlank c = false
  last : ∀ c ∈ cs.getLast?, isBlank c = false

lemma trim_blanks_append (hbefore : ∀ c ∈ before, isBlank c) (hafter : ∀ c ∈ after, isBlank c)
    (hcore : NoBlankEnds core) : trim (before ++ core ++ after) = core := by
  rw [trim, List.append_assoc, List.dropWhile_append_of_pos hbefore]
  rcases core with _ | ⟨c, core⟩
  · rw [List.nil_append, List.dropWhile_eq_nil_iff.mpr hafter]
    rfl
  · have hc : isBlank c = false := hcore.head c rfl
    rw [List.cons_append, List.dropWhile_cons_of_neg (by simp [hc]), ← List.cons_append,
      trimEnd_append_blanks hafter, trimEnd_eq_self hcore.last]

lemma noBlankEnds_trim (cs : List Char) : NoBlankEnds (trim cs) := by
  refine ⟨fun c hc => ?_, fun c hc => isBlank_of_getLast?_trimEnd hc⟩
  obtain ⟨after, -, hrest⟩ := exists_eq_trimEnd_append (cs.dropWhile isBlank)
  have hhead := List.head?_dropWhile_not isBlank cs
  have hc : (trimEnd (cs.dropWhile isBlank)).head? = some c := hc
  rwa [hrest, List.head?_append, hc] at hhead

/-- **What trimming leaves.** -/
theorem trim_eq_iff : trim cs = core ↔ NoBlankEnds core ∧ ∃ before after,
    (∀ c ∈ before, isBlank c) ∧ (∀ c ∈ after, isBlank c) ∧ cs = before ++ core ++ after := by
  constructor
  · rintro rfl
    obtain ⟨after, hafter, hrest⟩ := exists_eq_trimEnd_append (cs.dropWhile isBlank)
    refine ⟨noBlankEnds_trim cs, cs.takeWhile isBlank, after,
      fun c => List.mem_takeWhile_imp, hafter, ?_⟩
    rw [trim, List.append_assoc, ← hrest, List.takeWhile_append_dropWhile]
  · rintro ⟨hcore, before, after, hbefore, hafter, rfl⟩
    exact trim_blanks_append hbefore hafter hcore

/-- Text without any blanks is left as it is. -/
lemma trim_eq_self (h : ∀ c ∈ cs, isBlank c = false) : trim cs = cs :=
  trim_eq_iff.mpr ⟨⟨fun c hc => h c (List.mem_of_mem_head? hc),
    fun c hc => h c (List.mem_of_getLast? hc)⟩, [], [], by simp, by simp, by simp⟩

/-- Characters that are no blanks can be taken out before or after trimming, unless that brings a
blank to an end. -/
lemma trim_filter {p : Char → Bool} (hp : ∀ c, isBlank c → p c)
    (h : NoBlankEnds ((trim cs).filter p)) : trim (cs.filter p) = (trim cs).filter p := by
  obtain ⟨-, before, after, hbefore, hafter, hcs⟩ := trim_eq_iff.mp (Eq.refl (trim cs))
  refine trim_eq_iff.mpr ⟨h, before, after, hbefore, hafter, ?_⟩
  calc cs.filter p = (before ++ trim cs ++ after).filter p := congrArg _ hcs
    _ = before.filter p ++ (trim cs).filter p ++ after.filter p := by
      rw [List.filter_append, List.filter_append]
    _ = before ++ (trim cs).filter p ++ after := by
      rw [List.filter_eq_self.mpr fun c hc => hp c (hbefore c hc),
        List.filter_eq_self.mpr fun c hc => hp c (hafter c hc)]

end Spreadsheet.Text
