import Spreadsheet.Proofs.Trimming
import Spreadsheet.Text.Quoted

/-!
Reading text up to a mark, and quoted text.

A quoted text ends at the first quote that is not doubled, and each doubled quote in it stands for
one. This undoes quoting, whatever follows, unless a quote does; and nothing else is read that way.
-/

namespace Spreadsheet.Text

variable {mark quote c : Char} {cs front body rest : List Char}

/-! ### Up to a mark -/

/-- What stands in front of the first mark, and what follows it. -/
def cutAt? (mark : Char) (cs : List Char) : Option (List Char × List Char) :=
  match cs.dropWhile (· ≠ mark) with
  | [] => none
  | _ :: rest => some (cs.takeWhile (· ≠ mark), rest)

lemma cutAt?_append (h : mark ∉ front) :
    cutAt? mark (front ++ mark :: rest) = some (front, rest) := by
  have hfront : ∀ c ∈ front, decide (c ≠ mark) := fun c hc => decide_eq_true fun hm => h (hm ▸ hc)
  have hmark : ∀ c ∈ (mark :: rest).head?, decide (c ≠ mark) = false := by simp
  rw [cutAt?, takeWhile_run hfront hmark, dropWhile_run hfront hmark]

lemma eq_append_of_cutAt? (h : cutAt? mark cs = some (front, rest)) :
    cs = front ++ mark :: rest ∧ mark ∉ front := by
  unfold cutAt? at h
  split at h
  · cases h
  next c rest' hdrop =>
  cases h
  obtain rfl : c = mark := by
    have hhead := List.head?_dropWhile_not (fun d => decide (d ≠ mark)) cs
    rw [hdrop] at hhead
    simpa using hhead
  refine ⟨?_, fun hmem => ?_⟩
  · rw [← hdrop, List.takeWhile_append_dropWhile]
  · simpa using List.mem_takeWhile_imp hmem

/-- **What is cut at a mark.** -/
theorem cutAt?_eq_some_iff :
    cutAt? mark cs = some (front, rest) ↔ cs = front ++ mark :: rest ∧ mark ∉ front :=
  ⟨eq_append_of_cutAt?, fun ⟨hcs, hfront⟩ => hcs ▸ cutAt?_append hfront⟩

/-! ### Doubled quotes -/

@[simp] lemma doubled_cons_self :
    doubled quote (quote :: cs) = quote :: quote :: doubled quote cs := by
  simp [doubled]

lemma doubled_cons_of_ne (h : c ≠ quote) : doubled quote (c :: cs) = c :: doubled quote cs := by
  simp [doubled, h]

@[simp] lemma doubled_append (cs ds : List Char) :
    doubled quote (cs ++ ds) = doubled quote cs ++ doubled quote ds := by
  simp [doubled]

/-- Each quote is written once more. -/
lemma length_doubled (cs : List Char) :
    (doubled quote cs).length = cs.length + cs.count quote := by
  induction cs with
  | nil => rfl
  | cons c cs ih =>
    by_cases h : c = quote
    · subst h
      rw [doubled_cons_self, List.count_cons_self, List.length_cons, List.length_cons, ih,
        List.length_cons]
      omega
    · rw [doubled_cons_of_ne h, List.count_cons_of_ne h, List.length_cons, ih, List.length_cons]
      omega

lemma doubled_eq_self_iff : doubled quote cs = cs ↔ quote ∉ cs := by
  constructor
  · intro h
    have hlength := congrArg List.length h
    rw [length_doubled] at hlength
    exact List.count_eq_zero.mp (by omega)
  · intro h
    induction cs with
    | nil => rfl
    | cons c cs ih =>
      simp only [List.mem_cons, not_or] at h
      rw [doubled_cons_of_ne (Ne.symm h.1), ih h.2]

/-! ### Quoted text -/

/-- What stands behind an opening quote up to the first quote that is not doubled, a doubled one
standing for one, and what follows. -/
def unquote? (quote : Char) : List Char → Option (List Char × List Char)
  | [] => none
  | [c] => if c = quote then some ([], []) else none
  | c :: d :: cs =>
    if c = quote then
      if d = quote then (unquote? quote cs).map fun r => (quote :: r.1, r.2)
      else some ([], d :: cs)
    else (unquote? quote (d :: cs)).map fun r => (c :: r.1, r.2)

lemma unquote?_close (h : rest.head? ≠ some quote) :
    unquote? quote (quote :: rest) = some ([], rest) := by
  rcases rest with _ | ⟨d, rest⟩
  · simp [unquote?]
  · have hd : d ≠ quote := fun hd => h (by rw [hd, List.head?_cons])
    rw [unquote?, if_pos rfl, if_neg hd]

lemma unquote?_doubled_quote : unquote? quote (quote :: quote :: cs) =
    (unquote? quote cs).map fun r => (quote :: r.1, r.2) := by
  rw [unquote?, if_pos rfl, if_pos rfl]

lemma unquote?_cons_of_ne (h : c ≠ quote) :
    unquote? quote (c :: cs) = (unquote? quote cs).map fun r => (c :: r.1, r.2) := by
  rcases cs with _ | ⟨d, cs⟩
  · simp [unquote?, h]
  · rw [unquote?, if_neg h]

lemma unquote?_doubled (h : rest.head? ≠ some quote) :
    unquote? quote (doubled quote body ++ quote :: rest) = some (body, rest) := by
  induction body with
  | nil => exact unquote?_close h
  | cons c body ih =>
    by_cases hc : c = quote
    · subst hc
      rw [doubled_cons_self, List.cons_append, List.cons_append, unquote?_doubled_quote, ih,
        Option.map_some]
    · rw [doubled_cons_of_ne hc, List.cons_append, unquote?_cons_of_ne hc, ih, Option.map_some]

lemma eq_doubled_of_unquote? (h : unquote? quote cs = some (body, rest)) :
    cs = doubled quote body ++ quote :: rest ∧ rest.head? ≠ some quote := by
  fun_induction unquote? quote cs generalizing body with
  | case1 => cases h
  | case2 =>
    cases h
    exact ⟨rfl, nofun⟩
  | case3 => cases h
  | case4 cs ih =>
    obtain ⟨⟨body', rest'⟩, hr, heq⟩ := Option.map_eq_some_iff.mp h
    cases heq
    obtain ⟨hcs, hrest⟩ := ih hr
    rw [doubled_cons_self, hcs]
    exact ⟨rfl, hrest⟩
  | case5 d cs hd =>
    cases h
    exact ⟨rfl, fun h' => hd (Option.some.inj h')⟩
  | case6 c d cs hc ih =>
    obtain ⟨⟨body', rest'⟩, hr, heq⟩ := Option.map_eq_some_iff.mp h
    cases heq
    obtain ⟨hcs, hrest⟩ := ih hr
    rw [doubled_cons_of_ne hc, hcs]
    exact ⟨rfl, hrest⟩

/-- **What is read as quoted.** -/
theorem unquote?_eq_some_iff : unquote? quote cs = some (body, rest) ↔
    cs = doubled quote body ++ quote :: rest ∧ rest.head? ≠ some quote :=
  ⟨eq_doubled_of_unquote?, fun ⟨hcs, hrest⟩ => hcs ▸ unquote?_doubled hrest⟩

end Spreadsheet.Text
