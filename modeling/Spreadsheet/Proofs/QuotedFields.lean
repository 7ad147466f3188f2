import Spreadsheet.Proofs.QuotedText

/-!
Fields between separators, some of them quoted.

A separator counts only outside of quotes. Fields that keep their separators within quotes, and close
all their quotes, are found again in a text that puts them between separators, and so are quoted
texts whatever they hold.
-/

namespace Spreadsheet.Text

variable {quote sep mark c : Char} {inside : Bool} {cs ds rest body : List Char}
  {fields : List (List Char)}

/-! ### Whole texts in quotes -/

/-- What a text quotes, if it is quoted as a whole. -/
def unquoted? (quote : Char) : List Char → Option (List Char)
  | [] => none
  | c :: cs =>
    match unquote? quote cs with
    | some (body, []) => if c = quote then some body else none
    | _ => none

/-- **Quoted texts** are those that are written as such. -/
lemma unquoted?_eq_some_iff : unquoted? quote cs = some body ↔ cs = quoted quote body := by
  rcases cs with _ | ⟨c, cs⟩
  · exact iff_of_false nofun nofun
  have hunquote : unquote? quote cs = some (body, []) ↔ cs = doubled quote body ++ [quote] := by
    rw [unquote?_eq_some_iff]
    exact and_iff_left nofun
  rw [quoted, List.cons.injEq, ← hunquote, unquoted?]
  constructor
  · intro h
    split at h
    next body' hbody =>
      obtain ⟨hc, heq⟩ := Option.ite_none_right_eq_some.mp h
      cases heq
      exact ⟨hc, hbody⟩
    · cases h
  · rintro ⟨rfl, hbody⟩
    rw [hbody]
    exact if_pos rfl

/-! ### Splitting -/

/-- The fields between the separators that stand outside quotes. Each quote opens or closes a quoted
stretch, so that a doubled one inside leaves it open. -/
def splitOutside (quote sep : Char) : Bool → List Char → List (List Char)
  | _, [] => [[]]
  | inside, c :: cs =>
    if c = sep ∧ inside = false then [] :: splitOutside quote sep false cs
    else (splitOutside quote sep (inside != (c == quote)) cs).modifyHead (c :: ·)

/-- From within quotes or from outside, all separators stand in quotes, and at the end the quotes
are closed. -/
def Sealed (quote sep : Char) : Bool → List Char → Prop
  | inside, [] => inside = false
  | inside, c :: cs => (c = sep → inside = true) ∧ Sealed quote sep (inside != (c == quote)) cs

lemma splitOutside_append (h : Sealed quote sep inside cs) :
    splitOutside quote sep inside (cs ++ rest) =
      (splitOutside quote sep false rest).modifyHead (cs ++ ·) := by
  induction cs generalizing inside with
  | nil =>
    obtain rfl : inside = false := h
    exact (congrFun List.modifyHead_id _).symm
  | cons c cs ih =>
    obtain ⟨hsep, hrest⟩ := h
    have hc : ¬ (c = sep ∧ inside = false) := fun ⟨hc, hinside⟩ => by
      rw [hsep hc] at hinside
      cases hinside
    rw [List.cons_append, splitOutside, if_neg hc, ih hrest, List.modifyHead_modifyHead]
    rfl

lemma splitOutside_sep (rest : List Char) : splitOutside quote sep false (sep :: rest) =
    [] :: splitOutside quote sep false rest := by
  rw [splitOutside, if_pos ⟨rfl, rfl⟩]

/-- **Sealed fields are found again.** -/
theorem splitOutside_intercalate (hne : fields ≠ [])
    (h : ∀ f ∈ fields, Sealed quote sep false f) :
    splitOutside quote sep false ([sep].intercalate fields) = fields := by
  induction fields with
  | nil => exact absurd rfl hne
  | cons f fields ih =>
    have hf := h f List.mem_cons_self
    rcases fields with _ | ⟨g, fields⟩
    · have hsplit : splitOutside quote sep false (f ++ []) = [f ++ []] := splitOutside_append hf
      rw [List.append_nil] at hsplit
      rwa [List.intercalate_singleton]
    · rw [List.intercalate_cons_cons, List.append_assoc, List.singleton_append,
        splitOutside_append hf, splitOutside_sep, List.modifyHead_cons, List.append_nil,
        ih (List.cons_ne_nil g fields) fun f hf => h f (List.mem_cons_of_mem _ hf)]

/-! ### Sealed texts -/

lemma Sealed.append (h : Sealed quote sep inside cs) (h' : Sealed quote sep false ds) :
    Sealed quote sep inside (cs ++ ds) := by
  induction cs generalizing inside with
  | nil =>
    obtain rfl : inside = false := h
    exact h'
  | cons c cs ih => exact ⟨h.1, ih h.2⟩

lemma sealed_of_forall_ne (h : ∀ c ∈ cs, c ≠ quote ∧ c ≠ sep) : Sealed quote sep false cs := by
  induction cs with
  | nil => rfl
  | cons c cs ih =>
    obtain ⟨hquote, hsep⟩ := h c List.mem_cons_self
    refine ⟨fun hc => absurd hc hsep, ?_⟩
    rw [beq_false_of_ne hquote]
    exact ih fun d hd => h d (List.mem_cons_of_mem c hd)

/-- Within quotes a text with all quotes doubled stays within. -/
lemma sealed_doubled (hsep : sep ≠ quote) (h : Sealed quote sep true rest) (cs : List Char) :
    Sealed quote sep true (doubled quote cs ++ rest) := by
  induction cs with
  | nil => exact h
  | cons c cs ih =>
    by_cases hc : c = quote
    · subst hc
      rw [doubled_cons_self, List.cons_append, List.cons_append]
      refine ⟨fun _ => rfl, fun hc => absurd hc hsep.symm, ?_⟩
      rw [beq_self_eq_true]
      exact ih
    · rw [doubled_cons_of_ne hc, List.cons_append]
      refine ⟨fun _ => rfl, ?_⟩
      rw [beq_false_of_ne hc]
      exact ih

/-- **Quoted texts are sealed**, whatever they hold. -/
lemma sealed_quoted (hsep : sep ≠ quote) (cs : List Char) :
    Sealed quote sep false (quoted quote cs) := by
  have hclose : Sealed quote sep true [quote] := by
    refine ⟨fun _ => rfl, ?_⟩
    rw [beq_self_eq_true]
    rfl
  refine ⟨fun hc => absurd hc hsep.symm, ?_⟩
  rw [beq_self_eq_true]
  exact sealed_doubled hsep hclose cs

/-- Other marks between sealed fields leave them sealed. -/
lemma sealed_intercalate (hquote : mark ≠ quote) (hsep : mark ≠ sep)
    (h : ∀ f ∈ fields, Sealed quote sep false f) :
    Sealed quote sep false ([mark].intercalate fields) := by
  have hmark : Sealed quote sep false [mark] :=
    sealed_of_forall_ne (List.forall_mem_singleton.mpr ⟨hquote, hsep⟩)
  induction fields with
  | nil => rfl
  | cons f fields ih =>
    have hf := h f List.mem_cons_self
    rcases fields with _ | ⟨g, fields⟩
    · rwa [List.intercalate_singleton]
    · rw [List.intercalate_cons_cons]
      exact (hf.append hmark).append (ih fun f hf => h f (List.mem_cons_of_mem _ hf))

end Spreadsheet.Text
