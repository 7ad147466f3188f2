import Spreadsheet.Proofs.Reading
import Spreadsheet.Token.Decode

/-!
What readers have to do with the bytes behind those that they take.

A reader takes bytes from the front and knows nothing of the others: it finds the same value
whatever follows. It fails for two reasons. Either there are too few bytes, and it says how many it
needed and how many were left; or the bytes themselves are faulty, and then it fails alike if more
of them follow. All readers of the format are of this kind, since they are composed of such readers.
-/

namespace Spreadsheet

/-- There were fewer bytes left than needed. -/
def PayloadFault.IsShortage (available : Nat) : PayloadFault → Prop
  | endOfBytes needed remaining => remaining < needed ∧ remaining ≤ available
  | _ => False

/-- The bytes that there are have a fault. -/
def PayloadFault.IsFlaw : PayloadFault → Prop
  | endOfBytes _ _ => False
  | _ => True

lemma PayloadFault.IsShortage.mono {fault : PayloadFault} {n m : Nat} (h : fault.IsShortage n)
    (hm : n ≤ m) : fault.IsShortage m := by
  cases fault with
  | endOfBytes needed remaining => exact ⟨h.1, Nat.le_trans h.2 hm⟩
  | _ => exact h

namespace Reader

variable {α β : Type} {r r' : Reader α} {f : α → Reader β} {s rest : List UInt8}
  {a : α} {fault : PayloadFault}

/-! ### Failures -/

def Fails (r : Reader α) (s : List UInt8) (fault : PayloadFault) : Prop := r s = .error fault

lemma not_fails_pure : ¬Fails (pure a) s fault := by
  rintro ⟨⟩

lemma fails_fail {fault' : PayloadFault} :
    Fails (fail fault : Reader α) s fault' ↔ fault' = fault := by
  constructor
  · rintro ⟨⟩
    rfl
  · rintro rfl
    rfl

lemma fails_bind : Fails (r >>= f) s fault ↔
    Fails r s fault ∨ ∃ a mid, Reads r s a mid ∧ Fails (f a) mid fault := by
  unfold Fails Reads
  rcases hr : r s with e | ⟨a, mid, hmid⟩
  · simp [bind, hr]
  · simp only [bind, hr]
    rcases hf : f a mid with e | ⟨b, rest, hrest⟩
    · constructor
      · rintro ⟨⟩
        exact .inr ⟨a, mid, ⟨hmid, rfl⟩, hf⟩
      · rintro (⟨⟨⟩⟩ | ⟨_, _, ⟨_, ⟨⟩⟩, h⟩)
        rw [hf] at h
        cases h
        rfl
    · constructor
      · rintro ⟨⟩
      · rintro (⟨⟨⟩⟩ | ⟨_, _, ⟨_, ⟨⟩⟩, h⟩)
        rw [hf] at h
        cases h

lemma fails_bytes {n : Nat} :
    Fails (bytes n) s fault ↔ s.length < n ∧ fault = .endOfBytes n s.length := by
  unfold Fails bytes
  dsimp only
  split
  · rename_i h
    rw [List.length_take] at h
    refine iff_of_false ?_ fun hlt => by omega
    rintro ⟨⟩
  · rename_i h
    rw [List.length_take] at h ⊢
    have hlt : s.length < n := by omega
    rw [Nat.min_eq_right (Nat.le_of_lt hlt)]
    constructor
    · rintro ⟨⟩
      exact ⟨hlt, rfl⟩
    · rintro ⟨-, rfl⟩
      rfl

private lemma go_eq_error {n : Nat} {acc : List α} {s₀ : List UInt8} (h : s <:+ s₀) :
    times.go r s₀ n acc s h = .error fault ↔
      ∃ as mid, as.length < n ∧ ReadsAll r s as mid ∧ Fails r mid fault := by
  induction n generalizing acc s with
  | zero =>
    unfold times.go
    refine iff_of_false ?_ ?_
    · rintro ⟨⟩
    · rintro ⟨as, mid, hlt, -⟩
      exact Nat.not_lt_zero _ hlt
  | succ n ih =>
    unfold times.go
    rcases hr : r s with e | ⟨b, mid, hmid⟩
    · simp only
      constructor
      · rintro ⟨⟩
        exact ⟨[], s, Nat.succ_pos n, .nil s, hr⟩
      · rintro ⟨as, mid, -, has, hfails⟩
        cases has with
        | nil =>
          rw [Fails, hr] at hfails
          cases hfails
          rfl
        | cons hb =>
          obtain ⟨_, hb⟩ := hb
          rw [hr] at hb
          cases hb
    · simp only
      rw [ih]
      constructor
      · rintro ⟨as, mid', hlt, has, hfails⟩
        exact ⟨b :: as, mid', Nat.succ_lt_succ hlt, .cons ⟨hmid, hr⟩ has, hfails⟩
      · rintro ⟨as, mid', hlt, has, hfails⟩
        cases has with
        | nil =>
          rw [Fails, hr] at hfails
          cases hfails
        | cons hb has =>
          obtain ⟨_, hb⟩ := hb
          rw [hr] at hb
          cases hb
          exact ⟨_, mid', Nat.lt_of_succ_lt_succ hlt, has, hfails⟩

lemma fails_times {n : Nat} : Fails (times n r) s fault ↔
    ∃ as mid, as.length < n ∧ ReadsAll r s as mid ∧ Fails r mid fault :=
  go_eq_error (List.suffix_refl s)

/-! ### Laws -/

/-- The reader depends on nothing but the bytes that it takes, or lacks. -/
class Lawful (r : Reader α) : Prop where
  /-- It takes some bytes off the front, and finds the same in them whatever follows. -/
  reads : ∀ {s a rest}, Reads r s a rest →
    ∃ front, s = front ++ rest ∧ ∀ rest', Reads r (front ++ rest') a rest'
  /-- It lacks bytes, or finds a flaw whatever follows. -/
  fails : ∀ {s fault}, Fails r s fault →
    fault.IsShortage s.length ∨ fault.IsFlaw ∧ ∀ more, Fails r (s ++ more) fault

lemma reads_append [hr : r.Lawful] (h : Reads r s a rest) (more : List UInt8) :
    Reads r (s ++ more) a (rest ++ more) := by
  obtain ⟨front, rfl, hfront⟩ := hr.reads h
  rw [List.append_assoc]
  exact hfront _

instance (a : α) : Lawful (pure a) where
  reads h := by
    obtain ⟨rfl, rfl⟩ := reads_pure.mp h
    exact ⟨[], rfl, fun rest' => reads_pure.mpr ⟨rfl, rfl⟩⟩
  fails h := absurd h not_fails_pure

lemma lawful_fail (h : fault.IsFlaw) : Lawful (fail fault : Reader α) where
  reads h := absurd h not_reads_fail
  fails h' := by
    obtain rfl := fails_fail.mp h'
    exact .inr ⟨h, fun more => rfl⟩

instance [hr : r.Lawful] [hf : ∀ a, (f a).Lawful] : Lawful (r >>= f) where
  reads h := by
    obtain ⟨a, mid, hra, hfb⟩ := reads_bind.mp h
    obtain ⟨front, rfl, hfront⟩ := hr.reads hra
    obtain ⟨front', rfl, hfront'⟩ := (hf a).reads hfb
    refine ⟨front ++ front', (List.append_assoc _ _ _).symm, fun rest' => ?_⟩
    rw [List.append_assoc]
    exact reads_bind.mpr ⟨a, front' ++ rest', hfront _, hfront' _⟩
  fails h := by
    rcases fails_bind.mp h with hfirst | ⟨a, mid, hra, hsecond⟩
    · exact (hr.fails hfirst).imp_right fun ⟨hflaw, hmore⟩ =>
        ⟨hflaw, fun more => fails_bind.mpr (.inl (hmore more))⟩
    · obtain ⟨front, hfront, -⟩ := hr.reads hra
      refine ((hf a).fails hsecond).imp (fun hshort => hshort.mono (by simp [hfront])) ?_
      exact fun ⟨hflaw, hmore⟩ => ⟨hflaw, fun more =>
        fails_bind.mpr (.inr ⟨a, mid ++ more, reads_append hra more, hmore more⟩)⟩

instance {c : Prop} [Decidable c] [hr : r.Lawful] [hr' : r'.Lawful] :
    Lawful (if c then r else r') := by
  split
  · exact hr
  · exact hr'

instance (n : Nat) : (bytes n).Lawful where
  reads h := by
    obtain rfl := reads_bytes.mp h
    exact ⟨_, rfl, fun rest' => reads_bytes.mpr rfl⟩
  fails h := by
    obtain ⟨hlt, rfl⟩ := fails_bytes.mp h
    exact .inl ⟨hlt, Nat.le_refl _⟩

instance (k : Nat) : (number k).Lawful := by unfold number; infer_instance

instance : u8.Lawful := by unfold u8; infer_instance

instance : u16.Lawful := by unfold u16; infer_instance

instance : u64.Lawful := by unfold u64; infer_instance

lemma Lawful.readsAll (hr : r.Lawful) {as : List α} (h : ReadsAll r s as rest) :
    ∃ front, s = front ++ rest ∧ ∀ rest', ReadsAll r (front ++ rest') as rest' := by
  induction h with
  | nil s => exact ⟨[], rfl, .nil⟩
  | cons ha _ ih =>
    obtain ⟨front, rfl, hfront⟩ := hr.reads ha
    obtain ⟨front', rfl, hfront'⟩ := ih
    refine ⟨front ++ front', (List.append_assoc _ _ _).symm, fun rest' => ?_⟩
    rw [List.append_assoc]
    exact .cons (hfront _) (hfront' _)

instance [hr : r.Lawful] (n : Nat) : (times n r).Lawful where
  reads h := by
    obtain ⟨hlen, hall⟩ := reads_times.mp h
    obtain ⟨front, rfl, hfront⟩ := hr.readsAll hall
    exact ⟨front, rfl, fun rest' => reads_times.mpr ⟨hlen, hfront rest'⟩⟩
  fails h := by
    obtain ⟨as, mid, hlt, hall, hlast⟩ := fails_times.mp h
    obtain ⟨front, rfl, hfront⟩ := hr.readsAll hall
    refine (hr.fails hlast).imp (fun hshort => hshort.mono (by simp)) fun ⟨hflaw, hmore⟩ => ?_
    refine ⟨hflaw, fun more => fails_times.mpr ⟨as, mid ++ more, hlt, ?_, hmore more⟩⟩
    rw [List.append_assoc]
    exact hfront _

end Reader

/-! ### The readers of the format -/

namespace Decode

open Reader

instance : cellError.Lawful := by
  have hcode (code : UInt8) : Lawful (match CellError.ofCode? code with
      | some e => pure e
      | none => fail (.errorCode code)) := by
    cases CellError.ofCode? code with
    | some e => infer_instance
    | none => exact lawful_fail trivial
  unfold cellError
  infer_instance

instance (width : Nat) : (text width).Lawful := by
  have hflags (flags : UInt8) : (fail (.textFlags flags) : Reader StoredText).Lawful :=
    lawful_fail trivial
  have hunits (units : List UInt16) : Lawful (match Text.ofUnits16? units with
      | some cs => pure ⟨String.ofList cs, true⟩
      | none => (fail .loneSurrogate : Reader StoredText)) := by
    cases Text.ofUnits16? units with
    | some cs => infer_instance
    | none => exact lawful_fail trivial
  unfold text
  infer_instance

instance : element.Lawful := by
  have hkind (kind : UInt8) : (fail (.elementKind kind) : Reader ArrayElement).Lawful :=
    lawful_fail trivial
  unfold element
  infer_instance

instance : Decode.array.Lawful := by unfold Decode.array; infer_instance

instance : attr.Lawful := by unfold attr; infer_instance

section
variable {α : Type} (make : Nat → Nat → α)

instance : (cornerFields make).Lawful := by unfold cornerFields; infer_instance

instance : (areaFields make).Lawful := by unfold areaFields; infer_instance

end

instance : address.Lawful := by unfold address; infer_instance

instance : areaAddress.Lawful := by unfold areaAddress; infer_instance

instance : offsetArea.Lawful := by unfold offsetArea; infer_instance

instance : storedArea.Lawful := by unfold storedArea; infer_instance

instance (kind : MemoryKind) (cls : TokenClass) : (memory kind cls).Lawful := by
  unfold memory
  infer_instance

/-- The payload of every kind of token is read lawfully. -/
instance lawful_payload (kind : TokenKind) (cls : TokenClass) : (payload kind cls).Lawful := by
  cases kind <;> unfold payload <;> dsimp only <;> infer_instance

/-- So is what tokens keep in the data block. -/
instance lawful_complete (pending : Pending) : pending.complete.Lawful := by
  cases pending <;> unfold Pending.complete <;> dsimp only <;> infer_instance

end Decode

end Spreadsheet
