import Mathlib.Algebra.Group.Nat.Defs
import Mathlib.Tactic.Common
import Spreadsheet.Token.Bytes

/-!
What readers read.

`Reads r s a rest` says that the reader `r` finds the value `a` at the front of the bytes `s` and
leaves `rest`. Each basic reader has one law, an equivalence that says which bytes those are; the
laws of pure values, of sequences and of choices take a composed reader apart.
-/

namespace Spreadsheet

/-! ### Numbers as bytes -/

@[simp] lemma length_leBytes (k n : Nat) : (leBytes k n).length = k := by
  induction k generalizing n with
  | zero => rfl
  | succ k ih => simp [leBytes, ih]

lemma ofLEBytes_lt (bs : List UInt8) : ofLEBytes bs < 256 ^ bs.length := by
  induction bs with
  | nil => simp [ofLEBytes]
  | cons b bs ih =>
    have hb := b.toNat_lt
    rw [ofLEBytes, List.length_cons, Nat.pow_succ]
    omega

lemma leBytes_ofLEBytes (bs : List UInt8) : leBytes bs.length (ofLEBytes bs) = bs := by
  induction bs with
  | nil => rfl
  | cons b bs ih =>
    have hb := b.toNat_lt
    have hlow : (b.toNat + 256 * ofLEBytes bs).toUInt8 = b := by
      refine UInt8.toNat_inj.mp ?_
      rw [Nat.toUInt8_eq, UInt8.toNat_ofNat']
      omega
    have hhigh : (b.toNat + 256 * ofLEBytes bs) / 256 = ofLEBytes bs := by omega
    rw [List.length_cons, ofLEBytes, leBytes, hlow, hhigh, ih]

lemma ofLEBytes_leBytes {k n : Nat} (h : n < 256 ^ k) : ofLEBytes (leBytes k n) = n := by
  induction k generalizing n with
  | zero =>
    rw [Nat.pow_zero] at h
    rw [leBytes, ofLEBytes]
    omega
  | succ k ih =>
    rw [Nat.pow_succ] at h
    have hlow : n.toUInt8.toNat = n % 256 := by
      rw [Nat.toUInt8_eq, UInt8.toNat_ofNat']
    rw [leBytes, ofLEBytes, ih (by omega), hlow]
    omega

namespace Reader

variable {α β : Type}

def Reads (r : Reader α) (s : List UInt8) (a : α) (rest : List UInt8) : Prop :=
  ∃ h, r s = .ok ⟨a, rest, h⟩

/-! ### Pure values, sequences and choices -/

@[simp] lemma reads_pure {a b : α} {s rest : List UInt8} :
    Reads (pure a) s b rest ↔ b = a ∧ rest = s := by
  constructor
  · rintro ⟨h, he⟩
    cases he
    exact ⟨rfl, rfl⟩
  · rintro ⟨rfl, rfl⟩
    exact ⟨List.suffix_refl _, rfl⟩

@[simp] lemma reads_bind {r : Reader α} {f : α → Reader β} {s rest : List UInt8} {b : β} :
    Reads (r >>= f) s b rest ↔ ∃ a mid, Reads r s a mid ∧ Reads (f a) mid b rest := by
  constructor
  · rintro ⟨h, he⟩
    rcases hr : r s with e | ⟨a, mid, hmid⟩
    · simp [bind, hr] at he
    rcases hf : f a mid with e | ⟨b', rest', hrest⟩
    · simp [bind, hr, hf] at he
    simp only [bind, hr, hf] at he
    cases he
    exact ⟨a, mid, ⟨hmid, hr⟩, hrest, hf⟩
  · rintro ⟨a, mid, ⟨hmid, hr⟩, hrest, hf⟩
    exact ⟨hrest.trans hmid, by simp only [bind, hr, hf]⟩

@[simp] lemma not_reads_fail {fault : PayloadFault} {s rest : List UInt8} {a : α} :
    ¬Reads (fail fault) s a rest := by
  rintro ⟨h, he⟩
  cases he

@[simp] lemma reads_ite {c : Prop} [Decidable c] {r r' : Reader α} {s rest : List UInt8} {a : α} :
    Reads (if c then r else r') s a rest ↔ if c then Reads r s a rest else Reads r' s a rest := by
  split <;> rfl

/-! ### Basic readers -/

@[simp] lemma reads_bytes {n : Nat} {s rest : List UInt8} {v : Vector UInt8 n} :
    Reads (bytes n) s v rest ↔ s = v.toList ++ rest := by
  unfold Reads bytes
  constructor
  · rintro ⟨h, he⟩
    dsimp only at he
    split at he
    · cases he
      simp
    · cases he
  · rintro rfl
    have hlen : v.toList.length = n := by simp
    have htake : (v.toList ++ rest).take n = v.toList := List.take_left' hlen
    have hdrop : (v.toList ++ rest).drop n = rest := List.drop_left' hlen
    refine ⟨List.suffix_append _ _, ?_⟩
    simp only [htake, hdrop, hlen, dite_true]
    rfl

@[simp] lemma reads_number {k n : Nat} {s rest : List UInt8} :
    Reads (number k) s n rest ↔ n < 256 ^ k ∧ s = leBytes k n ++ rest := by
  simp only [number, reads_bind, reads_bytes, reads_pure]
  constructor
  · rintro ⟨v, mid, rfl, rfl, rfl⟩
    have hlen : v.toList.length = k := by simp
    have hlt := ofLEBytes_lt v.toList
    have hback := leBytes_ofLEBytes v.toList
    rw [hlen] at hlt hback
    exact ⟨hlt, by rw [hback]⟩
  · rintro ⟨hlt, rfl⟩
    exact ⟨⟨(leBytes k n).toArray, by simp⟩, rest, by simp, by simp [ofLEBytes_leBytes hlt], rfl⟩

@[simp] lemma reads_u8 {b : UInt8} {s rest : List UInt8} : Reads u8 s b rest ↔ s = b :: rest := by
  simp only [u8, reads_bind, reads_number, reads_pure]
  constructor
  · rintro ⟨n, mid, ⟨hlt, rfl⟩, rfl, rfl⟩
    simp [leBytes]
  · rintro rfl
    exact ⟨b.toNat, rest, ⟨b.toNat_lt, by simp [leBytes]⟩, by simp, rfl⟩

@[simp] lemma reads_u16 {n : UInt16} {s rest : List UInt8} :
    Reads u16 s n rest ↔ s = leBytes 2 n.toNat ++ rest := by
  simp only [u16, reads_bind, reads_number, reads_pure]
  constructor
  · rintro ⟨m, mid, ⟨hlt, rfl⟩, rfl, rfl⟩
    rw [show m.toUInt16.toNat = m from UInt16.toNat_ofNat_of_lt' hlt]
  · rintro rfl
    exact ⟨n.toNat, rest, ⟨n.toNat_lt, rfl⟩, by simp, rfl⟩

@[simp] lemma reads_u64 {n : UInt64} {s rest : List UInt8} :
    Reads u64 s n rest ↔ s = leBytes 8 n.toNat ++ rest := by
  simp only [u64, reads_bind, reads_number, reads_pure]
  constructor
  · rintro ⟨m, mid, ⟨hlt, rfl⟩, rfl, rfl⟩
    rw [show m.toUInt64.toNat = m from UInt64.toNat_ofNat_of_lt' hlt]
  · rintro rfl
    exact ⟨n.toNat, rest, ⟨n.toNat_lt, rfl⟩, by simp, rfl⟩

/-! ### Repetition -/

/-- The reader finds the values one behind the other. -/
inductive ReadsAll (r : Reader α) : List UInt8 → List α → List UInt8 → Prop
  | nil (s : List UInt8) : ReadsAll r s [] s
  | cons {s mid rest : List UInt8} {a : α} {as : List α} :
    Reads r s a mid → ReadsAll r mid as rest → ReadsAll r s (a :: as) rest

/-- A loop that found the values `acc` before, the last one first. -/
private lemma go_eq_ok {r : Reader α} {n : Nat} {acc as : List α} {s₀ s rest : List UInt8}
    (h : s <:+ s₀) : (∃ h', times.go r s₀ n acc s h = .ok ⟨as, rest, h'⟩) ↔
      ∃ bs, bs.length = n ∧ ReadsAll r s bs rest ∧ as = acc.reverse ++ bs := by
  induction n generalizing acc s with
  | zero =>
    unfold times.go
    constructor
    · rintro ⟨_, he⟩
      cases he
      exact ⟨[], rfl, .nil _, (List.append_nil _).symm⟩
    · rintro ⟨bs, hlen, hbs, rfl⟩
      obtain rfl := List.length_eq_zero_iff.mp hlen
      cases hbs
      exact ⟨h, by simp⟩
  | succ n ih =>
    unfold times.go
    constructor
    · rintro ⟨_, he⟩
      rcases hr : r s with e | ⟨b, mid, hmid⟩
      · simp [hr] at he
      simp only [hr] at he
      obtain ⟨bs, rfl, hbs, rfl⟩ := (ih (hmid.trans h)).mp ⟨_, he⟩
      exact ⟨b :: bs, rfl, .cons ⟨hmid, hr⟩ hbs, by simp⟩
    · rintro ⟨bs, hlen, hbs, rfl⟩
      cases hbs with
      | nil => cases hlen
      | cons hb hbs =>
        obtain ⟨hmid, hr⟩ := hb
        simp only [hr]
        refine (ih (hmid.trans h)).mpr ⟨_, Nat.succ.inj hlen, hbs, by simp⟩

lemma reads_times {r : Reader α} {n : Nat} {s rest : List UInt8} {as : List α} :
    Reads (times n r) s as rest ↔ as.length = n ∧ ReadsAll r s as rest := by
  refine (go_eq_ok (List.suffix_refl s)).trans ⟨?_, fun ⟨hlen, h⟩ => ⟨as, hlen, h, rfl⟩⟩
  rintro ⟨bs, hlen, hbs, rfl⟩
  exact ⟨hlen, hbs⟩

/-! ### Writing what was read -/

/-- Whatever the reader finds is written as the bytes that it took. -/
def WrittenBy {ε : Type} (r : Reader α) (write : α → Except ε (List UInt8)) : Prop :=
  ∀ {s a rest}, Reads r s a rest → ∃ bs, write a = .ok bs ∧ s = bs ++ rest

lemma WrittenBy.all {ε : Type} {r : Reader α} {write : α → Except ε (List UInt8)}
    (hw : r.WrittenBy write) {s rest : List UInt8} {as : List α} (h : ReadsAll r s as rest) :
    ∃ bss, as.mapM write = .ok bss ∧ s = bss.flatten ++ rest := by
  induction h with
  | nil s => exact ⟨[], rfl, rfl⟩
  | cons ha _ ih =>
    obtain ⟨bs, hbs, rfl⟩ := hw ha
    obtain ⟨bss, hbss, rfl⟩ := ih
    refine ⟨bs :: bss, ?_, by simp⟩
    rw [List.mapM_cons, hbs, hbss]
    rfl

end Reader

end Spreadsheet
