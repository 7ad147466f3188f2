import Mathlib.Algebra.Group.Nat.Defs
import Mathlib.Tactic.Common
import Spreadsheet.Value.Coercion

/-!
Floating-point operations that cannot leave the finite numbers.

Negation, division by a hundred, factors of one and of a hundredth, and the conversion of whole
numbers keep numbers finite. Numbers are unpacked into a sign, a mantissa and an exponent of two; a
result that is rounded can be packed as a finite number unless its exponent is more than 971.
-/

namespace Spreadsheet

namespace Binary64

open Float.Model Float.Model.UnpackedFloat

/-- The unpacked number is finite and not too large to be packed as such. -/
def Fits : UnpackedFloat → Prop
  | .zero _ => True
  | .finite _ _ e _ => e ≤ 971
  | _ => False

/-- A finite mantissa and exponent as they come out of the format. -/
structure Canonical (m : Nat) (e : Int) : Prop where
  lt : m < 2 ^ 53
  le : e ≤ 971
  normal : 2 ^ 52 ≤ m ∧ -1074 ≤ e ∨ e = -1074

/-- The unpacked number is finite and in the form that the format holds. -/
def Held : UnpackedFloat → Prop
  | .zero _ => True
  | .finite _ m e _ => Canonical m e
  | _ => False

namespace Held

variable {u : UnpackedFloat}

lemma fits (h : Held u) : Fits u := by
  cases u with
  | finite s m e hm => exact Canonical.le h
  | zero => trivial
  | _ => exact h

lemma isFinite (h : Held u) : u.isFinite := by
  cases u with
  | finite | zero => rfl
  | _ => cases h

end Held

section
variable {b : BitVec 64}

/-- Only the greatest exponent stands for what is not finite. -/
lemma held_unpack_of_ne (h : @unpackExponent .binary64 b ≠ -1#11) :
    Held (unpack .binary64 b) := by
  have hexponent : (@unpackExponent .binary64 b).toNat < 2 ^ 11 := BitVec.isLt _
  have hmantissa : (@unpackMantissa .binary64 b).toNat < 2 ^ 52 := BitVec.isLt _
  unfold UnpackedFloat.unpack
  rw [if_neg h]
  by_cases hsub : @unpackExponent .binary64 b = 0#11
  · rw [if_pos hsub]
    by_cases hm : @unpackMantissa .binary64 b = 0#52
    · rw [dif_pos hm]
      trivial
    · -- subnormal numbers have the least exponent
      rw [dif_neg hm, hsub]
      exact ⟨by omega, by decide, .inr (by decide)⟩
  · rw [if_neg hsub]
    have hmax' : (@unpackExponent .binary64 b).toNat ≠ 2047 := fun hn =>
      h (BitVec.eq_of_toNat_eq hn)
    have hsub' : (@unpackExponent .binary64 b).toNat ≠ 0 := fun hn =>
      hsub (BitVec.eq_of_toNat_eq hn)
    have hbit : (1#1 ++ @unpackMantissa .binary64 b).toNat =
        2 ^ 52 + (@unpackMantissa .binary64 b).toNat := by
      rw [BitVec.toNat_append, ← Nat.shiftLeft_add_eq_or_of_lt (BitVec.isLt _)]
      rfl
    have hcanonical : ∀ m e, m = (1#1 ++ @unpackMantissa .binary64 b).toNat →
        e = ((@unpackExponent .binary64 b).toNat : Int) - (1023 + 52) →
        Canonical m e := by
      rintro m e rfl rfl
      exact ⟨by omega, by omega, .inl ⟨by omega, by omega⟩⟩
    exact hcanonical _ _ rfl rfl

lemma unpackExponent_ne (h : (unpack .binary64 b).isFinite) :
    @unpackExponent .binary64 b ≠ -1#11 := by
  intro hmax
  unfold UnpackedFloat.unpack at h
  rw [if_pos hmax] at h
  split_ifs at h <;> cases h

end

lemma held_unpack {x : Float} (h : x.isFinite) : Held x.toModel.unpack :=
  held_unpack_of_ne (unpackExponent_ne (b := x.toModel.toBits.toBitVec) h)

lemma isFinite_packComponents (s : Sign) {exponent : BitVec 11} (h : exponent ≠ -1#11)
    (mantissa : BitVec 52) :
    (unpack .binary64 (packComponents .binary64 s exponent mantissa)).isFinite := by
  refine (held_unpack_of_ne ?_).isFinite
  rw [unpackExponent_packComponents]
  exact h

lemma isFinite_pack {u : UnpackedFloat} (h : Fits u) :
    (Float.ofModel (Float.Model.pack u)).isFinite := by
  change (unpack .binary64 (UnpackedFloat.pack .binary64 u)).isFinite
  cases u with
  | notANumber => cases h
  | infinity s => cases h
  | zero s => exact isFinite_packComponents s (by decide) _
  | finite s m e hm =>
    have he : e ≤ 971 := h
    have hsmall : (e + (1023 : Nat) + (52 : Nat)).toNat + 1 < 2 ^ 11 := by omega
    have hexponent : BitVec.ofNat 11 (e + (1023 : Nat) + (52 : Nat)).toNat ≠ -1#11 := by
      intro hb
      have hnat := congrArg BitVec.toNat hb
      rw [BitVec.toNat_ofNat, Nat.mod_eq_of_lt (by omega)] at hnat
      have hall : (-1#11).toNat = 2047 := by decide
      omega
    change (unpack .binary64 (if 2 ^ 11 ≤ (e + (1023 : Nat) + (52 : Nat)).toNat + 1 then _ else
      if m.log2 + 1 = 53 then _ else _)).isFinite
    rw [if_neg (Nat.not_le.mpr hsmall)]
    split_ifs
    · exact isFinite_packComponents s hexponent _
    · exact isFinite_packComponents s (by decide) _

/-! ### Rounding -/

lemma mantissa_shiftRight (em : ExtendedMantissa) (k : Nat) :
    (em >>> k).mantissa = em.mantissa / 2 ^ k := by
  induction k with
  | zero => simp [HShiftRight.hShiftRight, Nat.repeat]
  | succ k ih =>
    change (em >>> k).mantissa / 2 = _
    rw [ih, Nat.div_div_eq_div_mul, Nat.pow_succ]

/-- Bits that are zero do not matter. -/
lemma shiftRight_exact (m k : Nat) :
    ExtendedMantissa.mk (m * 2 ^ k) false false >>> k = ExtendedMantissa.mk m false false := by
  induction k generalizing m with
  | zero => simp [HShiftRight.hShiftRight, Nat.repeat]
  | succ k ih =>
    have hk : m * 2 ^ (k + 1) = m * 2 * 2 ^ k := by rw [Nat.pow_succ', Nat.mul_assoc]
    change (ExtendedMantissa.mk (m * 2 ^ (k + 1)) false false >>> k).shiftRightOne = _
    rw [hk, ih]
    simp [ExtendedMantissa.shiftRightOne]

lemma roundedMantissa_le (em : ExtendedMantissa) : em.roundedMantissa ≤ em.mantissa + 1 := by
  rcases em with ⟨m, r, s⟩
  cases r <;> cases s <;>
    simp [ExtendedMantissa.roundedMantissa, ExtendedMantissa.accuracy, Accuracy.roundToNearestEven]
  omega

lemma mantissa_shiftToTargetExponent (m : Nat) (e : Int) (a : Accuracy) :
    (shiftToTargetExponent .binary64 m e a).1.mantissa =
      m / 2 ^ (Format.binary64.targetExponent (totalExponent m e) - e).toNat := by
  unfold shiftToTargetExponent shiftToExponent
  dsimp only
  rw [mantissa_shiftRight]
  rcases a with _ | _ | _ | _ <;> rfl

lemma targetExponent_eq (m : Nat) (e : Int) :
    Format.binary64.targetExponent (totalExponent m e) = max (m.log2 + e - 52) (-1074) := by
  have hbits : (Format.binary64.mantissaBits : Int) = 53 := rfl
  have hmin : Format.binary64.minExponent = -1074 := rfl
  unfold Format.targetExponent totalExponent
  rw [hbits, hmin]
  omega

lemma exponent_shiftToTargetExponent (m : Nat) (e : Int) (a : Accuracy) :
    (shiftToTargetExponent .binary64 m e a).2 = max e (max (m.log2 + e - 52) (-1074)) := by
  unfold shiftToTargetExponent shiftToExponent
  rw [targetExponent_eq]
  dsimp only
  omega

lemma log2_le_of_lt {m k : Nat} (h : m < 2 ^ (k + 1)) : m.log2 ≤ k := by
  rcases Nat.eq_zero_or_pos m with rfl | hm
  · simp
  · exact Nat.le_of_lt_succ ((Nat.log2_lt (Nat.ne_of_gt hm)).mpr h)

lemma log2_le_of_le {m k : Nat} (h : m ≤ 2 ^ k) : m.log2 ≤ k :=
  log2_le_of_lt (Nat.lt_of_le_of_lt h (Nat.pow_lt_pow_right (by decide) (Nat.lt_succ_self k)))

lemma Canonical.log2_le {m : Nat} {e : Int} (h : Canonical m e) : m.log2 ≤ 52 := log2_le_of_lt h.lt

lemma div_two_pow_lt {m k : Nat} (h : m < 2 ^ k) (j : Nat) : m / 2 ^ j < 2 ^ (k - j) := by
  rw [Nat.div_lt_iff_lt_mul (Nat.two_pow_pos j), ← Nat.pow_add]
  exact Nat.lt_of_lt_of_le h (Nat.pow_le_pow_right (by decide) (by omega))

/-- Rounding shifts twice, the second time for a carry. -/
lemma fits_of_exponent_le (s : Sign) {m : Nat} {e : Int} {a : Accuracy}
    (h : (shiftToTargetExponent .binary64
      (shiftToTargetExponent .binary64 m e a).1.roundedMantissa
      (shiftToTargetExponent .binary64 m e a).2 .exact).2 ≤ 971) :
    Fits (roundWithAccuracy .binary64 s m e a) := by
  unfold roundWithAccuracy
  dsimp only
  generalize shiftToTargetExponent .binary64 _ _ .exact = x at h ⊢
  by_cases hzero : x.1.mantissa = 0
  · rw [dif_pos hzero]
    trivial
  · rw [dif_neg hzero]
    exact h

/-- Rounding leaves the exponent in range if the number stays below the largest power of two. -/
lemma fits_of_lt (s : Sign) {m k : Nat} {e : Int} (a : Accuracy) (hm : m < 2 ^ k)
    (htotal : k + e ≤ 1023) (he : e ≤ 971) : Fits (roundWithAccuracy .binary64 s m e a) := by
  have hlog : m.log2 ≤ k := log2_le_of_le (Nat.le_of_lt hm)
  have hrounded := roundedMantissa_le (shiftToTargetExponent .binary64 m e a).1
  rw [mantissa_shiftToTargetExponent, targetExponent_eq] at hrounded
  have hlog' := log2_le_of_le (Nat.le_trans hrounded (div_two_pow_lt hm _))
  refine fits_of_exponent_le s ?_
  rw [exponent_shiftToTargetExponent, exponent_shiftToTargetExponent]
  omega

lemma log2_mul_two_pow {m : Nat} (hm : 0 < m) (k : Nat) : (m * 2 ^ k).log2 = m.log2 + k := by
  have hne : m ≠ 0 := Nat.ne_of_gt hm
  have hne' : m * 2 ^ k ≠ 0 := Nat.mul_ne_zero hne (Nat.ne_of_gt (Nat.two_pow_pos k))
  refine (Nat.log2_eq_iff hne').mpr ⟨?_, ?_⟩
  · rw [Nat.pow_add]
    exact Nat.mul_le_mul_right _ (Nat.log2_self_le hne)
  · rw [Nat.add_right_comm, Nat.pow_add]
    exact Nat.mul_lt_mul_of_pos_right Nat.lt_log2_self (Nat.two_pow_pos k)

/-- A mantissa that is only shifted is not changed by rounding. -/
lemma fits_of_shifted (s : Sign) {m : Nat} {e : Int} (hm : 0 < m) (h : Canonical m e) :
    Fits (roundWithAccuracy .binary64 s (m * 2 ^ 52) (e - 52) .exact) := by
  have hlog := h.log2_le
  have htarget : Format.binary64.targetExponent (totalExponent (m * 2 ^ 52) (e - 52)) = e := by
    rw [targetExponent_eq, log2_mul_two_pow hm]
    rcases h.normal with ⟨hnormal, he⟩ | he
    · have := (Nat.le_log2 (Nat.ne_of_gt hm)).mpr hnormal
      omega
    · omega
  have hfirst : shiftToTargetExponent .binary64 (m * 2 ^ 52) (e - 52) .exact =
      (ExtendedMantissa.mk m false false, e) := by
    have hshift : (e - (e - 52)).toNat = 52 := by omega
    unfold shiftToTargetExponent shiftToExponent
    dsimp only
    rw [htarget, hshift]
    exact Prod.ext (shiftRight_exact m 52) (by dsimp only; omega)
  have hrounded : (ExtendedMantissa.mk m false false).roundedMantissa = m := rfl
  have he := h.le
  have hmin : -1074 ≤ e := by
    rcases h.normal with ⟨-, he⟩ | he <;> omega
  refine fits_of_exponent_le s ?_
  rw [hfirst, hrounded, exponent_shiftToTargetExponent]
  omega

/-! ### Products and quotients -/

section
variable {u : UnpackedFloat} {s : Sign} {m : Nat} {e : Int}

/-- Plus or minus one times a number. -/
lemma fits_unit_mul (hu : Held u) :
    Fits (UnpackedFloat.mul .binary64 (.finite s (2 ^ 52) (-52) (by decide)) u) := by
  cases u with
  | zero => trivial
  | finite s' m' e' hm' =>
    have h := fits_of_shifted (s * s') hm' hu
    rw [Nat.mul_comm, Int.sub_eq_add_neg, Int.add_comm] at h
    exact h
  | _ => cases hu

lemma fits_mul_unit (hu : Held u) :
    Fits (UnpackedFloat.mul .binary64 u (.finite s (2 ^ 52) (-52) (by decide))) := by
  cases u with
  | zero => trivial
  | finite s' m' e' hm' => exact fits_of_shifted (s' * s) hm' hu
  | _ => cases hu

/-- A number times one that is less than a half. -/
lemma fits_mul (hu : Held u) (hm : 0 < m) (hlt : m < 2 ^ 53) (he : e ≤ -54) :
    Fits (UnpackedFloat.mul .binary64 u (.finite s m e hm)) := by
  cases u with
  | zero => trivial
  | finite s' m' e' hm' =>
    have hu : Canonical m' e' := hu
    have hproduct : m' * m < 2 ^ 53 * 2 ^ 53 := Nat.mul_lt_mul'' hu.lt hlt
    have hmax := hu.le
    exact fits_of_lt (k := 106) (s' * s) .exact (by simpa using hproduct) (by omega) (by omega)
  | _ => cases hu

/-- A number divided by one that is more than two. -/
lemma fits_div (hu : Held u) (hm : 0 < m) (hge : 2 ^ 52 ≤ m) (he : -51 ≤ e) :
    Fits (UnpackedFloat.div .binary64 u (.finite s m e hm)) := by
  cases u with
  | zero => trivial
  | finite s' m' e' hm' =>
    have hu : Canonical m' e' := hu
    have hmax := hu.le
    unfold UnpackedFloat.div divCore
    dsimp only
    have htarget :
        Format.binary64.targetExponent (totalExponent m' e' - totalExponent m e) ≤ 971 := by
      have hlog := hu.log2_le
      have hlog' : 52 ≤ m.log2 := (Nat.le_log2 (Nat.ne_of_gt hm)).mpr hge
      have hbits : (Format.binary64.mantissaBits : Int) = 53 := rfl
      have hmin : Format.binary64.minExponent = -1074 := rfl
      unfold Format.targetExponent totalExponent
      rw [hbits, hmin]
      omega
    generalize hshift : (e' - e - min (e' - e)
      (Format.binary64.targetExponent (totalExponent m' e' - totalExponent m e))).toNat = shift
    refine fits_of_lt (k := shift + 1) (s' / s) _ ?_ (by omega) (by omega)
    rw [Nat.div_lt_iff_lt_mul hm, Nat.shiftLeft_eq]
    have hdividend : m' * 2 ^ shift < 2 ^ 53 * 2 ^ shift :=
      Nat.mul_lt_mul_of_pos_right hu.lt (Nat.two_pow_pos shift)
    have hdivisor : 2 ^ (shift + 1) * 2 ^ 52 ≤ 2 ^ (shift + 1) * m := Nat.mul_le_mul_left _ hge
    omega
  | _ => cases hu

end

section
variable {x : Float}

lemma isFinite_neg (h : x.isFinite) : (-x).isFinite := by
  refine isFinite_pack (u := x.toModel.unpack.neg) ?_
  have hx := (held_unpack h).fits
  generalize x.toModel.unpack = u at hx ⊢
  cases u <;> exact hx

lemma isFinite_div_hundred (h : x.isFinite) : (x / 100).isFinite := by
  have hundred : (100 : Float).toModel.unpack =
      .finite .positive (25 * 2 ^ 48) (-46) (by decide) := rfl
  refine isFinite_pack (u := UnpackedFloat.div .binary64 x.toModel.unpack _) ?_
  rw [hundred]
  exact fits_div (held_unpack h) _ (by decide) (by decide)

lemma isFinite_one_mul (h : x.isFinite) : (1 * x).isFinite :=
  isFinite_pack (fits_unit_mul (s := .positive) (held_unpack h))

lemma isFinite_neg_one_mul (h : x.isFinite) : (-1 * x).isFinite :=
  isFinite_pack (fits_unit_mul (s := .negative) (held_unpack h))

lemma isFinite_mul_one (h : x.isFinite) : (x * 1).isFinite :=
  isFinite_pack (fits_mul_unit (s := .positive) (held_unpack h))

lemma isFinite_mul_hundredth (h : x.isFinite) : (x * 0.01).isFinite := by
  have hundredth : (0.01 : Float).toModel.unpack =
      .finite .positive 5764607523034235 (-59) (by decide) := rfl
  refine isFinite_pack (u := UnpackedFloat.mul .binary64 x.toModel.unpack _) ?_
  rw [hundredth]
  exact fits_mul (held_unpack h) _ (by decide) (by decide)

lemma fits_round (s : Sign) {m k : Nat} (hm : m < 2 ^ k) (hk : k ≤ 1023) :
    Fits (UnpackedFloat.round .binary64 s m 0) := by
  unfold UnpackedFloat.round decreaseExponent
  rw [targetExponent_eq]
  dsimp only
  refine fits_of_lt (k := k + (0 - max ((m.log2 : Int) + 0 - 52) (-1074)).toNat) s .exact ?_ ?_ ?_
  · rw [Nat.shiftLeft_eq, Nat.pow_add]
    exact Nat.mul_lt_mul_of_pos_right hm (Nat.two_pow_pos _)
  · omega
  · omega

lemma isFinite_toFloat (n : UInt64) : n.toFloat.isFinite := by
  refine isFinite_pack (u := UnpackedFloat.ofUInt64 .binary64 n) ?_
  unfold UnpackedFloat.ofUInt64 UnpackedFloat.ofNat UnpackedFloat.ofInt UnpackedFloat.normalize
  have hn : n.toNat < 2 ^ 64 := n.toNat_lt
  split
  · rename_i hlt
    have := Int.compare_eq_lt.mp hlt
    omega
  · trivial
  · rw [Int.toNat_natCast]
    exact fits_round .positive hn (by decide)

lemma isFinite_ofNat {n : Nat} (h : n < 2 ^ 53) : (Float.ofNat n).isFinite := by
  have hn : Float.ofNat n = n.toUInt64.toFloat * 1 := dif_pos ⟨h, by decide⟩
  rw [hn]
  exact isFinite_mul_one (isFinite_toFloat _)

end

end Binary64

open Binary64

lemma isFinite_scaled {x : Float} (h : x.isFinite) (negative percent : Bool) :
    ((if negative then -1 else 1) * x * (if percent then 0.01 else 1)).isFinite := by
  have hsigned : ((if negative then -1 else 1) * x).isFinite := by
    cases negative
    · exact isFinite_one_mul h
    · exact isFinite_neg_one_mul h
  cases percent
  · exact isFinite_mul_one hsigned
  · exact isFinite_mul_hundredth hsigned

/-- Text never reads as an infinite number or as none. -/
theorem Number.isFinite_of_ofText? {s : String} {x : Float} (h : Number.ofText? s = some x) :
    x.isFinite := by
  unfold Number.ofText? at h
  obtain ⟨digits, -, h⟩ := Option.bind_eq_some_iff.mp h
  obtain ⟨y, -, h⟩ := Option.bind_eq_some_iff.mp h
  by_cases hy : y.isFinite
  · rw [if_pos hy] at h
    rw [← Option.some.inj h]
    exact isFinite_scaled hy _ _
  · rw [if_neg hy] at h
    cases h

end Spreadsheet
