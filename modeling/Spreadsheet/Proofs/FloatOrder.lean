import Mathlib
import Spreadsheet.Value.Compare

/-!
Floating-point numbers with their sides swapped.

Distances, magnitudes and the order of numbers do not depend on which number is named first. This is
read off numbers unpacked into a sign, a mantissa and an exponent of two: a difference the other way
round has the same mantissa and exponent, and of two magnitudes that are not the same exactly one is
the larger.
-/

namespace Spreadsheet

namespace Binary64

open Float.Model Float.Model.UnpackedFloat

variable {u v : UnpackedFloat} {x y : Float}

/-! ### Order -/

lemma compare_swap (u v : UnpackedFloat) : v.compare u = (u.compare v).map Ordering.swap := by
  cases u with
  | notANumber => cases v <;> rfl
  | infinity s =>
    cases v with
    | infinity t | finite t => cases s <;> cases t <;> rfl
    | notANumber | zero => cases s <;> rfl
  | zero s =>
    cases v with
    | infinity t | finite t => cases t <;> rfl
    | notANumber | zero => rfl
  | finite s m e hm =>
    cases v with
    | infinity t => cases s <;> cases t <;> rfl
    | notANumber | zero => cases s <;> rfl
    | finite t n f hn =>
      have hmagnitude : (compare f e).then (compare n m) =
          ((compare e f).then (compare m n)).swap := by
        rw [Ordering.swap_then, ← Std.OrientedOrd.eq_swap, ← Std.OrientedOrd.eq_swap]
      cases s <;> cases t
      · simp only [UnpackedFloat.compare, hmagnitude, Option.map_some]
      · rfl
      · rfl
      · exact congrArg some hmagnitude

/-- Only what is no number cannot be compared. -/
lemma compare_eq_none : u.compare v = none ↔ u.isNaN ∨ v.isNaN := by
  cases u <;> cases v <;> simp [UnpackedFloat.compare, UnpackedFloat.isNaN] <;> split <;> simp_all

/-- Magnitudes that are compared as equal are the same. -/
lemma abs_eq_abs_of_compare (h : u.abs.compare v.abs = some .eq) : u.abs = v.abs := by
  obtain ⟨-, -, h | ⟨-, h⟩ | ⟨h, -⟩⟩ := (beq_iff_ne_notANumber_and_eq _ _).mp (beq_iff_eq.mpr h)
  · exact h
  · cases v <;> cases h
  · cases u <;> cases h

lemma unpack_inj : x.toModel.unpack = y.toModel.unpack ↔ x = y := by
  rw [← Float.toBits_inj, ← UInt64.toBitVec_inj]
  exact unpack_inj_of_valid x.toModel.valid y.toModel.valid

lemma lt_iff : x < y ↔ x.toModel.unpack.compare y.toModel.unpack = some .lt := by
  change decide (x.toModel < y.toModel) = true ↔ _
  rw [decide_eq_true_iff]
  exact beq_iff_eq

lemma le_iff : x ≤ y ↔ (x.toModel.unpack.compare y.toModel.unpack).any (·.isLE) := by
  change decide (x.toModel ≤ y.toModel) = true ↔ _
  rw [decide_eq_true_iff]
  rfl

lemma lt_asymm (h : x < y) : ¬ y < x := by
  rw [lt_iff] at h ⊢
  rw [compare_swap, h]
  nofun

lemma not_le_of_isNaN (h : x.isNaN ∨ y.isNaN) : ¬ x ≤ y := by
  rw [le_iff, compare_eq_none.mpr h]
  nofun

lemma le_total (hx : ¬ x.isNaN) (hy : ¬ y.isNaN) : x ≤ y ∨ y ≤ x := by
  rw [le_iff, le_iff, compare_swap x.toModel.unpack]
  rcases hxy : x.toModel.unpack.compare y.toModel.unpack with _ | _ | _ | _
  · exact absurd (compare_eq_none.mp hxy) (not_or_intro hx hy)
  · exact .inl rfl
  · exact .inl rfl
  · exact .inr rfl

lemma compare_of_le_of_le (hxy : x ≤ y) (hyx : y ≤ x) :
    x.toModel.unpack.compare y.toModel.unpack = some .eq := by
  rw [le_iff] at hxy hyx
  rw [compare_swap x.toModel.unpack] at hyx
  generalize x.toModel.unpack.compare y.toModel.unpack = o at hxy hyx ⊢
  rcases o with _ | _ | _ | _
  · cases hxy
  · cases hyx
  · rfl
  · cases hxy

/-! ### Packed signs -/

section
variable {b b' : BitVec 64}

/-- The sign bit is all that a magnitude does not depend on. -/
lemma abs_unpack_congr (he : @unpackExponent .binary64 b = @unpackExponent .binary64 b')
    (hm : @unpackMantissa .binary64 b = @unpackMantissa .binary64 b') :
    (unpack .binary64 b).abs = (unpack .binary64 b').abs := by
  unfold UnpackedFloat.unpack
  simp only [he, hm]
  split_ifs <;> rfl

lemma abs_unpack_of_unpackSign (h : @unpackSign .binary64 b = 0#1) :
    (unpack .binary64 b).abs = unpack .binary64 b := by
  unfold UnpackedFloat.unpack
  simp only [h]
  split_ifs <;> rfl

end

lemma abs_unpack_packComponents (s t : Sign) (e : BitVec 11) (m : BitVec 52) :
    (unpack .binary64 (packComponents .binary64 s e m)).abs =
      (unpack .binary64 (packComponents .binary64 t e m)).abs := by
  apply abs_unpack_congr
  · rw [unpackExponent_packComponents, unpackExponent_packComponents]
  · rw [unpackMantissa_packComponents, unpackMantissa_packComponents]

/-- Numbers that differ in their signs are still so when they are packed. -/
lemma abs_unpack_pack (h : u.abs = v.abs) :
    (unpack .binary64 (UnpackedFloat.pack .binary64 u)).abs =
      (unpack .binary64 (UnpackedFloat.pack .binary64 v)).abs := by
  cases u <;> cases v <;> cases h
  · exact abs_unpack_packComponents ..
  · rfl
  · exact abs_unpack_packComponents ..
  · unfold UnpackedFloat.pack
    dsimp only
    split_ifs <;> exact abs_unpack_packComponents ..

lemma unpackSign_pack_abs (u : UnpackedFloat) :
    @unpackSign .binary64 (UnpackedFloat.pack .binary64 u.abs) = 0#1 := by
  cases u with
  | finite s m e hm =>
    unfold UnpackedFloat.abs UnpackedFloat.pack
    dsimp only
    split_ifs <;> exact unpackSign_packComponents ..
  | _ => exact unpackSign_packComponents ..

/-- A packed magnitude is one. -/
lemma abs_unpack_abs (x : Float) : x.abs.toModel.unpack.abs = x.abs.toModel.unpack :=
  abs_unpack_of_unpackSign (unpackSign_pack_abs x.toModel.unpack)

/-! ### Distances -/

lemma abs_roundWithAccuracy (s t : Sign) (m : Nat) (e : Int) (a : Accuracy) :
    (roundWithAccuracy .binary64 s m e a).abs = (roundWithAccuracy .binary64 t m e a).abs := by
  unfold roundWithAccuracy
  dsimp only
  split_ifs <;> rfl

lemma abs_normalize_neg (m e : Int) :
    (UnpackedFloat.normalize .binary64 (-m) e .positive).abs =
      (UnpackedFloat.normalize .binary64 m e .positive).abs := by
  unfold UnpackedFloat.normalize
  rcases Int.lt_trichotomy m 0 with h | rfl | h
  · rw [Int.compare_eq_lt.mpr h, Int.compare_eq_gt.mpr (by omega)]
    exact abs_roundWithAccuracy ..
  · rfl
  · rw [Int.compare_eq_gt.mpr h, Int.compare_eq_lt.mpr (by omega), Int.neg_neg]
    exact abs_roundWithAccuracy ..

lemma abs_sub (u v : UnpackedFloat) :
    (UnpackedFloat.sub .binary64 u v).abs = (UnpackedFloat.sub .binary64 v u).abs := by
  cases u with
  | notANumber => cases v <;> rfl
  | infinity s =>
    cases v with
    | infinity t => cases s <;> cases t <;> rfl
    | _ => rfl
  | zero s =>
    cases v with
    | zero t => cases s <;> cases t <;> rfl
    | _ => rfl
  | finite s m e hm =>
    cases v with
    | finite t n f hn =>
      unfold UnpackedFloat.sub
      dsimp only
      rw [← abs_normalize_neg, Int.neg_sub, Int.min_comm e f]
    | _ => rfl

/-- **A distance is the same both ways.** -/
theorem abs_sub_comm (x y : Float) : (x - y).abs = (y - x).abs :=
  congrArg (fun u => Float.ofModel (Float.Model.pack u))
    (abs_unpack_pack (abs_sub x.toModel.unpack y.toModel.unpack))

end Binary64

open Binary64

namespace Number

variable {x y : Float}

lemma larger_of_isNaN (h : x.isNaN) : larger x y = y := by
  rw [larger, h, Bool.true_or, if_pos rfl]

lemma larger_of_le (h : x ≤ y) : larger x y = y := by
  rw [larger, decide_eq_true h, Bool.or_true, if_pos rfl]

lemma larger_of_not_le (hx : ¬ x.isNaN) (h : ¬ x ≤ y) : larger x y = x := by
  rw [larger, eq_false_of_ne_true hx, decide_eq_false h, Bool.false_or, if_neg Bool.false_ne_true]

/-- The larger of two magnitudes is the same both ways. -/
lemma larger_comm (hx : x.toModel.unpack.abs = x.toModel.unpack)
    (hy : y.toModel.unpack.abs = y.toModel.unpack) : larger x y = larger y x := by
  by_cases hxnan : x.isNaN <;> by_cases hynan : y.isNaN
  · rw [larger_of_isNaN hxnan, larger_of_isNaN hynan]
    rw [Float.isNaN_eq_decide_eq_nan, decide_eq_true_iff] at hxnan hynan
    rw [hxnan, hynan]
  · rw [larger_of_isNaN hxnan, larger_of_not_le hynan (not_le_of_isNaN (.inr hxnan))]
  · rw [larger_of_isNaN hynan, larger_of_not_le hxnan (not_le_of_isNaN (.inr hynan))]
  · by_cases hxy : x ≤ y <;> by_cases hyx : y ≤ x
    · have heq := compare_of_le_of_le hxy hyx
      rw [← hx, ← hy] at heq
      rw [larger_of_le hxy, larger_of_le hyx, ← unpack_inj, ← hx, ← hy, abs_eq_abs_of_compare heq]
    · rw [larger_of_le hxy, larger_of_not_le hynan hyx]
    · rw [larger_of_not_le hxnan hxy, larger_of_le hyx]
    · exact absurd (le_total hxnan hynan) (not_or_intro hxy hyx)

/-- To be near each other is mutual. -/
lemma near_comm (epsilon x y : Float) : near epsilon x y = near epsilon y x := by
  rw [near, near, BEq.comm, abs_sub_comm, larger_comm (abs_unpack_abs x) (abs_unpack_abs y)]

/-- **The order of numbers is mirrored** when their sides are swapped. -/
theorem compare_swap (epsilon x y : Float) :
    compare epsilon y x = (compare epsilon x y).swap := by
  unfold compare
  rw [near_comm]
  split_ifs with hnear hyx hxy
  · rfl
  · exact absurd hxy (lt_asymm hyx)
  all_goals rfl

end Number

end Spreadsheet
