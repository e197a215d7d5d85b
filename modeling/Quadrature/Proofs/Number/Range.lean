/-
# Quadrature.Proofs.Number.Range -- whole numbers as doubles and doubles as whole numbers

A number is rounded to a double by cutting its binary digits: the mantissa keeps 53 of them, and the
digits that are left out decide whether it is raised by one (`roundedAt`). The greatest finite double
has 53 ones, so that from half a unit beyond it on a number is raised to one more digit, for which
there is no exponent left.

* `roundWithAccuracy_eq`, `isFinite_rounded`: what a number is rounded to, and when that is finite;
* `ofInt?_eq_none_iff`, `isFinite_ofInt?`: the whole numbers that have no double, and the doubles of
  the others;
* `toInt?_pos`: a double without fraction that is not less than one is a number above zero.
-/
import Mathlib
import Quadrature.Number.Double

namespace Quadrature.Number

set_option autoImplicit false

open Float.Model (Format UnpackedFloat totalExponent)
open Float.Model.UnpackedFloat

namespace Double

/-! ## Finite doubles -/

theorem isFinite_iff_exponent (x : Float) : x.isFinite = true ↔
    @unpackExponent .binary64 x.toModel.toBits.toBitVec ≠ -1#_ := by
  unfold Float.isFinite Float.Model.isFinite Float.Model.unpack UnpackedFloat.unpack
  dsimp only
  repeat' split
  all_goals simp_all [UnpackedFloat.isFinite]

/-- A number that is packed is finite if its exponent is in the range of doubles. -/
theorem isFinite_pack {s : Sign} {m : Nat} {e : Int} (pos : 0 < m) :
    (Float.ofModel (.pack (.finite s m e pos))).isFinite = true ↔ e ≤ 971 := by
  have biased : (e + Format.binary64.exponentBias +
      Format.binary64.mantissaBitsWithoutImplicit).toNat = (e + 1075).toNat := by
    show (e + (2 ^ (11 - 1) - 1 : Nat) + (52 : Nat)).toNat = (e + 1075).toNat
    omega
  rw [isFinite_iff_exponent]
  show @unpackExponent .binary64 (UnpackedFloat.pack .binary64 (.finite s m e pos)) ≠ _ ↔ _
  unfold UnpackedFloat.pack
  dsimp only
  rw [biased]
  split
  case isTrue large =>
    rw [packedInfinity, unpackExponent_packComponents]
    refine iff_of_false (by simp) ?_
    omega
  case isFalse small =>
    refine iff_of_true ?_ (by omega)
    split
    · rw [unpackExponent_packComponents]
      intro ones
      have value := congrArg BitVec.toNat ones
      rw [BitVec.toNat_ofNat] at value
      simp only [BitVec.reduceNeg, BitVec.toNat_ofNat, Nat.reducePow, Nat.reduceMod] at value
      omega
    · rw [unpackExponent_packComponents]
      decide

/-- The mantissa and the exponent of a finite double other than zero: the mantissa has 53 digits, or
fewer at the least exponent. -/
theorem unpack_bounds {x : Float} {s : Sign} {m : Nat} {e : Int} {pos : 0 < m}
    (unpacked : x.toModel.unpack = .finite s m e pos) :
    m < 2 ^ 53 ∧ -1074 ≤ e ∧ (2 ^ 52 ≤ m ∨ e = -1074) ∧ e ≤ 971 := by
  have short : (@unpackMantissa .binary64 x.toModel.toBits.toBitVec).toNat < 2 ^ 52 :=
    BitVec.isLt _
  have wide : (@unpackExponent .binary64 x.toModel.toBits.toBitVec).toNat < 2 ^ 11 :=
    BitVec.isLt _
  have offset : ((Format.binary64.exponentBias : Int) +
      Format.binary64.mantissaBitsWithoutImplicit) = 1075 := rfl
  unfold Float.Model.unpack UnpackedFloat.unpack at unpacked
  dsimp only at unpacked
  rw [offset] at unpacked
  split at unpacked
  case isTrue => split at unpacked <;> cases unpacked
  case isFalse below =>
    split at unpacked
    case isTrue least =>
      split at unpacked
      · cases unpacked
      · cases unpacked
        rw [least]
        exact ⟨by omega, by decide, .inr rfl, by decide⟩
    case isFalse above =>
      cases unpacked
      have other : (@unpackExponent .binary64 x.toModel.toBits.toBitVec).toNat ≠ 2047 :=
        fun equal => below (BitVec.eq_of_toNat_eq equal)
      have some : (@unpackExponent .binary64 x.toModel.toBits.toBitVec).toNat ≠ 0 :=
        fun equal => above (BitVec.eq_of_toNat_eq equal)
      have leading : (1#1 ++ @unpackMantissa .binary64 x.toModel.toBits.toBitVec).toNat =
          2 ^ 52 + (@unpackMantissa .binary64 x.toModel.toBits.toBitVec).toNat := by
        rw [BitVec.toNat_append, ← Nat.shiftLeft_add_eq_or_of_lt short]
        rfl
      rw [leading]
      omega

/-! ## Cutting digits -/

theorem shift_mantissa (em : ExtendedMantissa) (k : Nat) :
    (em >>> k).mantissa = em.mantissa / 2 ^ k := by
  induction k with
  | zero => simp [HShiftRight.hShiftRight, Nat.repeat]
  | succ k ih =>
      show (em >>> k).mantissa / 2 = _
      rw [ih, Nat.div_div_eq_div_mul, Nat.pow_succ]

/-- The number that begins with `m` and goes on as the accuracy says, without the last `k` binary
digits of `m`, rounded. -/
def roundedFrom (m : Nat) (accuracy : Accuracy) (k : Nat) : Nat :=
  (ExtendedMantissa.ofMantissaAndAccuracy m accuracy >>> k).roundedMantissa

/-- The number `m` without its last `k` binary digits, rounded. -/
def roundedAt (m k : Nat) : Nat := roundedFrom m .exact k

theorem ofMantissaAndAccuracy_mantissa (m : Nat) (accuracy : Accuracy) :
    (ExtendedMantissa.ofMantissaAndAccuracy m accuracy).mantissa = m := by
  unfold ExtendedMantissa.ofMantissaAndAccuracy
  split <;> rfl

theorem roundedFrom_bounds (m : Nat) (accuracy : Accuracy) (k : Nat) :
    m / 2 ^ k ≤ roundedFrom m accuracy k ∧ roundedFrom m accuracy k ≤ m / 2 ^ k + 1 := by
  have quotient := shift_mantissa (.ofMantissaAndAccuracy m accuracy) k
  rw [ofMantissaAndAccuracy_mantissa] at quotient
  unfold roundedFrom
  rw [← quotient]
  rcases ExtendedMantissa.ofMantissaAndAccuracy m accuracy >>> k with ⟨q, round, sticky⟩
  cases round <;> cases sticky <;>
    simp [ExtendedMantissa.roundedMantissa, ExtendedMantissa.accuracy, Accuracy.roundToNearestEven]
  omega

theorem roundedAt_bounds (m k : Nat) :
    m / 2 ^ k ≤ roundedAt m k ∧ roundedAt m k ≤ m / 2 ^ k + 1 :=
  roundedFrom_bounds m .exact k

/-- An odd number is raised exactly if the first digit that is left out is one: a tie goes to the even
side. -/
theorem roundedAt_odd {m k : Nat} (odd : m / 2 ^ (k + 1) % 2 = 1) :
    roundedAt m (k + 1) = m / 2 ^ (k + 1) + m / 2 ^ k % 2 := by
  have quotient := shift_mantissa ⟨m, false, false⟩ (k + 1)
  have digit : (ExtendedMantissa.mk m false false >>> (k + 1)).roundBit =
      (m / 2 ^ k % 2 != 0) := by
    show ((ExtendedMantissa.mk m false false >>> k).mantissa % 2 != 0) = _
    rw [shift_mantissa]
  unfold roundedAt roundedFrom ExtendedMantissa.ofMantissaAndAccuracy
  dsimp only
  rcases shifted : ExtendedMantissa.mk m false false >>> (k + 1) with ⟨q, round, sticky⟩
  rw [shifted] at quotient digit
  obtain rfl : q = m / 2 ^ (k + 1) := quotient
  obtain rfl : round = (m / 2 ^ k % 2 != 0) := digit
  rcases Nat.mod_two_eq_zero_or_one (m / 2 ^ k) with zero | one
  · cases sticky <;>
      simp [ExtendedMantissa.roundedMantissa, ExtendedMantissa.accuracy,
        Accuracy.roundToNearestEven, zero]
  · cases sticky <;>
      simp [ExtendedMantissa.roundedMantissa, ExtendedMantissa.accuracy,
        Accuracy.roundToNearestEven, one, odd]

/-- Nothing is raised where only zeros are left out. -/
theorem roundedAt_exact {m k : Nat} (exact : 2 ^ k ∣ m) : roundedAt m k = m / 2 ^ k := by
  have shifted : ExtendedMantissa.mk m false false >>> k = ⟨m / 2 ^ k, false, false⟩ := by
    induction k with
    | zero => simp [HShiftRight.hShiftRight, Nat.repeat]
    | succ k ih =>
        have even : m / 2 ^ k % 2 = 0 := by
          obtain ⟨c, rfl⟩ := exact
          rw [Nat.pow_succ, Nat.mul_assoc, Nat.mul_div_cancel_left _ (Nat.two_pow_pos k)]
          omega
        show (ExtendedMantissa.mk m false false >>> k).shiftRightOne = _
        rw [ih (Nat.dvd_trans (Nat.pow_dvd_pow 2 (Nat.le_succ k)) exact)]
        simp [ExtendedMantissa.shiftRightOne, even, Nat.div_div_eq_div_mul, Nat.pow_succ]
  show (ExtendedMantissa.mk m false false >>> k).roundedMantissa = _
  rw [shifted]
  rfl

theorem div_two_pow_lt_of_log2 {n k j : Nat} (short : n.log2 < j + k) : n / 2 ^ k < 2 ^ j := by
  rw [Nat.div_lt_iff_lt_mul (Nat.two_pow_pos k), ← Nat.pow_add]
  exact Nat.lt_of_lt_of_le Nat.lt_log2_self (Nat.pow_le_pow_right (by decide) short)

theorem mul_div_two_pow (n k j : Nat) : n * 2 ^ j / 2 ^ (k + j) = n / 2 ^ k := by
  rw [Nat.pow_add, Nat.mul_div_mul_right _ _ (Nat.two_pow_pos j)]

theorem mul_div_two_pow_succ (n k j : Nat) :
    n * 2 ^ j / 2 ^ (k + j + 1) = n / 2 ^ k / 2 := by
  rw [Nat.pow_succ, ← Nat.div_div_eq_div_mul, mul_div_two_pow]

theorem log2_mul_two_pow {m : Nat} (pos : 0 < m) (k : Nat) : (m * 2 ^ k).log2 = m.log2 + k := by
  have positive : 0 < m * 2 ^ k := Nat.mul_pos pos (Nat.two_pow_pos k)
  refine (Nat.log2_eq_iff (Nat.ne_of_gt positive)).2 ⟨?_, ?_⟩
  · rw [Nat.pow_add]
    exact Nat.mul_le_mul_right _ (Nat.log2_self_le (Nat.ne_of_gt pos))
  · rw [Nat.add_right_comm, Nat.pow_add]
    exact Nat.mul_lt_mul_of_pos_right Nat.lt_log2_self (Nat.two_pow_pos k)

/-! ## Rounding -/

/-- The exponent that `m · 2 ^ e` is rounded at. -/
def roundingExponent (m : Nat) (e : Int) : Int := max (m.log2 + e - 52) (-1074)

theorem targetExponent_eq (m : Nat) (e : Int) :
    Format.binary64.targetExponent (totalExponent m e) = roundingExponent m e := by
  simp only [Format.targetExponent, totalExponent, Format.mantissaBits, Format.minExponent,
    roundingExponent]
  omega

theorem shiftToTarget_eq (m : Nat) (e : Int) (accuracy : Accuracy) :
    shiftToTargetExponent .binary64 m e accuracy =
      (ExtendedMantissa.ofMantissaAndAccuracy m accuracy >>> (roundingExponent m e - e).toNat,
        e + (roundingExponent m e - e).toNat) := by
  unfold shiftToTargetExponent shiftToExponent
  dsimp only
  rw [targetExponent_eq]

/-- A mantissa that fits is not cut again. -/
theorem shiftToTarget_of_lt {m : Nat} {e : Int} (fits : m < 2 ^ 53) (least : -1074 ≤ e) :
    shiftToTargetExponent .binary64 m e .exact = (⟨m, false, false⟩, e) := by
  have short : m.log2 ≤ 52 := by
    by_cases zero : m = 0
    · simp [zero]
    · have := (Nat.log2_lt zero).2 fits
      omega
  have still : (roundingExponent m e - e).toNat = 0 := by
    unfold roundingExponent
    omega
  rw [shiftToTarget_eq, still]
  simp [HShiftRight.hShiftRight, Nat.repeat, ExtendedMantissa.ofMantissaAndAccuracy]

/-- A mantissa that was raised to one more digit loses a zero. -/
theorem shiftToTarget_carry {e : Int} (least : -1074 ≤ e) :
    shiftToTargetExponent .binary64 (2 ^ 53) e .exact = (⟨2 ^ 52, false, false⟩, e + 1) := by
  have once : (roundingExponent (2 ^ 53) e - e).toNat = 1 := by
    unfold roundingExponent
    rw [Nat.log2_two_pow]
    omega
  rw [shiftToTarget_eq, once]
  rfl

theorem div_two_pow_lt {m : Nat} {e : Int} :
    m / 2 ^ (roundingExponent m e - e).toNat < 2 ^ 53 := by
  apply div_two_pow_lt_of_log2
  unfold roundingExponent
  omega

/-- What a number is rounded to that goes on behind its digits. -/
theorem roundWithAccuracy_from {s : Sign} {m : Nat} {e : Int} (accuracy : Accuracy)
    (low : e ≤ roundingExponent m e) :
    roundWithAccuracy .binary64 s m e accuracy =
      if h : roundedFrom m accuracy (roundingExponent m e - e).toNat = 0 then .zero s
      else if roundedFrom m accuracy (roundingExponent m e - e).toNat < 2 ^ 53 then
        .finite s (roundedFrom m accuracy (roundingExponent m e - e).toNat) (roundingExponent m e)
          (Nat.pos_of_ne_zero h)
      else .finite s (2 ^ 52) (roundingExponent m e + 1) (by decide) := by
  have least : -1074 ≤ roundingExponent m e := by
    unfold roundingExponent
    omega
  have exponent : e + ((roundingExponent m e - e).toNat : Int) = roundingExponent m e := by omega
  have upper := (roundedFrom_bounds m accuracy (roundingExponent m e - e).toNat).2
  have fits := @div_two_pow_lt m e
  unfold roundWithAccuracy
  rw [shiftToTarget_eq, exponent]
  dsimp only
  rw [show (ExtendedMantissa.ofMantissaAndAccuracy m accuracy >>>
    (roundingExponent m e - e).toNat).roundedMantissa =
      roundedFrom m accuracy (roundingExponent m e - e).toNat from rfl]
  generalize roundedFrom m accuracy (roundingExponent m e - e).toNat = r at *
  by_cases small : r < 2 ^ 53
  · rw [shiftToTarget_of_lt small least]
    simp only [small, if_true]
  · obtain rfl : r = 2 ^ 53 := by omega
    rw [shiftToTarget_carry least]
    rfl

/-- What a number is rounded to. -/
theorem roundWithAccuracy_eq {s : Sign} {m : Nat} {e : Int} (low : e ≤ roundingExponent m e) :
    roundWithAccuracy .binary64 s m e .exact =
      if h : roundedAt m (roundingExponent m e - e).toNat = 0 then .zero s
      else if roundedAt m (roundingExponent m e - e).toNat < 2 ^ 53 then
        .finite s (roundedAt m (roundingExponent m e - e).toNat) (roundingExponent m e)
          (Nat.pos_of_ne_zero h)
      else .finite s (2 ^ 52) (roundingExponent m e + 1) (by decide) :=
  roundWithAccuracy_from .exact low

/-- A number that is rounded stays finite unless its exponent leaves the range; at the greatest
exponent it must not be raised to one more digit. -/
theorem isFinite_rounded {s : Sign} {m : Nat} {e : Int} (pos : 0 < m)
    (low : e ≤ roundingExponent m e) :
    (Float.ofModel (.pack (roundWithAccuracy .binary64 s m e .exact))).isFinite = true ↔
      roundingExponent m e ≤ 970 ∨ roundingExponent m e = 971 ∧
        roundedAt m (roundingExponent m e - e).toNat < 2 ^ 53 := by
  rw [roundWithAccuracy_eq low]
  split
  case isTrue zero =>
    have vanished : m / 2 ^ (roundingExponent m e - e).toNat = 0 :=
      Nat.le_zero.1 (zero ▸ (roundedAt_bounds m _).1)
    have subnormal : roundingExponent m e = -1074 := by
      by_contra normal
      rw [Nat.div_eq_zero_iff_lt (Nat.two_pow_pos _)] at vanished
      have := (Nat.log2_lt (Nat.ne_of_gt pos)).2 vanished
      unfold roundingExponent at *
      omega
    refine iff_of_true ?_ (.inl (by omega))
    cases s <;> rfl
  case isFalse =>
    split
    case isTrue small =>
      rw [isFinite_pack]
      omega
    case isFalse carried =>
      rw [isFinite_pack]
      omega

/-! ## The doubles of whole numbers -/

/-- Multiplication by one leaves a finite double finite. -/
theorem isFinite_mul_one {x : Float} (finite : x.isFinite = true) :
    (x * Float.ofBits 0x3FF0000000000000).isFinite = true := by
  have one : (Float.ofBits 0x3FF0000000000000).toModel.unpack =
      .finite .positive (2 ^ 52) (-52) (by decide) := rfl
  show (Float.ofModel (.pack (UnpackedFloat.mul .binary64 x.toModel.unpack
    (Float.ofBits 0x3FF0000000000000).toModel.unpack))).isFinite = true
  rw [one]
  unfold Float.isFinite Float.Model.isFinite at finite
  cases unpacked : x.toModel.unpack with
  | notANumber => rw [unpacked] at finite; cases finite
  | infinity => rw [unpacked] at finite; cases finite
  | zero s => cases s <;> rfl
  | finite s m e pos =>
      obtain ⟨short, least, -, most⟩ := unpack_bounds unpacked
      have log := log2_mul_two_pow pos 52
      have digits := (Nat.log2_lt (Nat.ne_of_gt pos)).2 short
      show (Float.ofModel (.pack (roundWithAccuracy .binary64 (s * .positive) (m * 2 ^ 52)
        (e + -52) .exact))).isFinite = true
      rw [isFinite_rounded (by omega) (by unfold roundingExponent; omega), roundedAt_exact]
      · have := @div_two_pow_lt (m * 2 ^ 52) (e + -52)
        unfold roundingExponent at *
        omega
      · refine Nat.dvd_mul_left_of_dvd (Nat.pow_dvd_pow 2 ?_) m
        unfold roundingExponent
        omega

theorem isFinite_ofUInt64 (n : UInt64) : n.toFloat.isFinite = true := by
  show (Float.ofModel (.pack (UnpackedFloat.normalize .binary64 n.toNat 0 .positive))).isFinite = true
  unfold UnpackedFloat.normalize
  rcases Nat.eq_zero_or_pos n.toNat with zero | pos
  · rw [zero]
    rfl
  · have order : compare (n.toNat : Int) 0 = .gt := by
      rw [Int.compare_eq_gt]
      omega
    have log := log2_mul_two_pow pos (0 - roundingExponent n.toNat 0).toNat
    have digits := (Nat.log2_lt (Nat.ne_of_gt pos)).2 n.toNat_lt
    rw [order]
    show (Float.ofModel (.pack (round .binary64 .positive n.toNat 0))).isFinite = true
    unfold UnpackedFloat.round decreaseExponent
    dsimp only
    rw [targetExponent_eq, Nat.shiftLeft_eq, isFinite_rounded]
    · left
      unfold roundingExponent at *
      omega
    · exact Nat.mul_pos pos (Nat.two_pow_pos _)
    · unfold roundingExponent at *
      omega

/-- The double nearest to `n`, which is rounded with 53 zeros after it. -/
theorem isFinite_scaled {n : Nat} (pos : 0 < n) :
    (Float.ofModel (.pack (roundWithAccuracy .binary64 .positive (n * 2 ^ 53) (-53)
      .exact))).isFinite = true ↔ n < 2 ^ 1024 - 2 ^ 970 := by
  have log := log2_mul_two_pow pos 53
  have exponent : roundingExponent (n * 2 ^ 53) (-53) = n.log2 - 52 := by
    unfold roundingExponent
    omega
  have cut : (roundingExponent (n * 2 ^ 53) (-53) - -53).toNat = n.log2 + 1 := by omega
  have other : n ≠ 0 := Nat.ne_of_gt pos
  rw [isFinite_rounded (Nat.mul_pos pos (Nat.two_pow_pos 53)) (by omega), cut, exponent]
  rcases Nat.lt_trichotomy n.log2 1023 with small | edge | large
  · have below := (Nat.log2_lt other).1 small
    refine iff_of_true (.inl (by omega)) ?_
    omega
  · -- 54 digits are left before the last 970, and the last of the 54 decides
    have last : n.log2 + 1 = 970 + 53 + 1 := by omega
    have short := @div_two_pow_lt_of_log2 n 970 54 (by omega)
    have threshold : n < 2 ^ 1024 - 2 ^ 970 ↔ n / 2 ^ 970 < 2 ^ 54 - 1 := by omega
    have odd := @roundedAt_odd (n * 2 ^ 53) (970 + 53)
    have bounds := roundedAt_bounds (n * 2 ^ 53) (970 + 53 + 1)
    rw [mul_div_two_pow_succ n 970 53, mul_div_two_pow n 970 53] at odd
    rw [mul_div_two_pow_succ n 970 53] at bounds
    rw [last, threshold]
    omega
  · have above := (Nat.le_log2 other).1 large
    refine iff_of_false (by omega) ?_
    omega

theorem isFinite_ofDecimal (n : Nat) :
    (ofDecimal n 0).isFinite = true ↔ n < 2 ^ 1024 - 2 ^ 970 := by
  show (Float.ofScientific n false 0).isFinite = true ↔ _
  unfold Float.ofScientific
  split
  case isTrue small =>
    refine iff_of_true (isFinite_mul_one (isFinite_ofUInt64 _)) ?_
    omega
  case isFalse large =>
    rcases Nat.eq_zero_or_pos n with rfl | pos
    · exact absurd (by decide) large
    · rw [← isFinite_scaled pos]
      show (Float.ofModel (.pack (UnpackedFloat.ofScientific .binary64 n 0))).isFinite = true ↔ _
      unfold UnpackedFloat.ofScientific
      rw [dif_neg (by omega), if_neg (by decide), if_neg ?_, if_pos (by decide)]
      · have plus : Sign.positive * Sign.positive = .positive := rfl
        rw [UnpackedFloat.mul, plus, Nat.shiftLeft_eq, Int.toNat_zero, Nat.pow_zero, Nat.mul_one,
          Int.add_zero]
        rfl
      · show ¬ (0 : Int) < -(2 ^ 11 + n.log2)
        omega

/-- **The whole numbers without a double** are those of at least half a unit beyond the greatest
finite one. -/
theorem ofInt?_eq_none_iff (n : Int) : ofInt? n = none ↔ 2 ^ 1024 - 2 ^ 970 ≤ n.natAbs := by
  unfold ofInt?
  have range := isFinite_ofDecimal n.natAbs
  dsimp only
  split
  case isTrue finite =>
    have := range.1 finite
    refine iff_of_false (by simp) ?_
    omega
  case isFalse infinite =>
    have := mt range.2 infinite
    refine iff_of_true rfl ?_
    omega

theorem isFinite_neg {x : Float} (finite : x.isFinite = true) : (-x).isFinite = true := by
  show (Float.ofModel (.pack (UnpackedFloat.neg x.toModel.unpack))).isFinite = true
  unfold Float.isFinite Float.Model.isFinite at finite
  cases unpacked : x.toModel.unpack with
  | notANumber => rw [unpacked] at finite; cases finite
  | infinity => rw [unpacked] at finite; cases finite
  | zero s => cases s <;> rfl
  | finite s m e pos => exact (isFinite_pack pos).2 (unpack_bounds unpacked).2.2.2

theorem isFinite_ofInt? {n : Int} {x : Float} (known : ofInt? n = some x) :
    x.isFinite = true := by
  unfold ofInt? at known
  dsimp only at known
  split at known
  case isFalse => cases known
  case isTrue finite =>
    obtain rfl := Option.some.inj known
    split
    · exact isFinite_neg finite
    · exact finite

/-! ## The whole numbers of doubles -/

theorem isNegative_iff_bit (x : Float) :
    isNegative x = true ↔ @unpackSign .binary64 x.toModel.toBits.toBitVec = 1#1 := by
  have first : (@unpackSign .binary64 x.toModel.toBits.toBitVec).toNat = x.toBits.toNat >>> 63 := by
    have short := x.toBits.toNat_lt
    rw [unpackSign, BitVec.toNat_cast, BitVec.extractLsb_toNat, Nat.shiftRight_eq_div_pow]
    show x.toBits.toNat / 2 ^ 63 % 2 = x.toBits.toNat >>> 63
    rw [Nat.shiftRight_eq_div_pow]
    omega
  rw [isNegative, beq_iff_eq, ← UInt64.toNat_inj, ← BitVec.toNat_inj, first]
  rfl

/-- The sign of a number; not-a-number has none. -/
def signOf : UnpackedFloat → Sign
  | .infinity s | .zero s | .finite s _ _ _ => s
  | .notANumber => .positive

/-- The sign bit is the sign of what is unpacked. -/
theorem isNegative_iff {x : Float} (finite : x.isFinite = true) :
    isNegative x = true ↔ signOf x.toModel.unpack = .negative := by
  have sign : signOf x.toModel.unpack =
      Sign.ofBitVec (@unpackSign .binary64 x.toModel.toBits.toBitVec) := by
    unfold Float.isFinite Float.Model.isFinite at finite
    unfold Float.Model.unpack UnpackedFloat.unpack at finite ⊢
    dsimp only at finite ⊢
    split at finite
    case isTrue ones => split at finite <;> cases finite
    case isFalse below =>
      rw [if_neg below]
      repeat' split
      all_goals rfl
  rw [isNegative_iff_bit, sign]
  rcases BitVec.eq_zero_or_eq_one (@unpackSign .binary64 x.toModel.toBits.toBitVec) with zero | one
  · rw [zero]
    exact iff_of_false (by decide) nofun
  · rw [one]
    exact iff_of_true rfl rfl

/-- A double without fraction that is not less than one is a number above zero. -/
theorem toInt?_pos {x : Float} {n : Int} (whole : toInt? x = some n)
    (enough : ¬ x < ofDecimal 1 0) : 0 < n := by
  have one : (ofDecimal 1 0).toModel.unpack = .finite .positive (2 ^ 52) (-52) (by decide) := rfl
  have least : ¬ UnpackedFloat.lt x.toModel.unpack (ofDecimal 1 0).toModel.unpack = true :=
    fun less => enough (decide_eq_true less)
  rw [one] at least
  unfold toInt? magnitude? Float.isFinite Float.Model.isFinite at whole
  cases unpacked : x.toModel.unpack with
  | notANumber => rw [unpacked] at whole; cases whole
  | infinity => rw [unpacked] at whole; cases whole
  | zero s => rw [unpacked] at least; exact absurd rfl least
  | finite s m e pos =>
      cases s with
      | negative => rw [unpacked] at least; exact absurd rfl least
      | positive =>
          have known : x.isFinite = true := congrArg UnpackedFloat.isFinite unpacked
          have plus : isNegative x = false := by
            rw [Bool.eq_false_iff, ne_eq, isNegative_iff known, unpacked]
            exact nofun
          rw [unpacked, plus] at whole
          cases e with
          | ofNat k =>
              obtain rfl := Option.some.inj whole
              exact Int.natCast_pos.2 (Nat.mul_pos pos (Nat.two_pow_pos k))
          | negSucc k =>
              have divided : (if m % 2 ^ (k + 1) = 0 then some ((m / 2 ^ (k + 1) : Nat) : Int)
                  else none) = some n := whole
              split at divided
              case isFalse => cases divided
              case isTrue exact =>
                obtain rfl := Option.some.inj divided
                refine Int.natCast_pos.2 (Nat.div_pos ?_ (Nat.two_pow_pos _))
                exact Nat.le_of_dvd pos (Nat.dvd_of_mod_eq_zero exact)

end Double

end Quadrature.Number
