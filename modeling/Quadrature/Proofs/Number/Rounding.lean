/-
# Quadrature.Proofs.Number.Rounding -- rounding an exact number

The doubles of one binade are the multiples of one power of two, its unit; below the least binade the
unit stays what it is. A number is rounded to the nearest multiple of its unit, and of two to the
even one. Exponents have no upper end here: what is too large for a double is rounded like any other
number, and overflows afterwards.

* `nearest_mono`: rounding keeps the order;
* `nearest_of_multiple`: a multiple of its unit stays what it is;
* `abs_nearest_sub_le`: the error of rounding, relative and absolute.
-/
import Mathlib

namespace Quadrature.Number

set_option autoImplicit false

/-- The nearest whole number, of two the even one. -/
def roundEven (q : ℚ) : ℤ :=
  if q - ⌊q⌋ < 1 / 2 then ⌊q⌋
  else if 1 / 2 < q - ⌊q⌋ then ⌊q⌋ + 1
  else ⌊q⌋ + ⌊q⌋ % 2

/-- The exponent of the unit of a number above zero. -/
def unitExponent (q : ℚ) : ℤ := max (Int.log 2 q - 52) (-1074)

/-- A number that is not negative, rounded. -/
def nearestMagnitude (q : ℚ) : ℚ := roundEven (q / 2 ^ unitExponent q) * 2 ^ unitExponent q

/-- A number, rounded. -/
def nearest (q : ℚ) : ℚ := if 0 ≤ q then nearestMagnitude q else -nearestMagnitude (-q)

variable {p q : ℚ}

/-! ## Whole numbers -/

@[simp] theorem roundEven_intCast (k : ℤ) : roundEven k = k := by simp [roundEven]

theorem floor_le_roundEven (q : ℚ) : ⌊q⌋ ≤ roundEven q := by
  unfold roundEven
  split_ifs <;> omega

theorem roundEven_le_floor_succ (q : ℚ) : roundEven q ≤ ⌊q⌋ + 1 := by
  unfold roundEven
  split_ifs <;> omega

theorem roundEven_mono (ordered : p ≤ q) : roundEven p ≤ roundEven q := by
  rcases (Int.floor_mono ordered).lt_or_eq with less | same
  · calc roundEven p ≤ ⌊p⌋ + 1 := roundEven_le_floor_succ p
      _ ≤ ⌊q⌋ := less
      _ ≤ roundEven q := floor_le_roundEven q
  · have fractions : p - ⌊q⌋ ≤ q - ⌊q⌋ := sub_le_sub_right ordered _
    unfold roundEven
    rw [same]
    split_ifs <;> first | omega | linarith

theorem abs_roundEven_sub_le (q : ℚ) : |(roundEven q : ℚ) - q| ≤ 1 / 2 := by
  have below := Int.floor_le q
  have above := Int.lt_floor_add_one q
  have parity : (⌊q⌋ % 2 = 0) ∨ (⌊q⌋ % 2 = 1) := by omega
  unfold roundEven
  rw [abs_le]
  split_ifs
  · constructor <;> linarith
  · push_cast
    constructor <;> linarith
  · rcases parity with even | odd
    · rw [even]
      push_cast
      constructor <;> linarith
    · rw [odd]
      push_cast
      constructor <;> linarith

/-! ## Units -/

theorem least_le_unitExponent (q : ℚ) : -1074 ≤ unitExponent q := le_max_right _ _

theorem unit_pos (e : ℤ) : (0 : ℚ) < 2 ^ e := zpow_pos two_pos e

theorem unitExponent_mono (positive : 0 < p) (ordered : p ≤ q) :
    unitExponent p ≤ unitExponent q :=
  max_le_max_right _ (Int.sub_le_sub_right (Int.log_mono_right positive ordered) 52)

/-- A number has at most 53 binary digits before its unit. -/
theorem div_unit_lt (q : ℚ) : q / 2 ^ unitExponent q < 2 ^ 53 := by
  rw [div_lt_iff₀ (unit_pos _), ← zpow_natCast, ← zpow_add₀ two_ne_zero]
  refine lt_of_lt_of_le (Int.lt_zpow_succ_log_self one_lt_two q) ?_
  refine zpow_le_zpow_right₀ one_le_two ?_
  have := le_max_left (Int.log 2 q - 52) (-1074)
  unfold unitExponent
  push_cast
  omega

/-- It has 53 unless its unit is the least one. -/
theorem le_div_unit (positive : 0 < q) (normal : unitExponent q ≠ -1074) :
    2 ^ 52 ≤ q / 2 ^ unitExponent q := by
  have exponent : (52 : ℕ) + unitExponent q = Int.log 2 q := by
    unfold unitExponent at normal ⊢
    push_cast
    omega
  rw [le_div_iff₀ (unit_pos _), ← zpow_natCast, ← zpow_add₀ two_ne_zero, exponent]
  exact Int.zpow_log_le_self one_lt_two positive

/-- The unit of a number by its digits. -/
theorem unitExponent_eq {e : ℤ} (least : -1074 ≤ e) (short : q < 2 ^ (e + 53))
    (normal : (2 : ℚ) ^ (e + 52) ≤ q ∨ e = -1074) (positive : 0 < q) : unitExponent q = e := by
  have below : Int.log 2 q < e + 53 := (Int.lt_zpow_iff_log_lt one_lt_two positive).1 short
  unfold unitExponent
  rcases normal with leading | rfl
  · have above : e + 52 ≤ Int.log 2 q := (Int.zpow_le_iff_le_log one_lt_two positive).1 leading
    omega
  · omega

/-! ## Rounding -/

@[simp] theorem nearestMagnitude_zero : nearestMagnitude 0 = 0 := by
  have rounded : roundEven 0 = 0 := roundEven_intCast 0
  rw [nearestMagnitude, zero_div, rounded, Int.cast_zero, zero_mul]

theorem nearestMagnitude_nonneg (nonneg : 0 ≤ q) : 0 ≤ nearestMagnitude q := by
  have rounded : roundEven 0 ≤ roundEven (q / 2 ^ unitExponent q) :=
    roundEven_mono (div_nonneg nonneg (unit_pos _).le)
  rw [show roundEven 0 = 0 from roundEven_intCast 0] at rounded
  exact mul_nonneg (Int.cast_nonneg rounded) (unit_pos _).le

/-- Rounded, a number has at most one unit more than 53 digits of ones. -/
theorem nearestMagnitude_le (q : ℚ) : nearestMagnitude q ≤ 2 ^ (unitExponent q + 53) := by
  have rounded : roundEven (q / 2 ^ unitExponent q) ≤ 2 ^ 53 := by
    have := roundEven_mono (div_unit_lt q).le
    rwa [show (2 ^ 53 : ℚ) = (2 ^ 53 : ℤ) by norm_num, roundEven_intCast] at this
  rw [nearestMagnitude, add_comm, zpow_add₀ two_ne_zero]
  refine mul_le_mul_of_nonneg_right ?_ (unit_pos _).le
  exact_mod_cast rounded

theorem le_nearestMagnitude (positive : 0 < q) (normal : unitExponent q ≠ -1074) :
    2 ^ (unitExponent q + 52) ≤ nearestMagnitude q := by
  have rounded : 2 ^ 52 ≤ roundEven (q / 2 ^ unitExponent q) := by
    have := roundEven_mono (le_div_unit positive normal)
    rwa [show (2 ^ 52 : ℚ) = (2 ^ 52 : ℤ) by norm_num, roundEven_intCast] at this
  rw [nearestMagnitude, add_comm, zpow_add₀ two_ne_zero]
  refine mul_le_mul_of_nonneg_right ?_ (unit_pos _).le
  exact_mod_cast rounded

/-- Numbers of one unit are rounded in order, and a greater unit begins where the lesser ends. -/
theorem nearestMagnitude_mono (nonneg : 0 ≤ p) (ordered : p ≤ q) :
    nearestMagnitude p ≤ nearestMagnitude q := by
  rcases nonneg.eq_or_lt with rfl | positive
  · rw [nearestMagnitude_zero]
    exact nearestMagnitude_nonneg ordered
  rcases (unitExponent_mono positive ordered).eq_or_lt with same | less
  · unfold nearestMagnitude
    rw [same]
    refine mul_le_mul_of_nonneg_right ?_ (unit_pos _).le
    exact Int.cast_le.2 (roundEven_mono (div_le_div_of_nonneg_right ordered (unit_pos _).le))
  · have least := least_le_unitExponent p
    calc nearestMagnitude p ≤ 2 ^ (unitExponent p + 53) := nearestMagnitude_le p
      _ ≤ 2 ^ (unitExponent q + 52) := zpow_le_zpow_right₀ one_le_two (by omega)
      _ ≤ nearestMagnitude q := le_nearestMagnitude (positive.trans_le ordered) (by omega)

theorem nearest_of_nonneg (nonneg : 0 ≤ q) : nearest q = nearestMagnitude q := if_pos nonneg

@[simp] theorem nearest_zero : nearest 0 = 0 := by simp [nearest]

theorem nearest_neg (q : ℚ) : nearest (-q) = -nearest q := by
  rcases lt_trichotomy q 0 with negative | rfl | positive
  · rw [nearest_of_nonneg (by linarith), nearest, if_neg (by linarith), neg_neg]
  · simp
  · rw [nearest_of_nonneg positive.le, nearest, if_neg (by linarith), neg_neg]

theorem nearest_nonneg (nonneg : 0 ≤ q) : 0 ≤ nearest q := by
  rw [nearest_of_nonneg nonneg]
  exact nearestMagnitude_nonneg nonneg

theorem abs_nearest (q : ℚ) : |nearest q| = nearest |q| := by
  rcases le_total 0 q with nonneg | nonpos
  · rw [abs_of_nonneg nonneg, abs_of_nonneg (nearest_nonneg nonneg)]
  · have nonneg : 0 ≤ -q := by linarith
    rw [abs_of_nonpos nonpos, ← abs_neg, ← nearest_neg, abs_of_nonneg (nearest_nonneg nonneg)]

/-- **Rounding keeps the order.** -/
theorem nearest_mono (ordered : p ≤ q) : nearest p ≤ nearest q := by
  rcases le_total 0 p with nonneg | nonpos
  · rw [nearest_of_nonneg nonneg, nearest_of_nonneg (nonneg.trans ordered)]
    exact nearestMagnitude_mono nonneg ordered
  have negated : 0 ≤ -p := by linarith
  rcases le_total 0 q with nonneg' | nonpos'
  · have := nearest_nonneg negated
    rw [nearest_neg] at this
    linarith [nearest_nonneg nonneg']
  · have negated' : 0 ≤ -q := by linarith
    have := nearestMagnitude_mono negated' (neg_le_neg ordered)
    rw [← nearest_of_nonneg negated, ← nearest_of_nonneg negated', nearest_neg, nearest_neg] at this
    linarith

theorem abs_nearest_mono (ordered : |p| ≤ |q|) : |nearest p| ≤ |nearest q| := by
  rw [abs_nearest, abs_nearest]
  exact nearest_mono ordered

/-- The unit of a mantissa of 53 digits, or of fewer at the least exponent. -/
theorem unitExponent_of_multiple {m : ℕ} {e : ℤ} (positive : 0 < m) (short : m < 2 ^ 53)
    (least : -1074 ≤ e) (normal : 2 ^ 52 ≤ m ∨ e = -1074) : unitExponent (m * 2 ^ e) = e := by
  have positive' : (0 : ℚ) < m * 2 ^ e := mul_pos (Nat.cast_pos.2 positive) (unit_pos e)
  refine unitExponent_eq least ?_ ?_ positive'
  · rw [add_comm, zpow_add₀ two_ne_zero]
    exact mul_lt_mul_of_pos_right (by exact_mod_cast short) (unit_pos e)
  · refine normal.imp (fun leading => ?_) id
    rw [add_comm, zpow_add₀ two_ne_zero]
    exact mul_le_mul_of_nonneg_right (by exact_mod_cast leading) (unit_pos e).le

/-- **A multiple of its unit** stays what it is. -/
theorem nearest_of_multiple {m : ℕ} {e : ℤ} (short : m < 2 ^ 53) (least : -1074 ≤ e)
    (normal : 2 ^ 52 ≤ m ∨ e = -1074) : nearest (m * 2 ^ e) = m * 2 ^ e := by
  rcases m.eq_zero_or_pos with rfl | positive
  · simp
  have nonneg : (0 : ℚ) ≤ m * 2 ^ e := mul_nonneg m.cast_nonneg (unit_pos e).le
  rw [nearest_of_nonneg nonneg, nearestMagnitude, unitExponent_of_multiple positive short least normal,
    mul_div_cancel_right₀ _ (unit_pos e).ne', show (m : ℚ) = ((m : ℤ) : ℚ) from rfl,
    roundEven_intCast]

/-- A whole number of at most 53 digits stays what it is. -/
theorem nearest_natCast {n : ℕ} (short : n < 2 ^ 53) : nearest n = n := by
  rcases n.eq_zero_or_pos with rfl | positive
  · simp
  have digits : n.log2 ≤ 52 := by
    have := (Nat.log2_lt positive.ne').2 short
    omega
  have scaled : ((n * 2 ^ (52 - n.log2) : ℕ) : ℚ) * 2 ^ (-((52 - n.log2 : ℕ) : ℤ)) = n := by
    rw [zpow_neg, zpow_natCast]
    push_cast
    field_simp
  rw [← scaled]
  refine nearest_of_multiple ?_ (by omega) (.inl ?_)
  · calc n * 2 ^ (52 - n.log2) < 2 ^ (n.log2 + 1) * 2 ^ (52 - n.log2) :=
        Nat.mul_lt_mul_of_pos_right Nat.lt_log2_self (Nat.two_pow_pos _)
      _ = 2 ^ 53 := by rw [← Nat.pow_add]; congr 1; omega
  · calc 2 ^ 52 = 2 ^ n.log2 * 2 ^ (52 - n.log2) := by rw [← Nat.pow_add]; congr 1; omega
      _ ≤ n * 2 ^ (52 - n.log2) := Nat.mul_le_mul_right _ (Nat.log2_self_le positive.ne')

/-- A number of less than half the least unit vanishes. -/
theorem nearest_of_tiny (nonneg : 0 ≤ q) (tiny : q ≤ 2 ^ (-1076 : ℤ)) : nearest q = 0 := by
  have unit : unitExponent (2 ^ (-1076 : ℤ)) = -1074 :=
    unitExponent_eq le_rfl (zpow_lt_zpow_right₀ one_lt_two (by decide)) (.inr rfl) (unit_pos _)
  have quarter : (2 : ℚ) ^ (-1076 : ℤ) / 2 ^ (-1074 : ℤ) = 1 / 4 := by
    rw [← zpow_sub₀ two_ne_zero]
    norm_num
  have below : roundEven (1 / 4) = 0 := by
    have floor : ⌊(1 / 4 : ℚ)⌋ = 0 := by norm_num
    rw [roundEven, floor, if_pos (by norm_num)]
  have vanished : nearest (2 ^ (-1076 : ℤ)) = 0 := by
    rw [nearest_of_nonneg (unit_pos _).le, nearestMagnitude, unit, quarter, below, Int.cast_zero,
      zero_mul]
  exact le_antisymm (vanished ▸ nearest_mono tiny) (nearest_nonneg nonneg)

/-! ## The error -/

theorem half_unit_le (positive : 0 < q) :
    (2 : ℚ) ^ unitExponent q / 2 ≤ q / 2 ^ 53 + 2 ^ (-1075 : ℤ) := by
  by_cases least : unitExponent q = -1074
  · have unit : (2 : ℚ) ^ (-1074 : ℤ) / 2 = 2 ^ (-1075 : ℤ) := (zpow_sub_one₀ two_ne_zero _).symm
    rw [least, unit]
    exact le_add_of_nonneg_left (div_nonneg positive.le (by norm_num))
  · have digits := le_div_unit positive least
    rw [le_div_iff₀ (unit_pos _)] at digits
    refine le_add_of_le_of_nonneg ?_ (unit_pos _).le
    rw [le_div_iff₀ (by norm_num)]
    linarith

theorem abs_nearestMagnitude_sub_le (nonneg : 0 ≤ q) :
    |nearestMagnitude q - q| ≤ q / 2 ^ 53 + 2 ^ (-1075 : ℤ) := by
  rcases nonneg.eq_or_lt with rfl | positive
  · rw [nearestMagnitude_zero, sub_zero, abs_zero, zero_div, zero_add]
    exact (unit_pos _).le
  refine le_trans ?_ (half_unit_le positive)
  have scaled : nearestMagnitude q - q =
      (roundEven (q / 2 ^ unitExponent q) - q / 2 ^ unitExponent q) * 2 ^ unitExponent q := by
    rw [sub_mul, div_mul_cancel₀ _ (unit_pos _).ne', nearestMagnitude]
  rw [scaled, abs_mul, abs_of_pos (unit_pos _), div_eq_mul_one_div _ (2 : ℚ), mul_comm _ (1 / 2 : ℚ)]
  exact mul_le_mul_of_nonneg_right (abs_roundEven_sub_le _) (unit_pos _).le

/-- **The error of rounding** is at most half a unit: a part of the number, or of the least unit. -/
theorem abs_nearest_sub_le (q : ℚ) : |nearest q - q| ≤ |q| / 2 ^ 53 + 2 ^ (-1075 : ℤ) := by
  rcases le_total 0 q with nonneg | nonpos
  · rw [nearest_of_nonneg nonneg, abs_of_nonneg nonneg]
    exact abs_nearestMagnitude_sub_le nonneg
  · have negated : 0 ≤ -q := by linarith
    have bound := abs_nearestMagnitude_sub_le negated
    rw [← nearest_of_nonneg negated, nearest_neg, ← neg_sub', abs_neg] at bound
    rwa [abs_of_nonpos nonpos]

end Quadrature.Number
