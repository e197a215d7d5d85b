/-
# Quadrature.Proofs.Number.Mantissa -- to round a mantissa is to round the number

A number on its way to a double is a sign, a mantissa and an exponent, with two bits for the digits
that are cut from the mantissa: the first of them, and whether any other is set. They tell on which
side of the next half the number lies (`Cut`), which settles the nearest multiple of the unit.

* `Cut.shiftRight`, `cut_div`: the bits are right after a shift and after a division;
* `Cut.rounded`: they settle which whole number is nearest;
* `round_value`, `normalize_value`: so a mantissa is rounded to the nearest number of 53 digits.
-/
import Mathlib
import Quadrature.Proofs.Number.Range
import Quadrature.Proofs.Number.Rounding

namespace Quadrature.Number

set_option autoImplicit false

open Float.Model (UnpackedFloat)
open Float.Model.UnpackedFloat

namespace Double

/-! ## Cut digits -/

/-- The number `q` begins with the mantissa, and goes on as the two bits say. -/
def Cut : ExtendedMantissa → ℚ → Prop
  | ⟨m, false, false⟩, q => q = m
  | ⟨m, false, true⟩, q => m < q ∧ q < m + 1 / 2
  | ⟨m, true, false⟩, q => q = m + 1 / 2
  | ⟨m, true, true⟩, q => m + 1 / 2 < q ∧ q < m + 1

variable {em : ExtendedMantissa} {q : ℚ}

theorem Cut.bounds (cut : Cut em q) : (em.mantissa : ℚ) ≤ q ∧ q < em.mantissa + 1 := by
  rcases em with ⟨m, round, sticky⟩
  cases round <;> cases sticky <;> simp only [Cut] at cut ⊢ <;> constructor <;> linarith

theorem Cut.floor (cut : Cut em q) : ⌊q⌋ = (em.mantissa : ℤ) :=
  Int.floor_eq_iff.2 (by exact_mod_cast cut.bounds)

/-- The bits settle which whole number is nearest. -/
theorem Cut.rounded (cut : Cut em q) : (em.roundedMantissa : ℤ) = roundEven q := by
  have floor := cut.floor
  rcases em with ⟨m, round, sticky⟩
  have floor' : (⌊q⌋ : ℚ) = m := by exact_mod_cast floor
  unfold roundEven
  rw [floor', floor]
  cases round <;> cases sticky <;> simp only [Cut] at cut
  · rw [if_pos (by linarith)]
    rfl
  · rw [if_pos (by linarith)]
    rfl
  · rw [if_neg (by linarith), if_neg (by linarith)]
    rfl
  · rw [if_neg (by linarith), if_pos (by linarith)]
    rfl

theorem Cut.shiftRightOne (cut : Cut em q) : Cut em.shiftRightOne (q / 2) := by
  rcases em with ⟨m, round, sticky⟩
  have digits : ((m % 2 : ℕ) : ℚ) + 2 * (m / 2 : ℕ) = m := by exact_mod_cast Nat.mod_add_div m 2
  rcases Nat.mod_two_eq_zero_or_one m with even | odd
  · rw [even, Nat.cast_zero] at digits
    cases round <;> cases sticky <;> simp [Cut, ExtendedMantissa.shiftRightOne, even] at cut ⊢ <;>
      first | linarith | (constructor <;> linarith)
  · rw [odd, Nat.cast_one] at digits
    cases round <;> cases sticky <;> simp [Cut, ExtendedMantissa.shiftRightOne, odd] at cut ⊢ <;>
      first | linarith | (constructor <;> linarith)

theorem Cut.shiftRight (cut : Cut em q) (k : ℕ) : Cut (em >>> k) (q / 2 ^ k) := by
  induction k with
  | zero =>
      rw [pow_zero, div_one]
      exact cut
  | succ k ih =>
      rw [pow_succ, ← div_div]
      exact ih.shiftRightOne

theorem cut_exact (m : ℕ) : Cut (.ofMantissaAndAccuracy m .exact) m := rfl

/-- The bits that a division leaves. -/
theorem cut_div (m : ℕ) {d : ℕ} (positive : 0 < d) :
    Cut (.ofMantissaAndAccuracy (m / d) (accuracyOfFraction (m % d) d)) (m / d : ℚ) := by
  have positive' : (0 : ℚ) < d := Nat.cast_pos.2 positive
  have divided : (m : ℚ) / d = (m / d : ℕ) + (m % d : ℕ) / d := by
    have parts : (m : ℚ) = d * (m / d : ℕ) + (m % d : ℕ) := by
      exact_mod_cast (Nat.div_add_mod m d).symm
    rw [div_eq_iff positive'.ne', add_mul, div_mul_cancel₀ _ positive'.ne', mul_comm]
    exact parts
  have below : (m % d : ℕ) < (d : ℚ) := Nat.cast_lt.2 (Nat.mod_lt m positive)
  have rest : (m % d : ℕ) / (d : ℚ) < 1 := (div_lt_one positive').2 below
  rw [divided]
  generalize m % d = r at *
  unfold accuracyOfFraction
  split
  case isTrue exact =>
    rw [exact, Nat.cast_zero, zero_div, add_zero]
    rfl
  case isFalse other =>
    have some : (0 : ℚ) < r / d := div_pos (Nat.cast_pos.2 (Nat.pos_of_ne_zero other)) positive'
    rcases lt_trichotomy (2 * r) d with less | same | greater
    · have half : (r : ℚ) / d < 1 / 2 := by
        rw [div_lt_iff₀ positive']
        have : (2 * r : ℚ) < d := by exact_mod_cast less
        linarith
      rw [Nat.compare_eq_lt.2 less]
      exact ⟨by linarith, by linarith⟩
    · have half : (r : ℚ) / d = 1 / 2 := by
        rw [div_eq_iff positive'.ne']
        have : (2 * r : ℚ) = d := by exact_mod_cast same
        linarith
      rw [Nat.compare_eq_eq.2 same]
      show _ = _
      rw [half]
    · have half : 1 / 2 < (r : ℚ) / d := by
        rw [lt_div_iff₀ positive']
        have : (d : ℚ) < 2 * r := by exact_mod_cast greater
        linarith
      rw [Nat.compare_eq_gt.2 greater]
      exact ⟨by linarith, by linarith⟩

/-! ## Exact values -/

/-- A magnitude with a sign. -/
def signed (s : Sign) (q : ℚ) : ℚ :=
  match s with
  | .negative => -q
  | .positive => q

/-- The exact value of a finite number. -/
def exactValue : UnpackedFloat → ℚ
  | .finite s m e _ => signed s (m * 2 ^ e)
  | _ => 0

/-- A finite number as it is unpacked from a double, but for the end of the exponents. -/
def Canonical : UnpackedFloat → Prop
  | .finite _ m e _ => m < 2 ^ 53 ∧ -1074 ≤ e ∧ (2 ^ 52 ≤ m ∨ e = -1074)
  | .zero _ => True
  | _ => False

theorem nearest_signed (s : Sign) (q : ℚ) : nearest (signed s q) = signed s (nearest q) := by
  cases s with
  | negative => exact nearest_neg q
  | positive => rfl

theorem signed_apply (s : Sign) (n : ℤ) : ((s.apply n : ℤ) : ℚ) = signed s n := by
  cases s with
  | negative => exact Int.cast_neg n
  | positive => rfl

theorem signed_mul (s t : Sign) (p q : ℚ) : signed (s * t) (p * q) = signed s p * signed t q := by
  cases s with
  | negative => cases t with
    | negative => exact (neg_mul_neg p q).symm
    | positive => exact (neg_mul p q).symm
  | positive => cases t with
    | negative => exact (mul_neg p q).symm
    | positive => rfl

theorem signed_div (s t : Sign) (p q : ℚ) : signed (s / t) (p / q) = signed s p / signed t q := by
  cases s with
  | negative => cases t with
    | negative => exact (neg_div_neg_eq p q).symm
    | positive => exact (neg_div q p).symm
  | positive => cases t with
    | negative => exact (div_neg p).symm
    | positive => rfl

theorem signed_mul_right (s : Sign) (p q : ℚ) : signed s p * q = signed s (p * q) := by
  cases s with
  | negative => exact neg_mul p q
  | positive => rfl

theorem abs_signed (s : Sign) (q : ℚ) : |signed s q| = |q| := by
  cases s with
  | negative => exact abs_neg q
  | positive => rfl

theorem signed_neg (s : Sign) (q : ℚ) : signed (-s) q = -signed s q := by
  cases s with
  | negative => exact (neg_neg q).symm
  | positive => rfl

variable {u v : UnpackedFloat}

/-- A canonical number is a multiple of its unit. -/
theorem Canonical.nearest_eq (canonical : Canonical u) : nearest (exactValue u) = exactValue u := by
  cases u with
  | finite s m e pos =>
      obtain ⟨short, least, normal⟩ := canonical
      show nearest (signed s _) = signed s _
      rw [nearest_signed, nearest_of_multiple short least normal]
  | _ => exact nearest_zero

/-! ## Rounding a mantissa -/

/-- The unit of a number by its first digits. -/
theorem unitExponent_mul {m : ℕ} {e : ℤ} (positive : 0 < q) (lower : (m : ℚ) ≤ q)
    (upper : q < m + 1) (some : 0 < m ∨ e ≤ -1074) :
    unitExponent (q * 2 ^ e) = roundingExponent m e := by
  have positive' : 0 < q * 2 ^ e := mul_pos positive (unit_pos e)
  have log : q < 2 ^ (m.log2 + 1) := by
    have : m + 1 ≤ 2 ^ (m.log2 + 1) := Nat.lt_log2_self
    exact lt_of_lt_of_le upper (by exact_mod_cast this)
  have least : -1074 ≤ roundingExponent m e := le_max_right _ _
  refine unitExponent_eq least ?_ ?_ positive'
  · have wide : ((m.log2 + 1 : ℕ) : ℤ) + e ≤ roundingExponent m e + 53 := by
      unfold roundingExponent
      omega
    calc q * 2 ^ e < 2 ^ (m.log2 + 1) * 2 ^ e := mul_lt_mul_of_pos_right log (unit_pos e)
      _ = (2 : ℚ) ^ (((m.log2 + 1 : ℕ) : ℤ) + e) := by
        rw [zpow_add₀ two_ne_zero, zpow_natCast]
      _ ≤ 2 ^ (roundingExponent m e + 53) := zpow_le_zpow_right₀ one_le_two wide
  · by_cases subnormal : roundingExponent m e = -1074
    · exact .inr subnormal
    · have other : m ≠ 0 := by
        rintro rfl
        unfold roundingExponent at subnormal
        rw [Nat.log2_zero] at subnormal
        omega
      have leading : ((m.log2 : ℕ) : ℤ) + e = roundingExponent m e + 52 := by
        unfold roundingExponent at *
        omega
      left
      rw [← leading, zpow_add₀ two_ne_zero, zpow_natCast]
      refine mul_le_mul_of_nonneg_right (le_trans ?_ lower) (unit_pos e).le
      exact_mod_cast Nat.log2_self_le other

/-- **What a mantissa is rounded to**: the nearest multiple of the unit, if the mantissa has digits
enough. -/
theorem round_value {m : ℕ} {e : ℤ} (s : Sign) (accuracy : Accuracy) (positive : 0 < q)
    (cut : Cut (.ofMantissaAndAccuracy m accuracy) q) (low : e ≤ roundingExponent m e)
    (some : 0 < m ∨ e ≤ -1074) :
    Canonical (roundWithAccuracy .binary64 s m e accuracy) ∧
      exactValue (roundWithAccuracy .binary64 s m e accuracy) = signed s (nearest (q * 2 ^ e)) := by
  have bounds := cut.bounds
  rw [ofMantissaAndAccuracy_mantissa] at bounds
  have positive' : 0 < q * 2 ^ e := mul_pos positive (unit_pos e)
  have unit := unitExponent_mul positive bounds.1 bounds.2 some
  have least : -1074 ≤ roundingExponent m e := le_max_right _ _
  have distance : ((roundingExponent m e - e).toNat : ℤ) = roundingExponent m e - e := by omega
  -- In units, the number is `q` without the digits that are cut off.
  have scaled : q * 2 ^ e / 2 ^ roundingExponent m e = q / 2 ^ (roundingExponent m e - e).toNat := by
    rw [← zpow_natCast, distance, zpow_sub₀ two_ne_zero]
    field_simp
  have rounded := (cut.shiftRight (roundingExponent m e - e).toNat).rounded
  rw [← scaled, ← unit] at rounded
  have magnitude : nearest (q * 2 ^ e) =
      (roundedFrom m accuracy (roundingExponent m e - e).toNat : ℚ) * 2 ^ roundingExponent m e := by
    rw [nearest_of_nonneg positive'.le, nearestMagnitude, ← rounded, unit]
    rfl
  have top := nearestMagnitude_le (q * 2 ^ e)
  have normal := le_nearestMagnitude positive'
  rw [← nearest_of_nonneg positive'.le, magnitude, unit, add_comm, zpow_add₀ two_ne_zero,
    mul_le_mul_iff_left₀ (unit_pos _)] at top
  rw [← nearest_of_nonneg positive'.le, magnitude, unit, add_comm, zpow_add₀ two_ne_zero,
    mul_le_mul_iff_left₀ (unit_pos _)] at normal
  rw [roundWithAccuracy_from accuracy low, magnitude]
  generalize roundedFrom m accuracy (roundingExponent m e - e).toNat = r at *
  replace top : r ≤ 2 ^ 53 := by exact_mod_cast top
  replace normal : roundingExponent m e ≠ -1074 → 2 ^ 52 ≤ r := fun other => by
    exact_mod_cast normal other
  split
  case isTrue zero =>
    subst zero
    refine ⟨trivial, ?_⟩
    cases s <;> simp [exactValue, signed]
  case isFalse other =>
    split
    case isTrue short =>
      refine ⟨⟨short, least, ?_⟩, rfl⟩
      by_cases subnormal : roundingExponent m e = -1074
      · exact .inr subnormal
      · exact .inl (normal subnormal)
    case isFalse carried =>
      obtain rfl : r = 2 ^ 53 := by omega
      refine ⟨⟨by norm_num, by omega, .inl le_rfl⟩, congrArg (signed s) ?_⟩
      rw [zpow_add_one₀ two_ne_zero]
      push_cast
      ring

theorem decreaseExponent_value {m : ℕ} {e target : ℤ} (low : target ≤ e) :
    ((decreaseExponent m e target).1 : ℚ) * 2 ^ target = m * 2 ^ e := by
  have distance : ((e - target).toNat : ℤ) = e - target := by omega
  have power : (2 : ℚ) ^ (e - target).toNat * 2 ^ target = 2 ^ e := by
    rw [← zpow_natCast, ← zpow_add₀ two_ne_zero, distance, sub_add_cancel]
  simp only [decreaseExponent, Nat.shiftLeft_eq]
  push_cast
  rw [mul_assoc, power]

/-- A mantissa at any exponent is given digits enough before it is rounded. -/
theorem round_any {m : ℕ} (s : Sign) (e : ℤ) (positive : 0 < m) :
    Canonical (UnpackedFloat.round .binary64 s m e) ∧
      exactValue (UnpackedFloat.round .binary64 s m e) = signed s (nearest (m * 2 ^ e)) := by
  have log := log2_mul_two_pow positive (e - roundingExponent m e).toNat
  have positive' : 0 < m * 2 ^ (e - roundingExponent m e).toNat :=
    Nat.mul_pos positive (Nat.two_pow_pos _)
  have shifted : (((m * 2 ^ (e - roundingExponent m e).toNat : ℕ) : ℚ)) *
      2 ^ (e - ((e - roundingExponent m e).toNat : ℤ)) = m * 2 ^ e := by
    rw [zpow_sub₀ two_ne_zero, zpow_natCast]
    push_cast
    field_simp
  unfold UnpackedFloat.round decreaseExponent
  dsimp only
  rw [targetExponent_eq, Nat.shiftLeft_eq, ← shifted]
  refine round_value s .exact (Nat.cast_pos.2 positive') (cut_exact _) ?_ (.inl positive')
  unfold roundingExponent at *
  omega

theorem normalize_value (n e : ℤ) (s : Sign) :
    Canonical (UnpackedFloat.normalize .binary64 n e s) ∧
      exactValue (UnpackedFloat.normalize .binary64 n e s) = nearest (n * 2 ^ e) := by
  unfold UnpackedFloat.normalize
  rcases lt_trichotomy n 0 with negative | rfl | positive
  · have magnitude : (((-n).toNat : ℕ) : ℚ) = -n := by
      have : (((-n).toNat : ℕ) : ℤ) = -n := by omega
      exact_mod_cast this
    obtain ⟨canonical, rounded⟩ := round_any .negative e (m := (-n).toNat) (by omega)
    rw [Int.compare_eq_lt.2 negative]
    refine ⟨canonical, rounded.trans ?_⟩
    show -nearest _ = _
    rw [magnitude, ← nearest_neg, neg_mul, neg_neg]
  · refine ⟨trivial, ?_⟩
    rw [Int.cast_zero, zero_mul, nearest_zero]
    rfl
  · have magnitude : ((n.toNat : ℕ) : ℚ) = n := by
      have : ((n.toNat : ℕ) : ℤ) = n := by omega
      exact_mod_cast this
    obtain ⟨canonical, rounded⟩ := round_any .positive e (m := n.toNat) (by omega)
    rw [Int.compare_eq_gt.2 positive]
    refine ⟨canonical, rounded.trans ?_⟩
    show nearest _ = _
    rw [magnitude]

end Double

end Quadrature.Number
