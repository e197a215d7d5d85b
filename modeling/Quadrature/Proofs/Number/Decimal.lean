/-
# Quadrature.Proofs.Number.Decimal -- the double of a decimal is the nearest one

A decimal of few digits and a small exponent is the product or the quotient of two doubles that are
exact, so it is rounded once. Every other decimal is rounded as a product or a quotient of exact
numbers, unless its exponent alone tells that it overflows or vanishes.

* `value_powerOfTen`: the powers of ten that are doubles;
* `rounds_ofScientific`: decimals that are rounded from exact numbers;
* `Decimal.rounds_toFloat`: the double of a decimal;
* `Decimal.toFloat_eq`: it depends on the value of the decimal alone.
-/
import Mathlib
import Quadrature.Number.Shortest
import Quadrature.Proofs.Number.Identity
import Quadrature.Proofs.Number.Overflow

namespace Quadrature.Number

set_option autoImplicit false

open Float.Model (Format UnpackedFloat)
open Float.Model.UnpackedFloat
open Float (exactlyRepresentablePowersOfTen)

namespace Double

variable {x : Float} {q : ℚ} {m k : ℕ}

/-! ## Exact doubles -/

/-- The double is a power of ten. -/
def isPowerOfTen (x : Float) (k : ℕ) : Bool :=
  match x.toModel.unpack with
  | .finite .positive m e _ => m * 2 ^ e.toNat == 10 ^ k * 2 ^ (-e).toNat
  | _ => false

theorem value_of_isPowerOfTen (power : isPowerOfTen x k = true) :
    x.isFinite = true ∧ value x = 10 ^ k := by
  unfold isPowerOfTen at power
  split at power
  case h_1 m e pos unpacked =>
    refine ⟨congrArg UnpackedFloat.isFinite unpacked, ?_⟩
    have same : (m : ℚ) * 2 ^ e.toNat = 10 ^ k * 2 ^ (-e).toNat := by
      exact_mod_cast beq_iff_eq.1 power
    have exponent : e = (e.toNat : ℤ) - ((-e).toNat : ℤ) := by omega
    rw [value_finite unpacked]
    show (m : ℚ) * 2 ^ e = 10 ^ k
    rw [exponent, zpow_sub₀ two_ne_zero, zpow_natCast, zpow_natCast, ← mul_div_assoc, same,
      mul_div_cancel_right₀ _ (by positivity)]
  case h_2 => cases power

/-- Zero stays zero, and keeps its sign. -/
theorem zero_scaled (power : isPowerOfTen x k = true) :
    (Nat.toUInt64 0).toFloat * x = .ofModel (.pack (.zero .positive)) ∧
      (Nat.toUInt64 0).toFloat / x = .ofModel (.pack (.zero .positive)) := by
  have zero : (Nat.toUInt64 0).toFloat.toModel.unpack = .zero .positive := rfl
  unfold isPowerOfTen at power
  split at power
  case h_1 m e pos unpacked =>
    constructor
    · show Float.ofModel (.pack (UnpackedFloat.mul .binary64 (Nat.toUInt64 0).toFloat.toModel.unpack
        x.toModel.unpack)) = _
      rw [zero, unpacked]
      rfl
    · show Float.ofModel (.pack (UnpackedFloat.div .binary64 (Nat.toUInt64 0).toFloat.toModel.unpack
        x.toModel.unpack)) = _
      rw [zero, unpacked]
      rfl
  case h_2 => cases power

theorem isPowerOfTen_table :
    ∀ i : Fin 23, isPowerOfTen exactlyRepresentablePowersOfTen[i] i = true := by
  decide +kernel

/-- The double of a whole number of at most 53 digits is exact. -/
theorem value_ofUInt64 (short : m < 2 ^ 53) : value m.toUInt64.toFloat = m := by
  have normalized := normalize_value m.toUInt64.toNat 0 .positive
  have read : m.toUInt64.toNat = m := UInt64.toNat_ofNat_of_lt' (by
    show m < 2 ^ 64
    omega)
  have converted : value m.toUInt64.toFloat = nearest ((m.toUInt64.toNat : ℤ) * 2 ^ (0 : ℤ)) :=
    (rounds_pack normalized.1 normalized.2).value_eq (isFinite_ofUInt64 _)
  rw [read, Int.cast_natCast, zpow_zero, mul_one] at converted
  rw [converted, nearest_natCast short]

/-! ## Rounded numbers -/

/-- A number beyond the doubles overflows. -/
theorem rounds_infinity (large : 2 ^ (1024 : ℤ) ≤ q) :
    Rounds (.ofModel (.pack (.infinity .positive))) q := by
  have power : nearest (2 ^ (1024 : ℤ)) = 2 ^ (1024 : ℤ) := by
    have scaled : (2 : ℚ) ^ (1024 : ℤ) = (2 ^ 52 : ℕ) * 2 ^ (972 : ℤ) := by
      rw [Nat.cast_pow, Nat.cast_ofNat, ← zpow_natCast, ← zpow_add₀ two_ne_zero]
      rfl
    rw [scaled]
    exact nearest_of_multiple (by decide) (by decide) (.inl le_rfl)
  have beyond : 2 ^ (1024 : ℤ) ≤ |nearest q| :=
    calc (2 : ℚ) ^ (1024 : ℤ) = nearest (2 ^ (1024 : ℤ)) := power.symm
      _ ≤ nearest q := nearest_mono large
      _ ≤ |nearest q| := le_abs_self _
  exact ⟨iff_of_false (by decide) (not_lt.2 beyond), fun finite => absurd finite (by decide)⟩

/-- A number that vanishes is rounded to zero. -/
theorem rounds_zero (vanished : nearest q = 0) : Rounds (.ofModel (.pack (.zero .positive))) q :=
  rounds_pack (u := .zero .positive) trivial vanished.symm

/-- A decimal with a great exponent is beyond the doubles. -/
theorem two_zpow_le_scientific {e : ℤ} (positive : 0 < m) (large : 1024 ≤ e) :
    2 ^ (1024 : ℤ) ≤ (m * 10 ^ e : ℚ) :=
  calc (2 : ℚ) ^ (1024 : ℤ) ≤ 2 ^ e := zpow_le_zpow_right₀ one_le_two large
    _ ≤ 10 ^ e := zpow_le_zpow_left₀ (by omega) two_pos.le (by norm_num)
    _ ≤ m * 10 ^ e := le_mul_of_one_le_left (by positivity) (by exact_mod_cast positive)

/-- A decimal with a small exponent vanishes. -/
theorem scientific_le_two_zpow {e : ℤ} (tiny : e ≤ -1077 - m.log2) :
    (m * 10 ^ e : ℚ) ≤ 2 ^ (-1076 : ℤ) := by
  have power : (10 : ℚ) ^ e ≤ 2 ^ e := by
    obtain ⟨k, rfl⟩ : ∃ k : ℕ, e = -k := ⟨(-e).toNat, by omega⟩
    rw [zpow_neg, zpow_neg, zpow_natCast, zpow_natCast]
    exact inv_anti₀ (by positivity) (pow_le_pow_left₀ two_pos.le (by norm_num) k)
  have digits : (m : ℚ) ≤ 2 ^ ((m.log2 + 1 : ℕ) : ℤ) := by
    rw [zpow_natCast]
    exact_mod_cast Nat.lt_log2_self.le
  calc (m * 10 ^ e : ℚ) ≤ 2 ^ ((m.log2 + 1 : ℕ) : ℤ) * 2 ^ e :=
        mul_le_mul digits power (by positivity) (by positivity)
    _ = 2 ^ (((m.log2 + 1 : ℕ) : ℤ) + e) := (zpow_add₀ two_ne_zero _ _).symm
    _ ≤ 2 ^ (-1076 : ℤ) := zpow_le_zpow_right₀ one_le_two (by push_cast; omega)

/-- A product with a power of ten is rounded with 53 zeros after it. -/
theorem rounds_scaled {e : ℤ} {pos : 0 < m <<< 53} {pos' : 0 < 10 ^ e.toNat} (positive : 0 < m)
    (nonneg : 0 ≤ e) : Rounds (.ofModel (.pack (UnpackedFloat.mul .binary64
      (.finite .positive (m <<< 53) (-53) pos) (.finite .positive (10 ^ e.toNat) 0 pos'))))
      (m * 10 ^ e) := by
  obtain ⟨k, rfl⟩ : ∃ k : ℕ, e = k := ⟨e.toNat, by omega⟩
  have digits : 2 ^ 53 ≤ m <<< 53 * 10 ^ k := by
    rw [Nat.shiftLeft_eq]
    calc 2 ^ 53 ≤ m * 2 ^ 53 := Nat.le_mul_of_pos_left _ positive
      _ ≤ m * 2 ^ 53 * 10 ^ k := Nat.le_mul_of_pos_right _ pos'
  have positive' : 0 < m <<< 53 * 10 ^ k := Nat.mul_pos pos pos'
  have log := (Nat.le_log2 positive'.ne').2 digits
  have scaled : ((m <<< 53 * 10 ^ k : ℕ) : ℚ) * 2 ^ (-53 : ℤ) = m * 10 ^ (k : ℤ) := by
    rw [Nat.shiftLeft_eq, zpow_neg, zpow_natCast]
    push_cast
    field_simp
  obtain ⟨canonical, rounded⟩ := round_value .positive .exact (Nat.cast_pos.2 positive')
    (cut_exact _) (e := -53) (by unfold roundingExponent; omega) (.inl positive')
  rw [scaled] at rounded
  exact rounds_pack canonical rounded

/-- A decimal that is rounded from exact numbers. -/
theorem rounds_ofScientific (m : ℕ) (e : ℤ) :
    Rounds (.ofModel (.pack (UnpackedFloat.ofScientific .binary64 m e))) (m * 10 ^ e) := by
  unfold UnpackedFloat.ofScientific
  split
  case isTrue zero =>
    rw [zero, Nat.cast_zero, zero_mul]
    exact rounds_zero nearest_zero
  case isFalse other =>
    have positive : 0 < m := Nat.pos_of_ne_zero other
    split
    case isTrue large =>
      have range : 2048 < e := large
      exact rounds_infinity (two_zpow_le_scientific positive (by omega))
    case isFalse =>
      split
      case isTrue tiny =>
        have range : e < -(2048 + (m.log2 : ℤ)) := tiny
        exact rounds_zero
          (nearest_of_tiny (by positivity) (scientific_le_two_zpow (by omega)))
      case isFalse =>
        split
        case isTrue nonneg => exact rounds_scaled positive nonneg
        case isFalse negative =>
          have exact : (m * 10 ^ e : ℚ) = m * 2 ^ (0 : ℤ) / ((10 ^ (-e).toNat : ℕ) * 2 ^ (0 : ℤ)) := by
            obtain ⟨k, rfl⟩ : ∃ k : ℕ, e = -k := ⟨(-e).toNat, by omega⟩
            rw [neg_neg, Int.toNat_natCast, zpow_zero, mul_one, mul_one, zpow_neg, zpow_natCast,
              Nat.cast_pow, div_eq_mul_inv]
            rfl
          rw [exact]
          exact rounds_pack div_value.1 div_value.2

end Double

namespace Decimal

/-- The exact value of a decimal. -/
def value (d : Decimal) : ℚ := d.digits * 10 ^ d.exponent

/-- A decimal with few digits and a small exponent is a product or a quotient of exact doubles. -/
theorem rounds_short {m k : ℕ} (short : m < 2 ^ 53) (small : k ≤ 22) :
    Double.Rounds (.ofScientific m false k) (m * 10 ^ (k : ℤ)) ∧
      Double.Rounds (.ofScientific m true k) (m * 10 ^ (-k : ℤ)) := by
  have finite := Double.isFinite_ofUInt64 m.toUInt64
  have exact := Double.value_ofUInt64 short
  obtain ⟨finite', power⟩ :=
    Double.value_of_isPowerOfTen (Double.isPowerOfTen_table ⟨k, by omega⟩)
  have product := Double.rounds_mul finite finite'
  have quotient := Double.rounds_div finite finite' (by rw [power]; positivity)
  rw [exact, power] at product quotient
  rw [zpow_neg, zpow_natCast, ← div_eq_mul_inv]
  unfold Float.ofScientific
  rw [dif_pos ⟨short, small⟩, dif_pos ⟨short, small⟩]
  exact ⟨product, quotient⟩

/-- **The double of a decimal is the nearest one.** -/
theorem rounds_toFloat (d : Decimal) : Double.Rounds d.toFloat d.value := by
  obtain ⟨m, e⟩ := d
  have long {sign : Bool} {k : ℕ} (large : ¬ (m < 2 ^ 53 ∧ k ≤ 22)) :
      Float.ofScientific m sign k = .ofModel (.pack (UnpackedFloat.ofScientific .binary64 m
        (if sign then Int.negOfNat k else k))) := by
    unfold Float.ofScientific
    rw [dif_neg large]
    rfl
  cases e with
  | ofNat k =>
      show Double.Rounds (.ofScientific m false k) (m * 10 ^ (k : ℤ))
      by_cases small : m < 2 ^ 53 ∧ k ≤ 22
      · exact (rounds_short small.1 small.2).1
      · rw [long small]
        exact Double.rounds_ofScientific m k
  | negSucc k =>
      show Double.Rounds (.ofScientific m true (k + 1)) (m * 10 ^ (-((k + 1 : ℕ) : ℤ)))
      by_cases small : m < 2 ^ 53 ∧ k + 1 ≤ 22
      · exact (rounds_short small.1 small.2).2
      · rw [long small]
        exact Double.rounds_ofScientific m (.negSucc k)

/-- The double of a decimal that is rounded to a finite double other than zero is that double. -/
theorem toFloat_eq {d : Decimal} {x : Float} (finite : x.isFinite = true)
    (rounded : nearest d.value = Double.value x) (some : Double.value x ≠ 0) : d.toFloat = x := by
  have rounds := d.rounds_toFloat
  have finite' : d.toFloat.isFinite = true := by
    rw [rounds.isFinite_iff, rounded]
    exact Double.abs_value_lt x
  have same := (rounds.value_eq finite').trans rounded
  exact Double.eq_of_value_eq finite' finite same (same ▸ some)

/-- A decimal of the value zero has the double zero, whatever its exponent. -/
theorem toFloat_of_value_zero {d : Decimal} (none : d.value = 0) :
    d.toFloat = .ofModel (.pack (.zero .positive)) := by
  obtain ⟨m, e⟩ := d
  obtain rfl : m = 0 := by
    have power : (10 : ℚ) ^ e ≠ 0 := by positivity
    exact_mod_cast (mul_eq_zero.1 none).resolve_right power
  have zero (sign : Bool) (k : ℕ) :
      Float.ofScientific 0 sign k = .ofModel (.pack (.zero .positive)) := by
    unfold Float.ofScientific
    split
    case isTrue small =>
      obtain ⟨product, quotient⟩ :=
        Double.zero_scaled (Double.isPowerOfTen_table ⟨k, by omega⟩)
      cases sign with
      | true => exact quotient
      | false => exact product
    case isFalse => rfl
  cases e with
  | ofNat k => exact zero false k
  | negSucc k => exact zero true (k + 1)

end Decimal

/-- The double of a whole number is the nearest one. -/
theorem Double.rounds_ofDecimal (n : ℕ) : Rounds (ofDecimal n 0) n := by
  have rounds := Decimal.rounds_toFloat ⟨n, 0⟩
  rwa [Decimal.value, zpow_zero, mul_one] at rounds

end Quadrature.Number
