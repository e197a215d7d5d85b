/-
# Quadrature.Proofs.Rule.Degree -- which polynomials the rules integrate exactly

In exact arithmetic the midpoint and the trapezoidal rule give the integral of every polynomial of
degree at most one, and Simpson's rule of every one of degree at most three, for any domain and any
number of steps. On one panel this is an identity between values of the polynomial and of its
primitive; the panels add up to the domain.

* `integral_aeval`: the integral of a polynomial by its coefficients;
* `exact_integral`: the degrees of exactness.
-/
import Quadrature.Proofs.Rule.Exact

namespace Quadrature

set_option autoImplicit false

open Finset (range)
open Polynomial

/-- The value at `x` of the primitive of a polynomial of degree below `n` that is zero at zero. -/
noncomputable def primitive (p : ℚ[X]) (n : ℕ) (x : ℚ) : ℚ :=
  ∑ i ∈ range n, p.coeff i * (x ^ (i + 1) / (i + 1))

/-- The integral of a polynomial is what its primitive grows by. -/
theorem integral_aeval {p : ℚ[X]} {n : ℕ} (degree : p.natDegree < n) (x0 x1 : ℚ) :
    ∫ x in (x0 : ℝ)..x1, aeval x p = ((primitive p n x1 - primitive p n x0 : ℚ) : ℝ) := by
  have terms (x : ℝ) : aeval x p = ∑ i ∈ range n, (p.coeff i : ℝ) * x ^ i := by
    simp [aeval_eq_sum_range' degree, Rat.smul_def]
  simp only [terms]
  rw [intervalIntegral.integral_finsetSum]
  · simp only [intervalIntegral.integral_const_mul, integral_pow, primitive]
    push_cast
    rw [← Finset.sum_sub_distrib]
    refine Finset.sum_congr rfl fun i _ => ?_
    ring
  · intro i _
    exact (continuous_const.mul (continuous_pow i)).intervalIntegrable _ _

namespace Method

variable {p : ℚ[X]}

theorem panel_midpoint (degree : p.natDegree < 2) (a h : ℚ) :
    p.eval (a + h / 2) * h = primitive p 2 (a + h) - primitive p 2 a := by
  simp only [eval_eq_sum_range' degree, primitive, Finset.sum_range_succ, Finset.sum_range_zero]
  push_cast
  ring

theorem panel_trapezoidal (degree : p.natDegree < 2) (a h : ℚ) :
    (p.eval a + p.eval (a + h)) / 2 * h = primitive p 2 (a + h) - primitive p 2 a := by
  simp only [eval_eq_sum_range' degree, primitive, Finset.sum_range_succ, Finset.sum_range_zero]
  push_cast
  ring

theorem panel_simpson (degree : p.natDegree < 4) (a h : ℚ) :
    (p.eval a + 4 * p.eval (a + h) + p.eval (a + 2 * h)) * h / 3 =
      primitive p 4 (a + 2 * h) - primitive p 4 a := by
  simp only [eval_eq_sum_range' degree, primitive, Finset.sum_range_succ, Finset.sum_range_zero]
  push_cast
  ring

/-- **The degrees of exactness**: in exact arithmetic the midpoint and the trapezoidal rule integrate
linear functions exactly, and Simpson's rule cubic ones. -/
theorem exact_integral (p : ℚ[X]) (x0 x1 : ℚ) {n : ℕ} (positive : 0 < n) :
    (p.natDegree ≤ 1 →
      (midpoint.exact (p.eval ·) x0 x1 n : ℝ) = ∫ x in (x0 : ℝ)..x1, aeval x p) ∧
    (p.natDegree ≤ 1 →
      (trapezoidal.exact (p.eval ·) x0 x1 n : ℝ) = ∫ x in (x0 : ℝ)..x1, aeval x p) ∧
    (n % 2 = 0 → p.natDegree ≤ 3 →
      (simpson.exact (p.eval ·) x0 x1 n : ℝ) = ∫ x in (x0 : ℝ)..x1, aeval x p) := by
  refine ⟨fun degree => ?_, fun degree => ?_, fun even degree => ?_⟩
  · have linear : p.natDegree < 2 := by omega
    rw [integral_aeval linear,
      exact_midpoint_of_panels x0 x1 positive (panel_midpoint linear)]
  · have linear : p.natDegree < 2 := by omega
    rw [integral_aeval linear,
      exact_trapezoidal_of_panels x0 x1 positive (panel_trapezoidal linear)]
  · have cubic : p.natDegree < 4 := by omega
    obtain ⟨k, rfl⟩ : ∃ k, n = 2 * k := ⟨n / 2, by omega⟩
    have some : 0 < k := by omega
    rw [integral_aeval cubic, exact_simpson_of_panels x0 x1 some (panel_simpson cubic)]

/-- The theorem at a line and at a cubic, on a domain that runs backwards. -/
theorem exact_integral_backwards :
    0 < 4 ∧ (X : ℚ[X]).natDegree ≤ 1 ∧ (X ^ 3 : ℚ[X]).natDegree ≤ 3 ∧
      (midpoint.exact ((X : ℚ[X]).eval ·) 2 (-1) 4 : ℝ) =
        ∫ x in ((2 : ℚ) : ℝ)..(-1 : ℚ), aeval x (X : ℚ[X]) ∧
      (trapezoidal.exact ((X : ℚ[X]).eval ·) 2 (-1) 4 : ℝ) =
        ∫ x in ((2 : ℚ) : ℝ)..(-1 : ℚ), aeval x (X : ℚ[X]) ∧
      (simpson.exact ((X ^ 3 : ℚ[X]).eval ·) 2 (-1) 4 : ℝ) =
        ∫ x in ((2 : ℚ) : ℝ)..(-1 : ℚ), aeval x (X ^ 3 : ℚ[X]) := by
  have positive : 0 < 4 := by decide
  have linear : (X : ℚ[X]).natDegree ≤ 1 := natDegree_X_le
  have cubic : (X ^ 3 : ℚ[X]).natDegree ≤ 3 := natDegree_X_pow_le 3
  obtain ⟨mid, trapezium, -⟩ := exact_integral (X : ℚ[X]) 2 (-1) positive
  obtain ⟨-, -, parabola⟩ := exact_integral (X ^ 3 : ℚ[X]) 2 (-1) positive
  exact ⟨positive, linear, cubic, mid linear, trapezium linear, parabola rfl cubic⟩

end Method

end Quadrature
