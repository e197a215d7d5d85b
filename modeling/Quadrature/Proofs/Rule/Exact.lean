/-
# Quadrature.Proofs.Rule.Exact -- the rules in exact arithmetic

Over rational numbers nothing is rounded, so the sums of the rules can be written as such and
regrouped. A rule adds up one term for each panel, which is a step of the grid, or two steps for
Simpson's rule: its weights come from panels that share their ends. So a rule is known by what it
takes on one panel. What it gets right on each panel it gets right on the whole domain, because the
ends of the panels cancel.

* `exact_left` … `exact_simpson`: the sums of the five rules;
* `panel`, `exact_eq_panels`: what a rule takes on a panel, and its sum by panels;
* `exact_of_panels`: where each panel gives what a function grows by over it, the rule gives what it
  grows by over the domain.
-/
import Mathlib
import Quadrature.Proofs.Rule.Sampling

namespace Quadrature

set_option autoImplicit false

open Finset (range)

instance : Arithmetic ℚ where
  ofNat n := n
  half := 1 / 2

/-- The point `t` steps from `x0` on the way to `x1` in `n` steps. -/
def point (x0 x1 : ℚ) (n : ℕ) (t : ℚ) : ℚ := x0 + t * ((x1 - x0) / n)

section

variable (x0 x1 : ℚ) {n : ℕ}

@[simp] theorem point_zero : point x0 x1 n 0 = x0 := by simp [point]

theorem point_self (positive : 0 < n) : point x0 x1 n n = x1 := by
  have nonzero : (n : ℚ) ≠ 0 := by positivity
  unfold point
  field_simp
  ring

theorem point_succ (t : ℚ) : point x0 x1 n (t + 1) = point x0 x1 n t + (x1 - x0) / n := by
  unfold point
  ring

theorem point_half (t : ℚ) :
    point x0 x1 n (t + 1 / 2) = point x0 x1 n t + (x1 - x0) / n / 2 := by
  unfold point
  ring

/-- Every second point of a grid is one of the grid with half as many steps. -/
theorem point_double (k : ℕ) (t : ℚ) : point x0 x1 (2 * k) (2 * t) = point x0 x1 k t := by
  unfold point
  rw [Nat.cast_mul, Nat.cast_two]
  ring

/-- What a function grows by over the domain is what it grows by over the steps. -/
theorem sum_growth (F : ℚ → ℚ) (positive : 0 < n) :
    ∑ i ∈ range n, (F (point x0 x1 n i + (x1 - x0) / n) - F (point x0 x1 n i)) = F x1 - F x0 := by
  have telescopes := Finset.sum_range_sub (fun i : ℕ => F (point x0 x1 n i)) n
  simpa [point_self x0 x1 positive, point_succ] using telescopes

end

namespace Method

/-- The sum of a rule over the grid of `n` steps from `x0` to `x1`, nothing being rounded. -/
def exact (m : Method) (f : ℚ → ℚ) (x0 x1 : ℚ) (n : ℕ) : ℚ :=
  Id.run (m.sum (fun x => pure (f x)) id (.between id x0 x1 n))

/-- Terms are added up from left to right, by induction on their number. -/
theorem accumulate_eq_sum (term : ℕ → ℚ) (count i : ℕ) (total : ℚ) :
    accumulate (fun i => (pure (term i) : Id ℚ)) count i total =
      pure (total + ∑ j ∈ range count, term (i + j)) := by
  induction count generalizing i total with
  | zero => simp [accumulate]
  | succ count ih =>
      rw [accumulate, pure_bind, ih, Finset.sum_range_succ', add_assoc]
      congr 1
      simp only [Nat.add_zero, Nat.add_assoc, Nat.add_comm 1]
      ring

section

variable (f : ℚ → ℚ) (x0 x1 : ℚ) (n : ℕ)

theorem exact_left : left.exact f x0 x1 n =
    (∑ i ∈ range n, f (point x0 x1 n i)) * ((x1 - x0) / n) := by
  have total := accumulate_eq_sum (fun i => f (point x0 x1 n i)) n 0 0
  simp only [zero_add] at total
  exact congrArg (fun total => Id.run total * ((x1 - x0) / n)) total

theorem exact_right : right.exact f x0 x1 n =
    (∑ i ∈ range n, f (point x0 x1 n (i + 1 : ℕ))) * ((x1 - x0) / n) := by
  have total := accumulate_eq_sum (fun i => f (point x0 x1 n i)) n 1 0
  simp only [zero_add, Nat.add_comm 1] at total
  exact congrArg (fun total => Id.run total * ((x1 - x0) / n)) total

theorem exact_midpoint : midpoint.exact f x0 x1 n =
    (∑ i ∈ range n, f (point x0 x1 n (i + 1 / 2))) * ((x1 - x0) / n) := by
  have total := accumulate_eq_sum (fun i => f (point x0 x1 n (i + 1 / 2))) n 0 0
  simp only [zero_add] at total
  exact congrArg (fun total => Id.run total * ((x1 - x0) / n)) total

theorem exact_trapezoidal : trapezoidal.exact f x0 x1 n =
    (∑ i ∈ range n, (f (point x0 x1 n i) + f (point x0 x1 n (i + 1 : ℕ))) / 2) *
      ((x1 - x0) / n) := by
  have total := accumulate_eq_sum
    (fun i => (f (point x0 x1 n i) + f (point x0 x1 n (i + 1 : ℕ))) / 2) n 0 0
  simp only [zero_add] at total
  exact congrArg (fun total => Id.run total * ((x1 - x0) / n)) total

theorem exact_simpson : simpson.exact f x0 x1 n =
    (f x0 + f x1 + ∑ i ∈ range (n - 1),
      simpsonWeight (i + 1) * f (point x0 x1 n (i + 1 : ℕ))) * ((x1 - x0) / n) / 3 := by
  have total := accumulate_eq_sum (fun i => simpsonWeight i * f (point x0 x1 n i)) (n - 1) 1
    (f x0 + f x1)
  simp only [Nat.add_comm 1] at total
  exact congrArg (fun total => Id.run total * ((x1 - x0) / n) / 3) total

end

/-! ## Panels -/

@[simp] theorem simpsonWeight_even (j : ℕ) : simpsonWeight (2 * j) = (2 : ℚ) := by
  simp [simpsonWeight, Arithmetic.ofNat]

@[simp] theorem simpsonWeight_odd (j : ℕ) : simpsonWeight (2 * j + 1) = (4 : ℚ) := by
  simp [simpsonWeight, Arithmetic.ofNat]

/-- Simpson's weights are those of panels of two steps that share their ends. -/
theorem simpson_panels (y : ℕ → ℚ) (k : ℕ) :
    y 0 + y (2 * (k + 1)) + ∑ i ∈ range (2 * k + 1), simpsonWeight (i + 1) * y (i + 1) =
      ∑ j ∈ range (k + 1), (y (2 * j) + 4 * y (2 * j + 1) + y (2 * j + 2)) := by
  induction k with
  | zero =>
      have first : simpsonWeight (0 + 1) = (4 : ℚ) := simpsonWeight_odd 0
      simp only [Nat.mul_zero, Nat.zero_add, Finset.sum_range_one] at first ⊢
      rw [first]
      ring
  | succ k ih =>
      -- One more panel turns the last end into an inner point and adds a middle.
      have inner : simpsonWeight (2 * k + 1 + 1) = (2 : ℚ) := simpsonWeight_even (k + 1)
      have middle : simpsonWeight (2 * k + 1 + 1 + 1) = (4 : ℚ) := simpsonWeight_odd (k + 1)
      rw [Finset.sum_range_succ _ (k + 1), ← ih, show 2 * (k + 1) + 1 = 2 * k + 1 + 1 + 1 by ring,
        Finset.sum_range_succ, Finset.sum_range_succ, inner, middle]
      ring_nf

/-- How many panels a rule makes of `n` steps. -/
def panels (n : ℕ) : Method → ℕ
  | .simpson => n / 2
  | _ => n

/-- The value that a rule takes for a function on the panel of width `h` from `a`. -/
def panel (f : ℚ → ℚ) (a h : ℚ) : Method → ℚ
  | .left => f a
  | .right => f (a + h)
  | .midpoint => f (a + h / 2)
  | .trapezoidal => (f a + f (a + h)) / 2
  | .simpson => (f a + 4 * f (a + h / 2) + f (a + h)) / 6

theorem panels_pos {n : ℕ} (m : Method) (positive : 0 < n)
    (even : m.requiresEven = true → n % 2 = 0) : 0 < m.panels n := by
  cases m with
  | simpson =>
      have := even rfl
      show 0 < n / 2
      omega
  | _ => exact positive

section

variable (f : ℚ → ℚ) (x0 x1 : ℚ) {n k : ℕ}

/-- Simpson's rule goes by panels of two steps. -/
theorem exact_simpson_panels (positive : 0 < k) : simpson.exact f x0 x1 (2 * k) =
    ∑ j ∈ range k, simpson.panel f (point x0 x1 k j) ((x1 - x0) / k) * ((x1 - x0) / k) := by
  obtain ⟨k, rfl⟩ := Nat.exists_eq_add_one_of_ne_zero positive.ne'
  have ends : point x0 x1 (2 * (k + 1)) (2 * (k + 1) : ℕ) = x1 := point_self x0 x1 (by omega)
  have sum := simpson_panels (fun i => f (point x0 x1 (2 * (k + 1)) i)) k
  simp only [ends, Nat.cast_zero, point_zero] at sum
  rw [exact_simpson, show 2 * (k + 1) - 1 = 2 * k + 1 by omega, sum, Finset.sum_mul,
    Finset.sum_div]
  refine Finset.sum_congr rfl fun j _ => ?_
  have first : point x0 x1 (2 * (k + 1)) (2 * j : ℕ) = point x0 x1 (k + 1) j := by
    rw [Nat.cast_mul, Nat.cast_two, point_double]
  have width : (x1 - x0) / (k + 1 : ℕ) = 2 * ((x1 - x0) / (2 * (k + 1) : ℕ)) := by
    push_cast
    field_simp
  rw [Nat.cast_succ (2 * j + 1), point_succ, Nat.cast_succ (2 * j), point_succ, first, width,
    panel, mul_div_cancel_left₀ _ (two_ne_zero' ℚ),
    two_mul ((x1 - x0) / (2 * (k + 1) : ℕ)), ← add_assoc (point x0 x1 (k + 1) j)]
  ring

/-- **A rule adds up what it takes on each panel**, times the width of the panel. -/
theorem exact_eq_panels (m : Method) (positive : 0 < n)
    (even : m.requiresEven = true → n % 2 = 0) : m.exact f x0 x1 n =
      ∑ i ∈ range (m.panels n), m.panel f (point x0 x1 (m.panels n) i)
        ((x1 - x0) / m.panels n) * ((x1 - x0) / m.panels n) := by
  cases m with
  | left => rw [exact_left, Finset.sum_mul]; rfl
  | right => simp only [exact_right, Finset.sum_mul, Nat.cast_succ, point_succ]; rfl
  | midpoint => simp only [exact_midpoint, Finset.sum_mul, point_half]; rfl
  | trapezoidal => simp only [exact_trapezoidal, Finset.sum_mul, Nat.cast_succ, point_succ]; rfl
  | simpson =>
      have halves : n % 2 = 0 := even rfl
      obtain ⟨k, rfl⟩ : ∃ k, n = 2 * k := ⟨n / 2, by omega⟩
      rw [exact_simpson_panels f x0 x1 (by omega)]
      show _ = ∑ i ∈ range (2 * k / 2), simpson.panel f (point x0 x1 (2 * k / 2) i)
        ((x1 - x0) / (2 * k / 2 : ℕ)) * ((x1 - x0) / (2 * k / 2 : ℕ))
      rw [Nat.mul_div_cancel_left k two_pos]

/-- The panels of a rule for any number of steps are the steps. -/
theorem exact_eq_steps (m : Method) (positive : 0 < n) (free : m.requiresEven = false) :
    m.exact f x0 x1 n =
      ∑ i ∈ range n, m.panel f (point x0 x1 n i) ((x1 - x0) / n) * ((x1 - x0) / n) := by
  have steps : m.panels n = n := by
    cases m with
    | simpson => cases free
    | _ => rfl
  have sum := exact_eq_panels f x0 x1 m positive fun even => by rw [free] at even; cases even
  rwa [steps] at sum

end

/-! ## What is right on each panel -/

section

variable {f F : ℚ → ℚ} (x0 x1 : ℚ) {n k : ℕ}

/-- Where each panel gives what a function grows by over it, the rule gives what it grows by over
the domain. -/
theorem exact_of_panels (m : Method) (positive : 0 < n)
    (even : m.requiresEven = true → n % 2 = 0)
    (right : ∀ a h, m.panel f a h * h = F (a + h) - F a) : m.exact f x0 x1 n = F x1 - F x0 := by
  rw [exact_eq_panels f x0 x1 m positive even,
    ← sum_growth x0 x1 F (panels_pos m positive even)]
  exact Finset.sum_congr rfl fun i _ => right _ _

theorem exact_midpoint_of_panels (positive : 0 < n)
    (panel : ∀ a h, f (a + h / 2) * h = F (a + h) - F a) :
    midpoint.exact f x0 x1 n = F x1 - F x0 :=
  exact_of_panels x0 x1 midpoint positive nofun panel

theorem exact_trapezoidal_of_panels (positive : 0 < n)
    (panel : ∀ a h, (f a + f (a + h)) / 2 * h = F (a + h) - F a) :
    trapezoidal.exact f x0 x1 n = F x1 - F x0 :=
  exact_of_panels x0 x1 trapezoidal positive nofun panel

theorem exact_simpson_of_panels (positive : 0 < k)
    (panel : ∀ a h, (f a + 4 * f (a + h) + f (a + 2 * h)) * h / 3 = F (a + 2 * h) - F a) :
    simpson.exact f x0 x1 (2 * k) = F x1 - F x0 := by
  refine exact_of_panels x0 x1 simpson (by omega) (fun _ => by omega) fun a h => ?_
  have halves := panel a (h / 2)
  rw [mul_div_cancel₀ h (two_ne_zero' ℚ)] at halves
  rw [← halves, Method.panel]
  ring

end

end Method
end Quadrature
