/-
# Quadrature.Proofs.Rule.Relations -- how the rules are related

In exact arithmetic a rule is known by what it takes on one panel, so a relation between rules is one
between what they take. On a panel the trapezoidal rule takes the mean of what the left and the right
rule take, and Simpson's rule weighs the middle twice against the trapezium. Read from its other end
a panel has its left and its right exchanged, and its width changes sign. And what is taken lies
between any bounds of the function on the panel, so that the sum lies between the bounds times the
width of the domain.

* `exact_consistent`: sums of some rules from those of others;
* `exact_reversed`: a domain that runs the other way;
* `exact_bounded`: sums of functions with bounds.
-/
import Quadrature.Proofs.Rule.Exact

namespace Quadrature

set_option autoImplicit false

open Finset (range)

namespace Method

variable {f : ℚ → ℚ} {n : ℕ}

/-! ## Rules from other rules -/

theorem sum_pairs (y : ℕ → ℚ) (n : ℕ) :
    ∑ i ∈ range (2 * n), y i = ∑ j ∈ range n, (y (2 * j) + y (2 * j + 1)) := by
  induction n with
  | zero => rfl
  | succ n ih =>
      rw [Nat.mul_succ, Finset.sum_range_succ, Finset.sum_range_succ, ih, Finset.sum_range_succ,
        add_assoc]

/-- The trapeziums on the two halves of a panel are the mean of the trapezium and the rectangle on
the whole. -/
theorem panel_halves (f : ℚ → ℚ) (a h : ℚ) :
    trapezoidal.panel f a (h / 2) * (h / 2) + trapezoidal.panel f (a + h / 2) (h / 2) * (h / 2) =
      (trapezoidal.panel f a h * h + midpoint.panel f a h * h) / 2 := by
  have whole : a + h / 2 + h / 2 = a + h := by ring
  simp only [panel, whole]
  ring

/-- With twice as many steps, the trapezoidal rule takes its trapeziums on the halves of panels. -/
theorem exact_trapezoidal_double (f : ℚ → ℚ) (x0 x1 : ℚ) (positive : 0 < n) :
    trapezoidal.exact f x0 x1 (2 * n) =
      (trapezoidal.exact f x0 x1 n + midpoint.exact f x0 x1 n) / 2 := by
  have half : (x1 - x0) / (2 * n : ℕ) = (x1 - x0) / n / 2 := by
    rw [Nat.cast_mul, Nat.cast_two, mul_comm, div_mul_eq_div_div]
  rw [exact_eq_steps f x0 x1 trapezoidal (by omega) rfl,
    exact_eq_steps f x0 x1 trapezoidal positive rfl,
    exact_eq_steps f x0 x1 midpoint positive rfl, ← Finset.sum_add_distrib, Finset.sum_div,
    sum_pairs]
  refine Finset.sum_congr rfl fun j _ => ?_
  have first : point x0 x1 (2 * n) (2 * j : ℕ) = point x0 x1 n j := by
    rw [Nat.cast_mul, Nat.cast_two, point_double]
  rw [Nat.cast_succ, point_succ, first, half]
  exact panel_halves f (point x0 x1 n j) ((x1 - x0) / n)

/-- **The rules are consistent**: the trapezoidal sum is the mean of the left and the right one, and
sums with twice as many steps come from the trapezoidal and the midpoint sum. -/
theorem exact_consistent (f : ℚ → ℚ) (x0 x1 : ℚ) (positive : 0 < n) :
    trapezoidal.exact f x0 x1 n = (left.exact f x0 x1 n + right.exact f x0 x1 n) / 2 ∧
    trapezoidal.exact f x0 x1 (2 * n) =
      (trapezoidal.exact f x0 x1 n + midpoint.exact f x0 x1 n) / 2 ∧
    simpson.exact f x0 x1 (2 * n) =
      (trapezoidal.exact f x0 x1 n + 2 * midpoint.exact f x0 x1 n) / 3 := by
  refine ⟨?_, exact_trapezoidal_double f x0 x1 positive, ?_⟩
  · rw [exact_eq_steps f x0 x1 trapezoidal positive rfl, exact_eq_steps f x0 x1 left positive rfl,
      exact_eq_steps f x0 x1 right positive rfl, ← Finset.sum_add_distrib, Finset.sum_div]
    refine Finset.sum_congr rfl fun i _ => ?_
    simp only [panel]
    ring
  · rw [exact_simpson_panels f x0 x1 positive,
      exact_eq_steps f x0 x1 trapezoidal positive rfl, exact_eq_steps f x0 x1 midpoint positive rfl,
      Finset.mul_sum, ← Finset.sum_add_distrib, Finset.sum_div]
    refine Finset.sum_congr rfl fun i _ => ?_
    simp only [panel]
    ring

/-- The theorem at a fraction on a domain that runs backwards. -/
theorem exact_consistent_backwards :
    let f : ℚ → ℚ := fun x => 1 / (x + 3)
    0 < 5 ∧ trapezoidal.exact f 2 (-1) 5 = (left.exact f 2 (-1) 5 + right.exact f 2 (-1) 5) / 2 ∧
      trapezoidal.exact f 2 (-1) 10 =
        (trapezoidal.exact f 2 (-1) 5 + midpoint.exact f 2 (-1) 5) / 2 ∧
      simpson.exact f 2 (-1) 10 =
        (trapezoidal.exact f 2 (-1) 5 + 2 * midpoint.exact f 2 (-1) 5) / 3 := by
  intro f
  have positive : 0 < 5 := by decide
  exact ⟨positive, exact_consistent f 2 (-1) positive⟩

/-! ## The other way -/

/-- The rule that takes on a panel what this rule takes on it from its other end. -/
def mirrored : Method → Method
  | .left => .right
  | .right => .left
  | m => m

theorem requiresEven_mirrored (m : Method) : m.mirrored.requiresEven = m.requiresEven := by
  cases m <;> rfl

theorem panels_mirrored (m : Method) (n : ℕ) : m.mirrored.panels n = m.panels n := by
  cases m <;> rfl

theorem panel_mirrored (m : Method) (f : ℚ → ℚ) (a h : ℚ) :
    m.panel f (a + h) (-h) = m.mirrored.panel f a h := by
  have back : a + h + -h = a := by ring
  have middle : a + h + -h / 2 = a + h / 2 := by ring
  cases m with
  | left => rfl
  | right => exact congrArg f back
  | midpoint => exact congrArg f middle
  | trapezoidal =>
      simp only [mirrored, panel, back]
      ring
  | simpson =>
      simp only [mirrored, panel, back, middle]
      ring

/-- The points of a grid from its other end. -/
theorem point_reversed (x0 x1 : ℚ) {k i : ℕ} (inside : i < k) :
    point x1 x0 k (k - 1 - i : ℕ) = point x0 x1 k i + (x1 - x0) / k := by
  have nonzero : (k : ℚ) ≠ 0 := Nat.cast_ne_zero.2 (by omega)
  unfold point
  rw [Nat.sub_sub, Nat.cast_sub (by omega)]
  push_cast
  field_simp
  ring

/-- **On a domain that runs the other way** a rule gives the negative of the sum of its mirror image,
which is the rule itself but for left and right. -/
theorem exact_reversed (m : Method) (f : ℚ → ℚ) (x0 x1 : ℚ) (positive : 0 < n)
    (even : m.requiresEven = true → n % 2 = 0) :
    m.exact f x1 x0 n = -m.mirrored.exact f x0 x1 n := by
  have width : (x0 - x1) / m.panels n = -((x1 - x0) / m.panels n) := by ring
  rw [exact_eq_panels f x1 x0 m positive even, exact_eq_panels f x0 x1 m.mirrored positive
    (by rwa [requiresEven_mirrored]), panels_mirrored, ← Finset.sum_neg_distrib,
    ← Finset.sum_range_reflect]
  refine Finset.sum_congr rfl fun i inside => ?_
  rw [point_reversed x0 x1 (Finset.mem_range.1 inside), width, panel_mirrored, mul_neg]

/-- The theorem at the left rule, and at the one that needs an even number. -/
theorem exact_reversed_cube :
    0 < 4 ∧ (simpson.requiresEven = true → 4 % 2 = 0) ∧ (left.requiresEven = true → 4 % 2 = 0) ∧
      simpson.exact (· ^ 3) 2 (-1) 4 = -simpson.exact (· ^ 3) (-1) 2 4 ∧
      left.exact (· ^ 3) 2 (-1) 4 = -right.exact (· ^ 3) (-1) 2 4 := by
  have positive : 0 < 4 := by decide
  have even : ∀ m : Method, m.requiresEven = true → 4 % 2 = 0 := fun _ _ => rfl
  exact ⟨positive, even simpson, even left, exact_reversed simpson _ (-1) 2 positive (even simpson),
    exact_reversed left _ (-1) 2 positive (even left)⟩

/-! ## Bounds -/

open Set (Icc)

/-- What a rule takes lies between the bounds of the function on the panel. -/
theorem panel_bounded (m : Method) {a h lo hi : ℚ} (width : 0 ≤ h)
    (bounded : ∀ x ∈ Icc a (a + h), f x ∈ Icc lo hi) : m.panel f a h ∈ Icc lo hi := by
  obtain ⟨lo0, hi0⟩ := bounded a ⟨le_rfl, by linarith⟩
  obtain ⟨lo1, hi1⟩ := bounded (a + h) ⟨by linarith, le_rfl⟩
  obtain ⟨lom, him⟩ := bounded (a + h / 2) ⟨by linarith, by linarith⟩
  cases m with
  | left => exact ⟨lo0, hi0⟩
  | right => exact ⟨lo1, hi1⟩
  | midpoint => exact ⟨lom, him⟩
  | trapezoidal => constructor <;> simp only [panel] <;> linarith
  | simpson => constructor <;> simp only [panel] <;> linarith

/-- The panels of a domain lie in it. -/
theorem panel_subset {x0 x1 : ℚ} (ordered : x0 ≤ x1) {k i : ℕ} (inside : i < k) :
    Icc (point x0 x1 k i) (point x0 x1 k i + (x1 - x0) / k) ⊆ Icc x0 x1 := by
  have width : 0 ≤ (x1 - x0) / k := div_nonneg (by linarith) k.cast_nonneg
  have last : point x0 x1 k k = x1 := point_self x0 x1 (by omega)
  have before : ((i + 1 : ℕ) : ℚ) ≤ k := Nat.cast_le.2 inside
  refine Set.Icc_subset_Icc ?_ ?_
  · exact le_add_of_nonneg_right (mul_nonneg i.cast_nonneg width)
  · rw [← point_succ, ← Nat.cast_succ]
    calc point x0 x1 k (i + 1 : ℕ) ≤ point x0 x1 k k :=
          add_le_add_right (mul_le_mul_of_nonneg_right before width) x0
      _ = x1 := last

/-- **The mean that a rule takes lies between the bounds of the function** on the domain, whatever the
function is elsewhere. -/
theorem exact_bounded (m : Method) {x0 x1 lo hi : ℚ} (ordered : x0 ≤ x1) (positive : 0 < n)
    (even : m.requiresEven = true → n % 2 = 0) (bounded : ∀ x ∈ Icc x0 x1, f x ∈ Icc lo hi) :
    m.exact f x0 x1 n ∈ Icc (lo * (x1 - x0)) (hi * (x1 - x0)) := by
  have some := panels_pos m positive even
  have nonzero : (m.panels n : ℚ) ≠ 0 := Nat.cast_ne_zero.2 some.ne'
  have width : 0 ≤ (x1 - x0) / m.panels n := div_nonneg (by linarith) (Nat.cast_nonneg _)
  have taken (i : ℕ) (inside : i ∈ range (m.panels n)) :
      m.panel f (point x0 x1 (m.panels n) i) ((x1 - x0) / m.panels n) ∈ Icc lo hi :=
    panel_bounded m width fun x here =>
      bounded x (panel_subset ordered (Finset.mem_range.1 inside) here)
  have total (c : ℚ) :
      ∑ _i ∈ range (m.panels n), c * ((x1 - x0) / m.panels n) = c * (x1 - x0) := by
    rw [Finset.sum_const, Finset.card_range, nsmul_eq_mul]
    field_simp
  rw [exact_eq_panels f x0 x1 m positive even, ← total lo, ← total hi]
  constructor
  · exact Finset.sum_le_sum fun i inside => mul_le_mul_of_nonneg_right (taken i inside).1 width
  · exact Finset.sum_le_sum fun i inside => mul_le_mul_of_nonneg_right (taken i inside).2 width

/-- The theorem at a function that leaves its bounds outside the domain. -/
theorem exact_bounded_square :
    (0 : ℚ) ≤ 1 ∧ 0 < 2 ∧ (simpson.requiresEven = true → 2 % 2 = 0) ∧
      (∀ x ∈ Icc (0 : ℚ) 1, x ^ 2 ∈ Icc (0 : ℚ) 1) ∧
      simpson.exact (· ^ 2) 0 1 2 ∈ Icc (0 * (1 - 0) : ℚ) (1 * (1 - 0)) := by
  have ordered : (0 : ℚ) ≤ 1 := zero_le_one
  have positive : 0 < 2 := two_pos
  have even : simpson.requiresEven = true → 2 % 2 = 0 := fun _ => rfl
  have bounded : ∀ x ∈ Icc (0 : ℚ) 1, x ^ 2 ∈ Icc (0 : ℚ) 1 :=
    fun x here => ⟨sq_nonneg x, pow_le_one₀ here.1 here.2⟩
  exact ⟨ordered, positive, even, bounded, exact_bounded simpson ordered positive even bounded⟩

end Method

end Quadrature
