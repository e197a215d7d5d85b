/-
# Quadrature.Proofs.Number.Overflow -- which points of a grid are finite doubles

A point `x + c * h` of a grid is reached by two roundings, and can overflow in either. All roundings
keep the order, so points lie in order behind the origin and a point before a finite one is finite.
And roundings are small, so points are finite where the ends of the grid and their distance keep
clear of the greatest double.

* `isFinite_between`: a point is finite if one behind it is;
* `isFinite_of_roomy`: the points are finite where ends and distance are clear of the greatest double.
-/
import Quadrature.Proofs.Number.Operations

namespace Quadrature.Number

set_option autoImplicit false

open Float.Model (UnpackedFloat)

namespace Double

/-! ## The greatest double -/

/-- The distance of the greatest doubles. -/
def lastUnit : ℚ :=
  2 ^ (971 : ℤ)

theorem lastUnit_pos : 0 < lastUnit :=
  unit_pos _

theorem lastUnit_mul (k : ℕ) : (2 : ℚ) ^ (971 + k : ℤ) = 2 ^ k * lastUnit := by
  rw [lastUnit, add_comm, zpow_add₀ two_ne_zero, zpow_natCast]

theorem top_eq : (2 : ℚ) ^ (1024 : ℤ) = 2 ^ 53 * lastUnit :=
  lastUnit_mul 53

/-- The greatest double is a last unit below the end of the doubles. -/
theorem abs_value_le (x : Float) : |value x| ≤ 2 ^ 53 * lastUnit - lastUnit := by
  have unit := lastUnit_pos
  unfold value
  cases unpacked : x.toModel.unpack with
  | finite s m e pos =>
      obtain ⟨short, -, -, range⟩ := unpack_bounds unpacked
      have digits : (m : ℚ) ≤ 2 ^ 53 - 1 := by
        have : m + 1 ≤ 2 ^ 53 := short
        exact le_sub_iff_add_le.2 (by exact_mod_cast this)
      show |signed s _| ≤ _
      rw [abs_signed, abs_of_nonneg (mul_nonneg m.cast_nonneg (unit_pos e).le)]
      calc (m : ℚ) * 2 ^ e ≤ (2 ^ 53 - 1) * lastUnit :=
            mul_le_mul digits (zpow_le_zpow_right₀ one_le_two range) (unit_pos e).le (by norm_num)
        _ = 2 ^ 53 * lastUnit - lastUnit := by ring
  | _ =>
      show |(0 : ℚ)| ≤ _
      rw [abs_zero]
      linarith

theorem abs_value_lt (x : Float) : |value x| < 2 ^ (1024 : ℤ) := by
  have unit := lastUnit_pos
  rw [top_eq]
  exact (abs_value_le x).trans_lt (sub_lt_self _ unit)

/-- One half is less than the greatest double is rounded by, so it adds nothing there. -/
theorem isFinite_add_half {x : Float} (finite : x.isFinite = true) : (x + 0.5).isFinite = true := by
  have rounds := rounds_add finite (y := 0.5) rfl
  rw [value_half] at rounds
  have error := abs_nearest_sub_le (value x + 1 / 2)
  have growth := abs_sub_abs_le_abs_sub (nearest (value x + 1 / 2)) (value x + 1 / 2)
  have bound := abs_value_le x
  have sum := abs_add_le (value x) (1 / 2)
  have large : 2 ^ 54 ≤ lastUnit := by
    rw [← zpow_natCast]
    exact zpow_le_zpow_right₀ one_le_two (by decide)
  have least : (2 : ℚ) ^ (-1075 : ℤ) ≤ 1 := zpow_le_one_of_nonpos₀ one_le_two (by decide)
  rw [abs_of_pos (one_half_pos (α := ℚ))] at sum
  rw [rounds.isFinite_iff, top_eq]
  generalize (2 : ℚ) ^ (-1075 : ℤ) = least' at *
  linarith

/-! ## Points in order -/

section

variable {x h c d : Float}

/-- A step taken fewer times does not get past a finite point. -/
theorem isFinite_between (finite : c.isFinite = true) (nonneg : 0 ≤ value c)
    (fewer : value c ≤ value d) (reached : (x + d * h).isFinite = true) :
    (x + c * h).isFinite = true := by
  obtain ⟨origin, product⟩ := finite_of_add reached
  obtain ⟨times, step⟩ := finite_of_mul product
  have near := rounds_mul finite step
  have far := rounds_mul times step
  have shorter : |value c * value h| ≤ |value d * value h| := by
    rw [abs_mul, abs_mul, abs_of_nonneg nonneg, abs_of_nonneg (nonneg.trans fewer)]
    exact mul_le_mul_of_nonneg_right fewer (abs_nonneg _)
  have product' : (c * h).isFinite = true :=
    near.isFinite_iff.2 ((abs_nearest_mono shorter).trans_lt (far.isFinite_iff.1 product))
  have stop := (rounds_add origin product).isFinite_iff.1 reached
  refine (rounds_add origin product').isFinite_iff.2 ?_
  rw [near.value_eq product']
  rw [far.value_eq product] at stop
  -- The point lies between the origin and the one that is reached.
  have between : |value x + nearest (value c * value h)| ≤
      max |value x| |value x + nearest (value d * value h)| := by
    rcases le_total 0 (value h) with forward | backward
    · have first : 0 ≤ nearest (value c * value h) := nearest_nonneg (mul_nonneg nonneg forward)
      have last : nearest (value c * value h) ≤ nearest (value d * value h) :=
        nearest_mono (mul_le_mul_of_nonneg_right fewer forward)
      exact abs_le_max_abs_abs (le_add_of_nonneg_right first) ((add_le_add_iff_left _).2 last)
    · have first : nearest (value c * value h) ≤ 0 := by
        rw [← nearest_zero]
        exact nearest_mono (mul_nonpos_of_nonneg_of_nonpos nonneg backward)
      have last : nearest (value d * value h) ≤ nearest (value c * value h) :=
        nearest_mono (mul_le_mul_of_nonpos_right fewer backward)
      rw [max_comm]
      exact abs_le_max_abs_abs ((add_le_add_iff_left _).2 last) (add_le_of_nonpos_right first)
  rcases le_max_iff.1 between with close | distant
  · refine (abs_nearest_mono close).trans_lt ?_
    rw [nearest_value origin]
    exact abs_value_lt x
  · exact (abs_nearest_mono distant).trans_lt stop

end

/-! ## Room for rounding -/

/-- Rounding moves a number by less than its `2 ^ 53`rd part and a last unit. -/
theorem nearest_error (q : ℚ) : |nearest q - q| ≤ |q| / 2 ^ 53 + lastUnit := by
  refine (abs_nearest_sub_le q).trans ((add_le_add_iff_left _).2 ?_)
  exact zpow_le_zpow_right₀ one_le_two (by decide)

/-- A number that keeps clear of the greatest double does not overflow, and is rounded by less than
two of the last units. -/
theorem isFinite_of_rounds {x : Float} {q : ℚ} (rounds : Rounds x q)
    (clear : |q| ≤ 2 ^ 53 * lastUnit - 2 * lastUnit) :
    x.isFinite = true ∧ |value x - q| ≤ 2 * lastUnit := by
  have unit := lastUnit_pos
  have error := nearest_error q
  have growth := abs_sub_abs_le_abs_sub (nearest q) q
  have finite : x.isFinite = true := by
    rw [rounds.isFinite_iff, top_eq]
    linarith
  refine ⟨finite, ?_⟩
  rw [rounds.value_eq finite]
  linarith

/-- The ends and their distance keep clear of the greatest double. -/
structure Roomy (x0 x1 : Float) : Prop where
  first : |value x0| ≤ 2 ^ (1024 : ℤ) - 2 ^ (977 : ℤ)
  last : |value x1| ≤ 2 ^ (1024 : ℤ) - 2 ^ (977 : ℤ)
  width : |value x1 - value x0| ≤ 2 ^ (1024 : ℤ) - 2 ^ (977 : ℤ)

section

variable {x0 x1 y c : Float}

/-- The step, taken as often as there are steps, is the width up to two of the last units. -/
theorem isFinite_step (width : (x1 - x0).isFinite = true) (count : y.isFinite = true)
    (some : 1 ≤ value y) : ((x1 - x0) / y).isFinite = true ∧
      |value y * value ((x1 - x0) / y) - value (x1 - x0)| ≤ 2 * lastUnit := by
  have positive : 0 < value y := zero_lt_one.trans_le some
  have rounds := rounds_div width count positive.ne'
  have finite : ((x1 - x0) / y).isFinite = true := by
    refine rounds.isFinite_iff.2 ((abs_nearest_mono (q := value (x1 - x0)) ?_).trans_lt ?_)
    · rw [abs_div, abs_of_pos positive]
      exact div_le_self (abs_nonneg _) some
    · rw [nearest_value width]
      exact abs_value_lt (x1 - x0)
  refine ⟨finite, ?_⟩
  -- The error of the division is multiplied by the number of steps.
  have error := abs_nearest_sub_le (value (x1 - x0) / value y)
  have least : value y * 2 ^ (-1075 : ℤ) ≤ lastUnit := by
    have bound := abs_lt.1 (abs_value_lt y)
    calc value y * 2 ^ (-1075 : ℤ) ≤ 2 ^ (1024 : ℤ) * 2 ^ (-1075 : ℤ) :=
          mul_le_mul_of_nonneg_right bound.2.le (unit_pos _).le
      _ = 2 ^ (-51 : ℤ) := (zpow_add₀ two_ne_zero _ _).symm
      _ ≤ lastUnit := zpow_le_zpow_right₀ one_le_two (by decide)
  have below := abs_value_lt (x1 - x0)
  rw [top_eq] at below
  rw [abs_div, abs_of_pos positive] at error
  calc |value y * value ((x1 - x0) / y) - value (x1 - x0)|
      = value y * |nearest (value (x1 - x0) / value y) - value (x1 - x0) / value y| := by
        rw [rounds.value_eq finite, ← abs_of_pos positive, ← abs_mul, abs_of_pos positive,
          mul_sub, mul_div_cancel₀ _ positive.ne']
    _ ≤ value y * (|value (x1 - x0)| / value y / 2 ^ 53 + 2 ^ (-1075 : ℤ)) :=
        mul_le_mul_of_nonneg_left error positive.le
    _ = |value (x1 - x0)| / 2 ^ 53 + value y * 2 ^ (-1075 : ℤ) := by
        rw [mul_add, ← mul_div_assoc, mul_div_cancel₀ _ positive.ne']
    _ ≤ 2 * lastUnit := by linarith

/-- A share of the way from `a` to `b` stays within their bound, and one that is a little more than
the whole, within a little more. -/
theorem abs_between_le {a b share bound more : ℚ} (first : |a| ≤ bound) (last : |b| ≤ bound)
    (width : |b - a| ≤ bound) (nonneg : 0 ≤ share) (inside : share ≤ 1 + more)
    (more0 : 0 ≤ more) : |a + share * (b - a)| ≤ bound + more * bound := by
  have bound0 : 0 ≤ bound := (abs_nonneg a).trans first
  have slack : 0 ≤ more * bound := mul_nonneg more0 bound0
  rcases le_total share 1 with part | whole
  · calc |a + share * (b - a)| = |(1 - share) * a + share * b| := by
          congr 1
          ring
      _ ≤ (1 - share) * |a| + share * |b| := by
          refine (abs_add_le _ _).trans_eq ?_
          rw [abs_mul, abs_mul, abs_of_nonneg (sub_nonneg.2 part), abs_of_nonneg nonneg]
      _ ≤ (1 - share) * bound + share * bound :=
          add_le_add (mul_le_mul_of_nonneg_left first (sub_nonneg.2 part))
            (mul_le_mul_of_nonneg_left last nonneg)
      _ ≤ bound + more * bound := by linarith
  · calc |a + share * (b - a)| = |b + (share - 1) * (b - a)| := by
          congr 1
          ring
      _ ≤ |b| + (share - 1) * |b - a| := by
          refine (abs_add_le _ _).trans_eq ?_
          rw [abs_mul, abs_of_nonneg (sub_nonneg.2 whole)]
      _ ≤ bound + more * bound :=
          add_le_add last (mul_le_mul (by linarith) width (abs_nonneg _) more0)

/-- **Where there is room, a point is finite** whose offset is at most the number of steps, up to the
roundings of both. -/
theorem isFinite_of_roomy (roomy : Roomy x0 x1) (finite0 : x0.isFinite = true)
    (finite1 : x1.isFinite = true) (count : y.isFinite = true) (some : 1 ≤ value y)
    (finite : c.isFinite = true) (nonneg : 0 ≤ value c)
    (inside : value c ≤ (1 + 1 / 2 ^ 50) * value y) :
    (x0 + c * ((x1 - x0) / y)).isFinite = true := by
  have positive : 0 < value y := zero_lt_one.trans_le some
  have unit := lastUnit_pos
  obtain ⟨first, last, clear⟩ := roomy
  rw [top_eq, show (2 : ℚ) ^ (977 : ℤ) = 2 ^ 6 * lastUnit from lastUnit_mul 6] at first last clear
  obtain ⟨width, error⟩ := isFinite_of_rounds (rounds_sub finite1 finite0) (by linarith)
  obtain ⟨step, error'⟩ := isFinite_step width count some
  -- The share of the width that lies before the point.
  obtain ⟨share, same⟩ : ∃ share, value c = share * value y :=
    ⟨value c / value y, (div_mul_cancel₀ _ positive.ne').symm⟩
  rw [same] at nonneg inside
  have share0 : 0 ≤ share := nonneg_of_mul_nonneg_left nonneg positive
  have share1 : share ≤ 1 + 1 / 2 ^ 50 := le_of_mul_le_mul_right inside positive
  have scale {d e : ℚ} (small : |d| ≤ e) : |share * d| ≤ (1 + 1 / 2 ^ 50) * e := by
    rw [abs_mul, abs_of_nonneg share0]
    exact mul_le_mul share1 small (abs_nonneg d) (share0.trans share1)
  have whole := scale clear
  have errors := scale error
  have errors' := scale error'
  have product : value c * value ((x1 - x0) / y) =
      share * (value x1 - value x0) + share * (value (x1 - x0) - (value x1 - value x0)) +
        share * (value y * value ((x1 - x0) / y) - value (x1 - x0)) := by
    rw [same]
    ring
  obtain ⟨walked, error''⟩ : (c * ((x1 - x0) / y)).isFinite = true ∧
      |value (c * ((x1 - x0) / y)) - value c * value ((x1 - x0) / y)| ≤ 2 * lastUnit := by
    refine isFinite_of_rounds (rounds_mul finite step) ?_
    rw [product]
    refine (abs_add_three _ _ _).trans ?_
    linarith
  refine (isFinite_of_rounds (rounds_add finite0 walked) ?_).1
  have between := abs_between_le first last clear share0 share1 (by norm_num)
  have sum : value x0 + value (c * ((x1 - x0) / y)) =
      (value x0 + share * (value x1 - value x0)) +
        share * (value (x1 - x0) - (value x1 - value x0)) +
        (share * (value y * value ((x1 - x0) / y) - value (x1 - x0)) +
          (value (c * ((x1 - x0) / y)) - value c * value ((x1 - x0) / y))) := by
    rw [product]
    ring
  rw [sum]
  refine (abs_add_three _ _ _).trans ?_
  have rest := abs_add_le (share * (value y * value ((x1 - x0) / y) - value (x1 - x0)))
    (value (c * ((x1 - x0) / y)) - value c * value ((x1 - x0) / y))
  linarith

end

end Double

end Quadrature.Number
